import Mathlib.Logic.Relation
import OpeningHours.Proofs.MergedSpans

/-!
# OpeningHours — one list for each set of open minutes

Many lists of spans open the same minutes: spans may come in any order, be given twice, be cut in
two at a minute inside, or be merged in part beforehand. Separated spans leave no such choice. The
first of them starts at the first open minute and ends at the first closed minute after it, and the
others open what is left, so the open minutes determine the list.

Merging gives separated spans that open the minutes of the given ones. So it gives the one list that
stands for these minutes, whichever of their lists it is given.

* `Rewrite` — one change of a list of spans that its open minutes do not show.

## Results

* `Separated.eq_of_covered_iff` — separated spans are determined by the minutes they open.
* `Rewrite.covered_iff`         — a change of this kind keeps the open minutes.
* `merge_normalForm`            — merging gives the normal form of a set of open minutes.
-/

namespace OpeningHours.Span

-- ---------------------------------------------------------------------------
-- The first span
-- ---------------------------------------------------------------------------

theorem ext_minutes {s s' : Span} (hstart : s.start.minutes = s'.start.minutes)
    (hstop : s.stop.minutes = s'.stop.minutes) : s = s' := by
  obtain ⟨start, stop, hlt⟩ := s
  obtain ⟨start', stop', hlt'⟩ := s'
  obtain rfl : start = start' := TimeOfDay.ext hstart
  obtain rfl : stop = stop' := TimeOfDay.ext hstop
  rfl

/-- No minute is open before the first span starts. -/
theorem Separated.start_le_of_covered {s : Span} {rest : List Span} {t : TimeOfDay}
    (h : Separated (s :: rest)) (hcov : Covered (s :: rest) t) :
    s.start.minutes ≤ t.minutes := by
  obtain ⟨x, hx, hcov⟩ := hcov
  have hfrom := (covers_iff.mp hcov).1
  rcases List.mem_cons.mp hx with rfl | hx
  · exact hfrom
  · have hlater := (List.pairwise_cons.mp h.ascending).1 x hx
    omega

/-- Of two lists, the one with more open minutes starts no later. -/
theorem Separated.start_le_start {s s' : Span} {rest rest' : List Span}
    (h : Separated (s :: rest))
    (hmore : ∀ t, Covered (s' :: rest') t → Covered (s :: rest) t) :
    s.start.minutes ≤ s'.start.minutes :=
  h.start_le_of_covered (hmore _ (covered_cons.mpr (.inl (covers_start s'))))

/-- Of two lists that start together, the first span of the one with more open minutes ends no
sooner. -/
theorem Separated.stop_le_stop {s s' : Span} {rest rest' : List Span}
    (h : Separated (s :: rest)) (hstart : s'.start.minutes = s.start.minutes)
    (hmore : ∀ t, Covered (s' :: rest') t → Covered (s :: rest) t) :
    s'.stop.minutes ≤ s.stop.minutes := by
  refine Nat.le_of_not_lt fun hlt => not_covered_stop h (List.mem_cons_self ..) ?_
  -- the other first span goes on where this one has ended
  have hlong := s.start_lt_stop
  exact hmore _ (covered_cons.mpr (.inl (covers_iff.mpr ⟨by omega, hlt⟩)))

/-- The spans behind the first one open the open minutes that it does not hold. -/
theorem Separated.covered_tail_iff {s : Span} {rest : List Span} (h : Separated (s :: rest))
    (t : TimeOfDay) : Covered rest t ↔ Covered (s :: rest) t ∧ ¬ s.covers t = true := by
  rw [covered_cons]
  constructor
  · intro hcov
    refine ⟨.inr hcov, ?_⟩
    obtain ⟨x, hx, hcov⟩ := hcov
    have hgap := (List.pairwise_cons.mp h.pairwise).1 x hx
    rw [covers_iff] at hcov ⊢
    omega
  · rintro ⟨hfirst | hcov, hnot⟩
    · exact absurd hfirst hnot
    · exact hcov

-- ---------------------------------------------------------------------------
-- Uniqueness
-- ---------------------------------------------------------------------------

theorem not_covered_nil (t : TimeOfDay) : ¬ Covered [] t := by
  rintro ⟨s, hs, -⟩
  simp at hs

/-- Separated spans are determined by the minutes they open. -/
theorem Separated.eq_of_covered_iff {spans spans' : List Span} (h : Separated spans)
    (h' : Separated spans') (hsame : ∀ t, Covered spans t ↔ Covered spans' t) :
    spans = spans' := by
  induction spans generalizing spans' with
  | nil =>
    cases spans' with
    | nil => rfl
    | cons s' rest' =>
      have hopen := (hsame s'.start).mpr (covered_cons.mpr (.inl (covers_start s')))
      exact absurd hopen (not_covered_nil _)
  | cons s rest ih =>
    cases spans' with
    | nil =>
      have hopen := (hsame s.start).mp (covered_cons.mpr (.inl (covers_start s)))
      exact absurd hopen (not_covered_nil _)
    | cons s' rest' =>
      have hstart : s.start.minutes = s'.start.minutes :=
        Nat.le_antisymm (h.start_le_start fun t => (hsame t).mpr)
          (h'.start_le_start fun t => (hsame t).mp)
      have hstop : s.stop.minutes = s'.stop.minutes :=
        Nat.le_antisymm (h'.stop_le_stop hstart fun t => (hsame t).mp)
          (h.stop_le_stop hstart.symm fun t => (hsame t).mpr)
      obtain rfl := ext_minutes hstart hstop
      -- the first spans are the same one, so what it leaves open is the same as well
      have htail : ∀ t, Covered rest t ↔ Covered rest' t := by
        intro t
        rw [h.covered_tail_iff, h'.covered_tail_iff, hsame]
      rw [ih h.tail h'.tail htail]

/-- The merged form of spans is the separated list that opens their minutes. -/
theorem eq_merge_iff {spans normal : List Span} :
    normal = merge spans ↔ Separated normal ∧ ∀ t, Covered normal t ↔ Covered spans t := by
  constructor
  · rintro rfl
    exact ⟨separated_merge spans, covered_merge spans⟩
  · rintro ⟨hsep, hsame⟩
    refine hsep.eq_of_covered_iff (separated_merge spans) ?_
    intro t
    rw [hsame, covered_merge]

/-- Lists have one merged form exactly if they open the same minutes. -/
theorem merge_eq_merge_iff {spans spans' : List Span} :
    merge spans = merge spans' ↔ ∀ t, Covered spans t ↔ Covered spans' t := by
  rw [eq_merge_iff]
  constructor
  · rintro ⟨-, hsame⟩ t
    rw [← hsame, covered_merge]
  · intro hsame
    refine ⟨separated_merge spans, ?_⟩
    intro t
    rw [covered_merge, hsame]

-- ---------------------------------------------------------------------------
-- Changes that do not show
-- ---------------------------------------------------------------------------

/-- One change of a list of spans that its open minutes do not show. -/
inductive Rewrite : List Span → List Span → Prop where
  /-- The spans come in another order. -/
  | order {spans spans' : List Span} (h : spans.Perm spans') : Rewrite spans spans'
  /-- One of the spans is given once more. -/
  | again {s : Span} {spans : List Span} (h : s ∈ spans) : Rewrite spans (s :: spans)
  /-- A span is cut in two that touch. -/
  | cut {s left right : Span} (rest : List Span) (hstart : left.start = s.start)
      (htouch : left.stop = right.start) (hstop : right.stop = s.stop) :
      Rewrite (s :: rest) (left :: right :: rest)
  /-- A part of the spans is merged beforehand. -/
  | mergePart (part rest : List Span) : Rewrite (part ++ rest) (merge part ++ rest)

theorem covered_append {spans spans' : List Span} {t : TimeOfDay} :
    Covered (spans ++ spans') t ↔ Covered spans t ∨ Covered spans' t := by
  simp only [Covered, List.mem_append, or_and_right, exists_or]

/-- The two parts of a span that is cut hold its minutes. -/
theorem covers_cut {s left right : Span} (hstart : left.start = s.start)
    (htouch : left.stop = right.start) (hstop : right.stop = s.stop) (t : TimeOfDay) :
    s.covers t = true ↔ left.covers t = true ∨ right.covers t = true := by
  have hleft := left.start_lt_stop
  have hright := right.start_lt_stop
  rw [covers_iff, covers_iff, covers_iff, ← hstart, ← htouch, ← hstop]
  rw [← htouch] at hright
  omega

/-- One such change keeps the open minutes. -/
theorem Rewrite.covered_iff {spans spans' : List Span} (h : Rewrite spans spans')
    (t : TimeOfDay) : Covered spans t ↔ Covered spans' t := by
  cases h with
  | order h => exact covered_of_perm h t
  | @again s _ h =>
    rw [covered_cons]
    refine ⟨.inr, ?_⟩
    rintro (hcov | hcov)
    · exact ⟨s, h, hcov⟩
    · exact hcov
  | cut rest hstart htouch hstop =>
    rw [covered_cons, covered_cons, covered_cons, covers_cut hstart htouch hstop, or_assoc]
  | mergePart part rest => rw [covered_append, covered_append, covered_merge]

/-- Merging itself is such a change. -/
theorem rewrite_merge (spans : List Span) : Rewrite spans (merge spans) := by
  have hpart := Rewrite.mergePart spans []
  rwa [List.append_nil, List.append_nil] at hpart

/-- Any number of such changes, made or taken back, keeps the open minutes. -/
theorem covered_iff_of_eqvGen {spans spans' : List Span}
    (h : Relation.EqvGen Rewrite spans spans') (t : TimeOfDay) :
    Covered spans t ↔ Covered spans' t := by
  induction h with
  | rel _ _ h => exact h.covered_iff t
  | refl _ => rfl
  | symm _ _ _ ih => exact ih.symm
  | trans _ _ _ _ _ ih ih' => exact ih.trans ih'

/-- **The normal form of a set of open minutes.** Merging opens the same minutes by separated spans,
and no other separated list opens them. So two lists are merged into the same one exactly if they
open the same minutes, which is to say if one turns into the other by reordering, repeating, cutting
and merging spans. -/
theorem merge_normalForm (spans : List Span) :
    (∀ t, Covered (merge spans) t ↔ Covered spans t) ∧
    Separated (merge spans) ∧
    (∀ normal, normal = merge spans ↔
      Separated normal ∧ ∀ t, Covered normal t ↔ Covered spans t) ∧
    (∀ spans', merge spans = merge spans' ↔ ∀ t, Covered spans t ↔ Covered spans' t) ∧
    (∀ spans', merge spans = merge spans' ↔ Relation.EqvGen Rewrite spans spans') ∧
    merge (merge spans) = merge spans := by
  refine ⟨covered_merge spans, separated_merge spans, fun _ => eq_merge_iff,
    fun _ => merge_eq_merge_iff, ?_, merge_eq_self (separated_merge spans)⟩
  intro spans'
  constructor
  · intro heq
    -- both lists turn into their common merged form
    have hleft := Relation.EqvGen.rel _ _ (rewrite_merge spans)
    have hright := Relation.EqvGen.rel _ _ (rewrite_merge spans')
    rw [← heq] at hright
    exact hleft.trans _ _ _ (hright.symm _ _)
  · intro h
    exact merge_eq_merge_iff.mpr (covered_iff_of_eqvGen h)

end OpeningHours.Span
