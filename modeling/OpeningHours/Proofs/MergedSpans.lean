import OpeningHours.TimeOfDay

/-!
# OpeningHours — merging keeps the open minutes

A list of spans is merged by sorting it by starts and joining each span to the one before it while
they overlap or touch. The merged list opens the same minutes as the given one, and its spans are
separated: between two of them there is a closed minute, so the end of a span is never open.

A separated list is already in the order of its starts and nothing in it can be joined, so merging
leaves it as it is.

## Results

* `covered_merge`        — merging keeps the open minutes.
* `separated_merge`      — merged spans are separated.
* `merge_eq_self`        — separated spans are their own merged form.
* `not_covered_stop`     — separated spans do not open the end of a span.
-/

namespace OpeningHours.Span

-- ---------------------------------------------------------------------------
-- Open minutes
-- ---------------------------------------------------------------------------

/-- A minute is covered by the first span or by the others. -/
@[simp] theorem covered_cons {s : Span} {spans : List Span} {t : TimeOfDay} :
    Covered (s :: spans) t ↔ s.covers t = true ∨ Covered spans t := by
  simp [Covered]

/-- The order of the spans does not matter for the open minutes. -/
theorem covered_of_perm {spans spans' : List Span} (h : spans.Perm spans') (t : TimeOfDay) :
    Covered spans t ↔ Covered spans' t := by
  unfold Covered
  constructor
  · rintro ⟨s, hs, hcov⟩
    exact ⟨s, h.mem_iff.mp hs, hcov⟩
  · rintro ⟨s, hs, hcov⟩
    exact ⟨s, h.mem_iff.mpr hs, hcov⟩

/-- A span holds its start. -/
theorem covers_start (s : Span) : s.covers s.start = true :=
  covers_iff.mpr ⟨Nat.le_refl _, s.start_lt_stop⟩

-- ---------------------------------------------------------------------------
-- Sorting
-- ---------------------------------------------------------------------------

/-- The spans are in the order of their starts. -/
def Ascending (spans : List Span) : Prop :=
  spans.Pairwise fun s t => s.start.minutes ≤ t.start.minutes

/-- Putting a span into a sorted list keeps it sorted. -/
theorem ascending_insertSpan {s : Span} {spans : List Span} (h : Ascending spans) :
    Ascending (insertSpan s spans) := by
  induction spans with
  | nil => exact List.pairwise_singleton _ _
  | cons t rest ih =>
    obtain ⟨hhead, hrest⟩ := List.pairwise_cons.mp h
    rw [insertSpan]
    split
    · rename_i hle
      -- put in front of the head, and so of all that start no earlier than the head
      refine List.pairwise_cons.mpr ⟨?_, h⟩
      intro x hx
      rcases List.mem_cons.mp hx with rfl | hx
      · exact hle
      · exact Nat.le_trans hle (hhead x hx)
    · rename_i hle
      -- put further back: the head stays in front of the rest and of the new span
      refine List.pairwise_cons.mpr ⟨?_, ih hrest⟩
      intro x hx
      rcases List.mem_cons.mp ((insertSpan_perm s rest).mem_iff.mp hx) with rfl | hx
      · omega
      · exact hhead x hx

/-- Sorting puts the spans in ascending order. -/
theorem ascending_sortSpans (spans : List Span) : Ascending (sortSpans spans) := by
  induction spans with
  | nil => exact List.Pairwise.nil
  | cons s rest ih => exact ascending_insertSpan ih

/-- A span that starts no later than a list's first one is put in front of it. -/
theorem insertSpan_of_le {s : Span} {spans : List Span}
    (h : ∀ t ∈ spans, s.start.minutes ≤ t.start.minutes) : insertSpan s spans = s :: spans := by
  cases spans with
  | nil => rfl
  | cons t rest => rw [insertSpan, if_pos (h t (List.mem_cons_self ..))]

/-- Sorting leaves a sorted list as it is. -/
theorem sortSpans_eq_self {spans : List Span} (h : Ascending spans) : sortSpans spans = spans := by
  induction spans with
  | nil => rfl
  | cons s rest ih =>
    obtain ⟨hhead, hrest⟩ := List.pairwise_cons.mp h
    rw [sortSpans, List.foldr_cons, ← sortSpans, ih hrest, insertSpan_of_le hhead]

-- ---------------------------------------------------------------------------
-- Joining
-- ---------------------------------------------------------------------------

@[simp] theorem start_extendTo (s : Span) (stop : TimeOfDay) :
    (s.extendTo stop).start = s.start := by
  unfold extendTo
  split <;> rfl

/-- An extended span ends at the later of two ends. -/
@[simp] theorem stop_extendTo (s : Span) (stop : TimeOfDay) :
    (s.extendTo stop).stop.minutes = max s.stop.minutes stop.minutes := by
  unfold extendTo
  split
  · show stop.minutes = _
    omega
  · omega

/-- A span that is moved on over a span that overlaps or touches it opens the minutes of both. -/
theorem covers_extendTo {s next : Span} (hstart : s.start.minutes ≤ next.start.minutes)
    (htouch : next.start.minutes ≤ s.stop.minutes) (t : TimeOfDay) :
    (s.extendTo next.stop).covers t = true ↔ s.covers t = true ∨ next.covers t = true := by
  have := s.start_lt_stop
  have := next.start_lt_stop
  simp only [covers_iff, start_extendTo, stop_extendTo]
  omega

/-- Merging a span with the sorted spans behind it keeps the open minutes. -/
theorem covered_mergeFrom {s : Span} {rest : List Span} (h : Ascending (s :: rest))
    (t : TimeOfDay) : Covered (mergeFrom s rest) t ↔ Covered (s :: rest) t := by
  -- the span in front grows along the list, so the induction is over every such span
  induction rest generalizing s with
  | nil => rfl
  | cons next rest ih =>
    obtain ⟨hhead, hrest⟩ := List.pairwise_cons.mp h
    have hstart := hhead next (List.mem_cons_self ..)
    rw [mergeFrom]
    split
    · rename_i htouch
      -- the span that was moved on keeps its start, so it may take its place in the order
      have hasc : Ascending (s.extendTo next.stop :: rest) := by
        refine List.pairwise_cons.mpr ⟨?_, (List.pairwise_cons.mp hrest).2⟩
        intro x hx
        rw [start_extendTo]
        exact hhead x (List.mem_cons_of_mem _ hx)
      rw [ih hasc, covered_cons, covers_extendTo hstart htouch, covered_cons, covered_cons,
        or_assoc]
    · rw [covered_cons, ih hrest, ← covered_cons]

/-- Merging keeps the open minutes. -/
theorem covered_merge (spans : List Span) (t : TimeOfDay) :
    Covered (merge spans) t ↔ Covered spans t := by
  have hasc := ascending_sortSpans spans
  rw [← covered_of_perm (sortSpans_perm spans) t]
  unfold merge
  split
  · rename_i h
    rw [h]
  · rename_i s rest h
    rw [h] at hasc ⊢
    exact covered_mergeFrom hasc t

-- ---------------------------------------------------------------------------
-- Separation
-- ---------------------------------------------------------------------------

/-- The merged list begins where the span in front begins. -/
theorem mergeFrom_eq_cons (s : Span) (rest : List Span) :
    ∃ first others, mergeFrom s rest = first :: others ∧ first.start = s.start := by
  induction rest generalizing s with
  | nil => exact ⟨s, [], rfl, rfl⟩
  | cons next rest ih =>
    rw [mergeFrom]
    split
    · obtain ⟨first, others, heq, hstart⟩ := ih (s.extendTo next.stop)
      exact ⟨first, others, heq, by rw [hstart, start_extendTo]⟩
    · exact ⟨s, _, rfl, rfl⟩

/-- Merging leaves a closed minute between spans. -/
theorem separated_mergeFrom (s : Span) (rest : List Span) : Separated (mergeFrom s rest) := by
  induction rest generalizing s with
  | nil => trivial
  | cons next rest ih =>
    rw [mergeFrom]
    split
    · exact ih _
    · rename_i hgap
      -- the merged rest begins where `next` does, so the gap in front of `next` is kept
      obtain ⟨first, others, heq, hstart⟩ := mergeFrom_eq_cons next rest
      have hsep := ih next
      rw [heq] at hsep ⊢
      refine ⟨?_, hsep⟩
      rw [hstart]
      omega

/-- Merged spans are separated. -/
theorem separated_merge (spans : List Span) : Separated (merge spans) := by
  unfold merge
  split
  · trivial
  · exact separated_mergeFrom _ _

/-- In a separated list every span ends before each later one starts. -/
theorem Separated.pairwise {spans : List Span} (h : Separated spans) :
    spans.Pairwise fun s t => s.stop.minutes < t.start.minutes := by
  induction spans with
  | nil => exact List.Pairwise.nil
  | cons s rest ih =>
    cases rest with
    | nil => exact List.pairwise_singleton _ _
    | cons t others =>
      have hrest := ih h.2
      refine List.pairwise_cons.mpr ⟨?_, hrest⟩
      intro x hx
      rcases List.mem_cons.mp hx with rfl | hx
      · exact h.1
      · -- the spans between are not empty, so the gaps add up
        have hgap := (List.pairwise_cons.mp hrest).1 x hx
        have := h.1
        have := t.start_lt_stop
        omega

theorem Separated.tail {s : Span} {spans : List Span} (h : Separated (s :: spans)) :
    Separated spans := by
  cases spans with
  | nil => trivial
  | cons t rest => exact h.2

theorem Separated.ascending {spans : List Span} (h : Separated spans) : Ascending spans := by
  refine h.pairwise.imp ?_
  intro s t hlt
  have := s.start_lt_stop
  omega

/-- Separated spans are not changed by merging. -/
theorem mergeFrom_eq_self {s : Span} {rest : List Span} (h : Separated (s :: rest)) :
    mergeFrom s rest = s :: rest := by
  induction rest generalizing s with
  | nil => rfl
  | cons next rest ih =>
    have hgap : s.stop.minutes < next.start.minutes := h.1
    rw [mergeFrom, if_neg (by omega), ih h.2]

/-- Separated spans are their own merged form. -/
theorem merge_eq_self {spans : List Span} (h : Separated spans) : merge spans = spans := by
  rw [merge, sortSpans_eq_self h.ascending]
  cases spans with
  | nil => rfl
  | cons s rest => exact mergeFrom_eq_self h

/-- Separated spans do not open the end of any of them. -/
theorem not_covered_stop {spans : List Span} (h : Separated spans) {s : Span} (hs : s ∈ spans) :
    ¬ Covered spans s.stop := by
  induction spans with
  | nil => simp at hs
  | cons t rest ih =>
    have hlater := (List.pairwise_cons.mp h.pairwise).1
    rw [covered_cons, covers_iff]
    rintro (hcov | hcov)
    · -- the first span has ended at the end of every span of the list
      rcases List.mem_cons.mp hs with rfl | hs
      · omega
      · have := hlater s hs
        have := s.start_lt_stop
        omega
    · rcases List.mem_cons.mp hs with rfl | hs
      · -- a later span has not begun where the first one ends
        obtain ⟨x, hx, hcov⟩ := hcov
        have := hlater x hx
        have := (covers_iff.mp hcov).1
        omega
      · exact ih h.tail hs hcov

end OpeningHours.Span
