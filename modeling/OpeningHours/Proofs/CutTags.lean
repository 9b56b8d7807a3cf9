import OpeningHours.Proofs.BreakTags

/-!
# OpeningHours — tags that are cut by other tags

Unifying breaks is one pass, and the line feed that it writes for a tag is blank. So it may stand
where a tag allows blanks: `<br<br>>` becomes a tag with a line feed in its gap. This is the only
way in which a tag is left over. A tag in the unified text takes its brackets, letters and slash
from the text before, next to each other but for the gap; and the gap stems from blanks and whole
tags. Had there been no tag, the pass would have met the tag itself.

* `Unifies`  — the pass as a relation, with a rule for each kind of break and one for what is kept.
* `IsGap`    — blanks and break tags.
* `IsCutTag` — a tag with at least one whole tag in its gap.

## Results

* `unifies_iff`           — the relation is what the function computes.
* `Unifies.exists_split`  — a cut of the unified text is a cut of the text.
* `unifyBreaks_eq_self_iff` — what unifying leaves alone.
* `unifyBreaks_leaves_iff`  — when a tag is left over.
-/

namespace OpeningHours.Schedule

open Text

-- ---------------------------------------------------------------------------
-- The pass as a relation
-- ---------------------------------------------------------------------------

/-- The second text is the first one with its breaks unified. -/
inductive Unifies : List Char → List Char → Prop where
  | nil : Unifies [] []
  | returnFeed {cs out : List Char} (h : Unifies cs out) :
      Unifies ('\r' :: '\n' :: cs) ('\n' :: out)
  | carriageReturn {cs out : List Char} (hhead : cs.head? ≠ some '\n') (h : Unifies cs out) :
      Unifies ('\r' :: cs) ('\n' :: out)
  | tag {tag cs out : List Char} (htag : IsBreakTag tag) (h : Unifies cs out) :
      Unifies (tag ++ cs) ('\n' :: out)
  | keep {c : Char} {cs out : List Char} (hc : c ≠ '\r') (hread : readBreakTag (c :: cs) = none)
      (h : Unifies cs out) : Unifies (c :: cs) (c :: out)

/-- The rules give no more than what is computed. -/
theorem Unifies.eq_unifyBreaks {cs out : List Char} (h : Unifies cs out) :
    out = unifyBreaks cs := by
  induction h with
  | nil => rfl
  | returnFeed _ ih => rw [ih, unifyBreaks_returnFeed]
  | carriageReturn hhead _ ih => rw [ih, unifyBreaks_return hhead]
  | tag htag _ ih => rw [ih, unifyBreaks_tag htag]
  | keep hc hread _ ih => rw [ih, unifyBreaks_cons hc hread]

/-- The rules apply to every text. -/
theorem exists_unifies (cs : List Char) : ∃ out, Unifies cs out := by
  -- a tag is passed over at once, so the induction is on the length
  induction hn : cs.length using Nat.strongRecOn generalizing cs with
  | _ n ih =>
    subst hn
    cases cs with
    | nil => exact ⟨[], .nil⟩
    | cons c cs =>
      cases hread : readBreakTag (c :: cs) with
      | some rest =>
        obtain ⟨tag, htag, heq⟩ := readBreakTag_eq_some_iff.mp hread
        obtain ⟨_, -, hwrites⟩ := id htag
        obtain ⟨tail, rfl⟩ := hwrites.exists_tail
        rw [heq] at ih ⊢
        have hshort : rest.length < ('<' :: tail ++ rest).length := by
          simp only [List.length_append, List.length_cons]
          omega
        obtain ⟨out, hout⟩ := ih rest.length hshort rest rfl
        exact ⟨_, .tag htag hout⟩
      | none =>
        by_cases hc : c = '\r'
        · subst hc
          by_cases hhead : cs.head? = some '\n'
          · obtain ⟨rest, rfl⟩ := List.head?_eq_some_iff.mp hhead
            obtain ⟨out, hout⟩ := ih rest.length (by simp only [List.length_cons]; omega) rest rfl
            exact ⟨_, .returnFeed hout⟩
          · obtain ⟨out, hout⟩ := ih cs.length (by simp) cs rfl
            exact ⟨_, .carriageReturn hhead hout⟩
        · obtain ⟨out, hout⟩ := ih cs.length (by simp) cs rfl
          exact ⟨_, .keep hc hread hout⟩

/-- The relation is what the function computes. -/
theorem unifies_iff {cs out : List Char} : Unifies cs out ↔ out = unifyBreaks cs := by
  constructor
  · exact Unifies.eq_unifyBreaks
  · rintro rfl
    obtain ⟨out, hout⟩ := exists_unifies cs
    exact hout.eq_unifyBreaks ▸ hout

theorem unifies_unifyBreaks (cs : List Char) : Unifies cs (unifyBreaks cs) :=
  unifies_iff.mpr rfl

-- ---------------------------------------------------------------------------
-- Cuts
-- ---------------------------------------------------------------------------

theorem head?_ne_of_append {front back : List Char} {c : Char}
    (h : (front ++ back).head? ≠ some c) : front.head? ≠ some c := by
  cases front with
  | nil => simp
  | cons d front => exact h

/-- A cut of the unified text is a cut of the text. -/
theorem Unifies.exists_split {cs front back : List Char} (h : Unifies cs (front ++ back)) :
    ∃ cs₁ cs₂, cs = cs₁ ++ cs₂ ∧ Unifies cs₁ front ∧ Unifies cs₂ back := by
  induction front generalizing cs with
  | nil => exact ⟨[], cs, rfl, .nil, h⟩
  | cons d front ih =>
    rw [List.cons_append] at h
    cases h with
    | returnFeed h =>
      obtain ⟨cs₁, cs₂, rfl, h₁, h₂⟩ := ih h
      exact ⟨_, cs₂, rfl, .returnFeed h₁, h₂⟩
    | carriageReturn hhead h =>
      obtain ⟨cs₁, cs₂, rfl, h₁, h₂⟩ := ih h
      exact ⟨_, cs₂, rfl, .carriageReturn (head?_ne_of_append hhead) h₁, h₂⟩
    | tag htag h =>
      obtain ⟨cs₁, cs₂, rfl, h₁, h₂⟩ := ih h
      exact ⟨_, cs₂, (List.append_assoc ..).symm, .tag htag h₁, h₂⟩
    | keep hc hread h =>
      obtain ⟨cs₁, cs₂, rfl, h₁, h₂⟩ := ih h
      exact ⟨_, cs₂, rfl, .keep hc (readBreakTag_of_append hread) h₁, h₂⟩

/-- What is no line feed stood there before, and no tag with it. -/
theorem Unifies.exists_keep {c : Char} {cs out : List Char} (h : Unifies cs (c :: out))
    (hc : c ≠ '\n') : ∃ rest, cs = c :: rest ∧ readBreakTag cs = none ∧ Unifies rest out := by
  cases h with
  | returnFeed _ => exact absurd rfl hc
  | carriageReturn _ _ => exact absurd rfl hc
  | tag _ _ => exact absurd rfl hc
  | keep _ hread h => exact ⟨_, rfl, hread, h⟩

/-- Only the empty text becomes the empty one. -/
theorem Unifies.eq_nil {cs : List Char} (h : Unifies cs []) : cs = [] := by
  cases h
  rfl

/-- The text in front of an opening bracket is unified on its own. -/
theorem Unifies.append_open {cs out : List Char} (h : Unifies cs out) (after : List Char) :
    unifyBreaks (cs ++ '<' :: after) = out ++ unifyBreaks ('<' :: after) := by
  induction h with
  | nil => rfl
  | returnFeed _ ih => rw [List.cons_append, List.cons_append, unifyBreaks_returnFeed, ih]; rfl
  | @carriageReturn cs _ hhead _ ih =>
    have hhead' : (cs ++ '<' :: after).head? ≠ some '\n' := by
      cases cs with
      | nil => simp
      | cons d cs => exact hhead
    rw [List.cons_append, unifyBreaks_return hhead', ih]
    rfl
  | tag htag _ ih => rw [List.append_assoc, unifyBreaks_tag htag, ih]; rfl
  | keep hc hread _ ih =>
    have hread' := readBreakTag_append_open hread after
    rw [List.cons_append] at hread' ⊢
    rw [unifyBreaks_cons hc hread', ih, List.cons_append]

-- ---------------------------------------------------------------------------
-- What unifying leaves alone
-- ---------------------------------------------------------------------------

/-- No carriage return is left. -/
theorem Unifies.return_not_mem {cs out : List Char} (h : Unifies cs out) : '\r' ∉ out := by
  have hfeed : '\r' ≠ '\n' := by decide
  induction h with
  | nil => simp
  | returnFeed _ ih => exact List.not_mem_cons_of_ne_of_not_mem hfeed ih
  | carriageReturn _ _ ih => exact List.not_mem_cons_of_ne_of_not_mem hfeed ih
  | tag _ _ ih => exact List.not_mem_cons_of_ne_of_not_mem hfeed ih
  | keep hc _ _ ih => exact List.not_mem_cons_of_ne_of_not_mem (Ne.symm hc) ih

/-- A tag is longer than the line feed that is written for it. -/
theorem IsBreakTag.one_lt_length {tag : List Char} (h : IsBreakTag tag) : 1 < tag.length := by
  obtain ⟨gap, -, hwrites⟩ := h
  cases hwrites
  simp only [List.length_cons]
  omega

/-- A text does not become longer. -/
theorem Unifies.length_le {cs out : List Char} (h : Unifies cs out) :
    out.length ≤ cs.length := by
  induction h with
  | nil => exact Nat.le_refl _
  | returnFeed _ ih => simp only [List.length_cons]; omega
  | carriageReturn _ _ ih => simp only [List.length_cons]; omega
  | tag htag _ ih =>
    have := htag.one_lt_length
    simp only [List.length_cons, List.length_append]
    omega
  | keep _ _ _ ih => simp only [List.length_cons]; omega

/-- Unifying leaves a text alone if it holds neither carriage returns nor tags. -/
theorem unifyBreaks_eq_self_iff {cs : List Char} :
    unifyBreaks cs = cs ↔ '\r' ∉ cs ∧ ¬ ∃ tag, IsBreakTag tag ∧ tag <:+: cs := by
  constructor
  · intro h
    refine ⟨h ▸ (unifies_unifyBreaks cs).return_not_mem, ?_⟩
    rintro ⟨tag, htag, front, back, rfl⟩
    -- a text with a tag gets shorter
    obtain ⟨_, -, hwrites⟩ := id htag
    obtain ⟨tail, rfl⟩ := hwrites.exists_tail
    have hlen := congrArg List.length h
    have hfront := (unifies_unifyBreaks front).length_le
    have hback := (unifies_unifyBreaks back).length_le
    have hlong := htag.one_lt_length
    rw [List.append_assoc, List.cons_append, (unifies_unifyBreaks front).append_open,
      ← List.cons_append, unifyBreaks_tag htag] at hlen
    simp only [List.length_append, List.length_cons] at hlen hlong
    omega
  · rintro ⟨hreturn, htags⟩
    induction cs with
    | nil => rfl
    | cons c cs ih =>
      have hc : c ≠ '\r' := fun heq => hreturn (heq ▸ List.mem_cons_self ..)
      have hread : readBreakTag (c :: cs) = none := by
        cases hread : readBreakTag (c :: cs) with
        | none => rfl
        | some rest =>
          obtain ⟨tag, htag, heq⟩ := readBreakTag_eq_some_iff.mp hread
          exact absurd ⟨tag, htag, heq ▸ (List.prefix_append tag rest).isInfix⟩ htags
      have hrest : ¬ ∃ tag, IsBreakTag tag ∧ tag <:+: cs := by
        rintro ⟨tag, htag, hinfix⟩
        exact htags ⟨tag, htag, hinfix.trans (List.suffix_cons c cs).isInfix⟩
      rw [unifyBreaks_cons hc hread, ih (mt (List.mem_cons_of_mem c) hreturn) hrest]

-- ---------------------------------------------------------------------------
-- Gaps and cut tags
-- ---------------------------------------------------------------------------

/-- The characters are blanks and break tags. -/
inductive IsGap : List Char → Prop where
  | nil : IsGap []
  | blank {c : Char} {cs : List Char} (hc : isBlank c = true) (h : IsGap cs) : IsGap (c :: cs)
  | tag {tag cs : List Char} (htag : IsBreakTag tag) (h : IsGap cs) : IsGap (tag ++ cs)

/-- The characters are a break tag but for one or more whole break tags in its gap. -/
def IsCutTag (tag : List Char) : Prop :=
  ∃ gap, IsGap gap ∧ ¬ AllBlank gap ∧ WritesTag gap tag

/-- What is unified to blanks is a gap. -/
theorem Unifies.isGap {cs out : List Char} (h : Unifies cs out) (hout : AllBlank out) :
    IsGap cs := by
  induction h with
  | nil => exact .nil
  | returnFeed _ ih =>
    exact .blank (by decide) (.blank (by decide) (ih (List.forall_mem_cons.mp hout).2))
  | carriageReturn _ _ ih => exact .blank (by decide) (ih (List.forall_mem_cons.mp hout).2)
  | tag htag _ ih => exact .tag htag (ih (List.forall_mem_cons.mp hout).2)
  | keep _ _ _ ih =>
    obtain ⟨hc, hout⟩ := List.forall_mem_cons.mp hout
    exact .blank hc (ih hout)

/-- A gap is unified to blanks, whatever follows it. -/
theorem IsGap.exists_blanks {gap : List Char} (h : IsGap gap) (cs : List Char) :
    ∃ blanks, AllBlank blanks ∧ unifyBreaks (gap ++ cs) = blanks ++ unifyBreaks cs := by
  have hfeed : isBlank '\n' = true := by decide
  induction h with
  | nil => exact ⟨[], List.forall_mem_nil _, rfl⟩
  | @blank c rest hc _ ih =>
    obtain ⟨blanks, hblanks, heq⟩ := ih
    by_cases hreturn : c = '\r'
    · subst hreturn
      by_cases hhead : (rest ++ cs).head? = some '\n'
      · -- the carriage return goes with the line feed behind it
        obtain ⟨behind, hbehind⟩ := List.head?_eq_some_iff.mp hhead
        refine ⟨blanks, hblanks, ?_⟩
        rw [hbehind, unifyBreaks_cons_of_ne (by decide) (by decide)] at heq
        rw [List.cons_append, hbehind, unifyBreaks_returnFeed, heq]
      · refine ⟨'\n' :: blanks, List.forall_mem_cons.mpr ⟨hfeed, hblanks⟩, ?_⟩
        rw [List.cons_append, unifyBreaks_return hhead, heq, List.cons_append]
    · have hopen : c ≠ '<' := by
        rintro rfl
        exact absurd hc (by decide)
      refine ⟨c :: blanks, List.forall_mem_cons.mpr ⟨hc, hblanks⟩, ?_⟩
      rw [List.cons_append, unifyBreaks_cons_of_ne hreturn hopen, heq, List.cons_append]
  | tag htag _ ih =>
    obtain ⟨blanks, hblanks, heq⟩ := ih
    refine ⟨'\n' :: blanks, List.forall_mem_cons.mpr ⟨hfeed, hblanks⟩, ?_⟩
    rw [List.append_assoc, unifyBreaks_tag htag, heq, List.cons_append]

/-- A gap that is not blank is blank up to the bracket of a tag. -/
theorem IsGap.exists_open {gap : List Char} (h : IsGap gap) (hgap : ¬ AllBlank gap) :
    ∃ blanks behind, AllBlank blanks ∧ gap = blanks ++ '<' :: behind := by
  induction h with
  | nil => exact absurd (List.forall_mem_nil _) hgap
  | blank hc _ ih =>
    obtain ⟨blanks, behind, hblanks, rfl⟩ :=
      ih fun hrest => hgap (List.forall_mem_cons.mpr ⟨hc, hrest⟩)
    exact ⟨_ :: blanks, behind, List.forall_mem_cons.mpr ⟨hc, hblanks⟩, rfl⟩
  | tag htag _ _ =>
    obtain ⟨_, -, hwrites⟩ := htag
    obtain ⟨tail, rfl⟩ := hwrites.exists_tail
    exact ⟨[], _, List.forall_mem_nil _, rfl⟩

/-- A cut tag is not read as a tag. -/
theorem readBreakTag_of_cut {b r : Char} {gap : List Char} (h : IsGap gap) (hgap : ¬ AllBlank gap)
    (cs : List Char) : readBreakTag ('<' :: b :: r :: (gap ++ cs)) = none := by
  obtain ⟨blanks, behind, hblanks, rfl⟩ := h.exists_open hgap
  have hstop : isBlank '<' = false := by decide
  rw [readBreakTag, List.append_assoc, List.cons_append, trimStart_append_of_blank hblanks]
  split
  · rw [trimStart, List.dropWhile_cons, hstop]
    rfl
  · rfl

-- ---------------------------------------------------------------------------
-- Tags that are left over
-- ---------------------------------------------------------------------------

/-- A tag in the unified text was a cut tag before. -/
theorem Unifies.isCutTag {cs tag : List Char} (h : Unifies cs tag) (htag : IsBreakTag tag) :
    IsCutTag cs := by
  obtain ⟨gap, hgap, hwrites⟩ := htag
  cases hwrites with
  | @mk b r slash hb hr hslash =>
    obtain ⟨cs₁, rfl, hread, h₁⟩ := h.exists_keep (by decide)
    obtain ⟨cs₂, rfl, -, h₂⟩ := h₁.exists_keep (plain_of_letter (.inl hb)).2.1
    obtain ⟨cs₃, rfl, -, h₃⟩ := h₂.exists_keep (plain_of_letter (.inr hr)).2.1
    obtain ⟨gap', close, rfl, hgap', hclose⟩ := h₃.exists_split
    have hclose' : close = slash ++ ['>'] := by
      rcases hslash with rfl | rfl
      · obtain ⟨rest, rfl, -, hrest⟩ := hclose.exists_keep (by decide)
        rw [hrest.eq_nil]
        rfl
      · obtain ⟨behind, rfl, -, hbehind⟩ := hclose.exists_keep (by decide)
        obtain ⟨rest, rfl, -, hrest⟩ := hbehind.exists_keep (by decide)
        rw [hrest.eq_nil]
        rfl
    subst hclose'
    refine ⟨gap', hgap'.isGap hgap, ?_, .mk hb hr hslash⟩
    -- a tag with a blank gap would have been read as one
    intro hblank
    have hwhole := readBreakTag_of_tag ⟨gap', hblank, .mk hb hr hslash⟩ []
    rw [List.append_nil, hread] at hwhole
    cases hwhole

/-- A cut tag leaves a tag over. -/
theorem IsCutTag.exists_tag {tag : List Char} (h : IsCutTag tag) (after : List Char) :
    ∃ left, IsBreakTag left ∧ unifyBreaks (tag ++ after) = left ++ unifyBreaks after := by
  obtain ⟨gap, hgap, hblank, hwrites⟩ := h
  cases hwrites with
  | @mk b r slash hb hr hslash =>
    have hclose : unifyBreaks (slash ++ '>' :: after) = slash ++ '>' :: unifyBreaks after := by
      have hkeep := unifyBreaks_cons_of_ne (c := '>') (by decide) (by decide) after
      rcases hslash with rfl | rfl
      · exact hkeep
      · show unifyBreaks ('/' :: '>' :: after) = _
        rw [unifyBreaks_cons_of_ne (by decide) (by decide), hkeep]
        rfl
    obtain ⟨blanks, hblanks, heq⟩ := hgap.exists_blanks (slash ++ '>' :: after)
    refine ⟨_, ⟨blanks, hblanks, .mk hb hr hslash⟩, ?_⟩
    obtain ⟨hb₁, -, hb₂⟩ := plain_of_letter (.inl hb)
    obtain ⟨hr₁, -, hr₂⟩ := plain_of_letter (.inr hr)
    simp only [List.cons_append, List.append_assoc, List.nil_append]
    rw [unifyBreaks_cons (by decide) (readBreakTag_of_cut hgap hblank _),
      unifyBreaks_cons_of_ne hb₁ hb₂, unifyBreaks_cons_of_ne hr₁ hr₂, heq, hclose]

/-- A tag is left over exactly if there is a cut tag. -/
theorem exists_tag_unifyBreaks_iff {cs : List Char} :
    (∃ tag, IsBreakTag tag ∧ tag <:+: unifyBreaks cs) ↔ ∃ tag, IsCutTag tag ∧ tag <:+: cs := by
  constructor
  · rintro ⟨tag, htag, front, back, heq⟩
    have h : Unifies cs (front ++ (tag ++ back)) := by
      rw [unifies_iff, ← List.append_assoc, heq]
    obtain ⟨cs₁, cs₂, rfl, -, h₂⟩ := h.exists_split
    obtain ⟨cut, cs₃, rfl, hcut, -⟩ := h₂.exists_split
    exact ⟨cut, hcut.isCutTag htag, cs₁, cs₃, List.append_assoc ..⟩
  · rintro ⟨tag, htag, front, back, rfl⟩
    obtain ⟨left, hleft, heq⟩ := htag.exists_tag back
    obtain ⟨_, -, -, hwrites⟩ := htag
    obtain ⟨tail, rfl⟩ := hwrites.exists_tail
    refine ⟨left, hleft, unifyBreaks front, unifyBreaks back, ?_⟩
    rw [List.append_assoc front, List.cons_append, (unifies_unifyBreaks front).append_open,
      ← List.cons_append, heq, List.append_assoc]

/-- **What unifying leaves over.** The unified text holds no carriage return. It holds a break tag
exactly if the text holds one that is cut by whole tags among its blanks, and unifying it again
changes nothing exactly if the text holds no such tag. -/
theorem unifyBreaks_leaves_iff (cs : List Char) :
    '\r' ∉ unifyBreaks cs ∧
    ((∃ tag, IsBreakTag tag ∧ tag <:+: unifyBreaks cs) ↔ ∃ tag, IsCutTag tag ∧ tag <:+: cs) ∧
    (unifyBreaks (unifyBreaks cs) = unifyBreaks cs ↔ ¬ ∃ tag, IsCutTag tag ∧ tag <:+: cs) := by
  have hreturn := (unifies_unifyBreaks cs).return_not_mem
  refine ⟨hreturn, exists_tag_unifyBreaks_iff, ?_⟩
  rw [unifyBreaks_eq_self_iff, exists_tag_unifyBreaks_iff, and_iff_right hreturn]

/-- A tag within a tag: one pass leaves a tag over, which a second one replaces. -/
theorem unifyBreaks_tag_within :
    (∃ tag, IsBreakTag tag ∧ tag <:+: unifyBreaks "<br<br>>".toList) ∧
      unifyBreaks (unifyBreaks "<br<br>>".toList) ≠ unifyBreaks "<br<br>>".toList := by
  have htag : IsBreakTag "<br\n>".toList :=
    ⟨['\n'], List.all_eq_true.mp (by decide),
      .mk (b := 'b') (r := 'r') (by decide) (by decide) (.inl rfl)⟩
  exact ⟨⟨_, htag, by decide⟩, by decide⟩

end OpeningHours.Schedule
