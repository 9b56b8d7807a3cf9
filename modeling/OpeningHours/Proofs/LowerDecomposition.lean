import Mathlib.Data.List.Chain
import Mathlib.Data.Nat.Bitwise
import OpeningHours.Unicode.Decomposition
import OpeningHours.Unicode.LowerCase
import OpeningHours.Unicode.Property

/-!
# OpeningHours — lower case and decomposition, character by character

The tables of lower-case forms, decompositions, classes and marks agree with one another: a full
decomposition decomposes no further, it may be taken before or after the lower-case form, and only a
mark has a class. What the tables say of single code points is compared code point by code point
only where a letter has both a lower-case form and a decomposition. All else compares sets of code
points, each written as the number whose bits are set at its members, so that one operation on
numbers compares two whole sets.

## Results

* `decomposeChar_of_mem`       — a character of a decomposition decomposes to itself.
* `lowerChar_decomposeChar`    — lower case and decomposition may be taken in either order.
* `eq_of_mem_lowerChar`        — a mark in a lower-case form is the character itself or the dot of
  `İ`.
* `isMark_of_combiningClass`   — a character with a class is a mark.
-/

namespace OpeningHours.Unicode

-- ---------------------------------------------------------------------------
-- Sets of code points
-- ---------------------------------------------------------------------------

/-- The set of the code points `lo, lo + 1, …`, as many as the size says. -/
def span (lo size : Nat) : Nat :=
  (2 ^ size - 1) <<< lo

/-- The union of sets of code points, one for each item of a list. -/
def unite {α : Type} (set : α → Nat) (items : List α) : Nat :=
  items.foldr (fun a rest => set a ||| rest) 0

/-- The bits of a span of code points. -/
theorem testBit_span {lo size n : Nat} :
    (span lo size).testBit n = true ↔ lo ≤ n ∧ n < lo + size := by
  simp only [span, Nat.testBit_shiftLeft, Nat.testBit_two_pow_sub_one, Bool.and_eq_true,
    decide_eq_true_eq, ge_iff_le]
  omega

/-- The bits of united sets. -/
theorem testBit_unite {α : Type} {set : α → Nat} {items : List α} {n : Nat} :
    (unite set items).testBit n = true ↔ ∃ a ∈ items, (set a).testBit n = true := by
  induction items with
  | nil => simp [unite]
  | cons a items ih =>
    rw [unite] at ih
    rw [unite, List.foldr_cons, Nat.testBit_or, Bool.or_eq_true, ih]
    simp

/-- Disjoint sets have no code point in common. -/
theorem testBit_of_disjoint {s t n : Nat} (h : s &&& t = 0) (hs : s.testBit n = true) :
    t.testBit n = false := by
  have hboth : (s &&& t).testBit n = false := by rw [h, Nat.zero_testBit]
  simpa [Nat.testBit_and, hs] using hboth

/-- A set has the code points of its parts. -/
theorem testBit_of_subset {s t n : Nat} (h : s ||| t = t) (hs : s.testBit n = true) :
    t.testBit n = true := by
  have hany : (s ||| t).testBit n = true := by rw [Nat.testBit_or, hs, Bool.true_or]
  rwa [h] at hany

/-- The code points of characters, surrogates left out. -/
def validCodes : Nat :=
  span 0 0xD800 ||| span 0xE000 (0x110000 - 0xE000)

theorem toNat_ofNat {n : Nat} (h : validCodes.testBit n = true) : (Char.ofNat n).toNat = n := by
  rw [validCodes, Nat.testBit_or, Bool.or_eq_true, testBit_span, testBit_span] at h
  have hvalid : n.isValidChar := by
    rcases h with h | h
    · exact .inl (by omega)
    · exact .inr (by omega)
  rw [Char.ofNat, dif_pos hvalid]
  rfl

/-- The code point of every character is valid. -/
theorem validCodes_toNat (c : Char) : validCodes.testBit c.toNat = true := by
  rw [validCodes, Nat.testBit_or, Bool.or_eq_true, testBit_span, testBit_span]
  have hvalid : c.toNat.isValidChar := c.valid
  rcases hvalid with h | h
  · exact .inl (by omega)
  · exact .inr (by omega)

-- ---------------------------------------------------------------------------
-- Lower case of code points
-- ---------------------------------------------------------------------------

/-- The distances of the code points of a run from its first one. -/
def offsets (r : Nat × Nat × Nat × Nat) : List Nat :=
  (List.range (r.2.1 + 1 - r.1)).filter fun k => Nat.beq (k % r.2.2.1) 0

/-- The run maps the code point. -/
def runHas (n : Nat) (r : Nat × Nat × Nat × Nat) : Bool :=
  Nat.ble r.1 n && Nat.ble n r.2.1 && Nat.beq ((n - r.1) % r.2.2.1) 0

/-- The lower-case form of a code point. -/
def lowered (n : Nat) : Nat :=
  match lowerRuns.find? (runHas n) with
  | some r => r.2.2.2 + (n - r.1)
  | none => n

/-- A run has the code points at its offsets. -/
theorem runHas_iff {n : Nat} {r : Nat × Nat × Nat × Nat} :
    runHas n r = true ↔ ∃ k ∈ offsets r, n = r.1 + k := by
  simp only [runHas, offsets, Bool.and_eq_true, Nat.ble_eq, Nat.beq_eq, List.mem_filter,
    List.mem_range]
  constructor
  · rintro ⟨⟨hlo, hhi⟩, hstep⟩
    exact ⟨n - r.1, ⟨by omega, hstep⟩, by omega⟩
  · rintro ⟨k, ⟨hk, hstep⟩, rfl⟩
    rw [Nat.add_sub_cancel_left]
    exact ⟨⟨by omega, by omega⟩, hstep⟩

/-- In an ascending table the look-up finds the run that maps the code point, if there is one. -/
theorem imageIn_eq_find? {t : List (Nat × Nat × Nat × Nat)}
    (ht : t.Pairwise fun r s => r.1 ≤ s.1) (n : Nat) :
    imageIn n t =
      match t.find? (runHas n) with
      | some r => r.2.2.2 + (n - r.1)
      | none => n := by
  induction t with
  | nil => rfl
  | cons r rest ih =>
    obtain ⟨hr, hrest⟩ := List.pairwise_cons.mp ht
    obtain ⟨first, last, step, image⟩ := r
    rw [imageIn]
    split
    · rename_i hlt
      -- the runs behind begin still higher, so none of them has the code point
      have hnone : ((first, last, step, image) :: rest).find? (runHas n) = none := by
        rw [List.find?_eq_none]
        intro s hs hhas
        obtain ⟨k, -, rfl⟩ := runHas_iff.mp hhas
        rcases List.mem_cons.mp hs with rfl | hs
        · omega
        · have := hr s hs
          omega
      rw [hnone]
    · rename_i hlt
      by_cases hhas : n ≤ last ∧ (n - first) % step = 0
      · have hfound : runHas n (first, last, step, image) = true := by
          simp [runHas, hhas, Nat.not_lt.mp hlt]
        rw [if_pos hhas, List.find?_cons_of_pos hfound]
      · have hmissed : ¬ runHas n (first, last, step, image) = true := by
          simpa [runHas, Nat.not_lt.mp hlt] using hhas
        rw [if_neg hhas, ih hrest, List.find?_cons_of_neg hmissed]

/-- The code points that some run maps. -/
def casedCodes : Nat :=
  unite (fun r => unite (fun k => 2 ^ (r.1 + k)) (offsets r)) lowerRuns

theorem testBit_casedCodes {n : Nat} :
    casedCodes.testBit n = true ↔ ∃ r ∈ lowerRuns, runHas n r = true := by
  simp only [casedCodes, testBit_unite, Nat.testBit_two_pow, decide_eq_true_eq, runHas_iff,
    eq_comm (a := n)]

/-- A code point is mapped by a run, or none has it and it stays. -/
theorem lowered_cases (n : Nat) :
    (∃ r ∈ lowerRuns, ∃ k ∈ offsets r, n = r.1 + k ∧ lowered n = r.2.2.2 + k) ∨
      casedCodes.testBit n = false ∧ lowered n = n := by
  rw [lowered]
  cases hfind : lowerRuns.find? (runHas n) with
  | some r =>
    obtain ⟨k, hk, hn⟩ := runHas_iff.mp (List.find?_some hfind)
    exact .inl ⟨r, List.mem_of_find?_eq_some hfind, k, hk, hn, by simp only; omega⟩
  | none =>
    refine .inr ⟨?_, rfl⟩
    rw [List.find?_eq_none] at hfind
    rw [Bool.eq_false_iff, ne_eq, testBit_casedCodes]
    rintro ⟨r, hr, hhas⟩
    exact hfind r hr hhas

/-- Code points outside of all runs are their own lower case. -/
theorem lowered_of_not_cased {n : Nat} (h : casedCodes.testBit n = false) : lowered n = n := by
  rcases lowered_cases n with ⟨r, hr, k, hk, hn, -⟩ | ⟨-, heq⟩
  · have hcased := testBit_casedCodes.mpr ⟨r, hr, runHas_iff.mpr ⟨k, hk, hn⟩⟩
    rw [h] at hcased
    contradiction
  · exact heq

/-- The images of the runs, with what stands between them. -/
def loweredCodes : Nat :=
  unite (fun r => span r.2.2.2 (r.2.1 + 1 - r.1)) lowerRuns

/-- A lower-case image of another code point is one of the listed ones. -/
theorem testBit_loweredCodes {n : Nat} (h : lowered n ≠ n) :
    loweredCodes.testBit (lowered n) = true := by
  rcases lowered_cases n with ⟨r, hr, k, hk, -, heq⟩ | ⟨-, heq⟩
  · rw [heq, loweredCodes, testBit_unite]
    have hlt := List.mem_range.mp (List.mem_filter.mp hk).1
    exact ⟨r, hr, testBit_span.mpr (by omega)⟩
  · exact absurd heq h

-- ---------------------------------------------------------------------------
-- Decompositions of code points
-- ---------------------------------------------------------------------------

/-- The run does not lie below the code point. -/
def reaches (n : Nat) (r : Nat × List (List Nat)) : Bool :=
  Nat.blt n (r.1 + r.2.length)

/-- The runs from U+1E00 on, among which most composed letters are looked up. -/
def upperDecompositions : List (Nat × List (List Nat)) :=
  extendedDecompositions ++ compatibilityDecompositions ++ supplementaryDecompositions

/-- The full decomposition of a code point. -/
def codesOf (n : Nat) : List Nat :=
  if 0xAC00 ≤ n ∧ n ≤ 0xD7A3 then hangulJamo (n - 0xAC00)
  else
    match (if n < 0x1E00 then decompositions else upperDecompositions).find? (reaches n) with
    | some r => if r.1 ≤ n then r.2.getD (n - r.1) [n] else [n]
    | none => [n]

/-- A row of the table reaches over as many code points as it has images. -/
theorem reaches_iff {n : Nat} {r : Nat × List (List Nat)} :
    reaches n r = true ↔ n < r.1 + r.2.length := by
  rw [reaches, Nat.blt_eq]

theorem decompositions_eq :
    decompositions = (latinDecompositions ++ europeanDecompositions) ++ upperDecompositions := by
  simp only [decompositions, upperDecompositions, List.append_assoc]

/-- The look-up ends at the first run that does not lie below the code point. -/
theorem decompositionIn_eq_find? (n : Nat) (t : List (Nat × List (List Nat))) :
    (decompositionIn n t).getD [n] =
      match t.find? (reaches n) with
      | some r => if r.1 ≤ n then r.2.getD (n - r.1) [n] else [n]
      | none => [n] := by
  induction t with
  | nil => rfl
  | cons r rest ih =>
    obtain ⟨first, images⟩ := r
    rw [decompositionIn]
    by_cases hlow : n < first
    · have hfound : reaches n (first, images) = true := reaches_iff.mpr (Nat.lt_add_right _ hlow)
      rw [if_pos hlow, List.find?_cons_of_pos hfound]
      simp only [if_neg (Nat.not_le.mpr hlow), Option.getD_none]
    · rw [if_neg hlow]
      by_cases hfound : reaches n (first, images) = true
      · have hbound : n - first < images.length := by
          have := reaches_iff.mp hfound
          simp only at this
          omega
        rw [List.find?_cons_of_pos hfound, List.getElem?_eq_getElem hbound]
        simp only [if_pos (Nat.not_lt.mp hlow), Option.getD_some,
          List.getD_eq_getElem _ _ hbound]
      · have hbound : images.length ≤ n - first := by
          rw [reaches_iff] at hfound
          simp only at hfound
          omega
        rw [List.find?_cons_of_neg hfound, List.getElem?_eq_none hbound]
        exact ih

/-- A code point below the table has no decomposition in it. -/
theorem decompositionIn_of_lt {n first : Nat} {images : List (List Nat)}
    {rest : List (Nat × List (List Nat))} (h : n < first) :
    decompositionIn n ((first, images) :: rest) = none := by
  rw [decompositionIn, if_pos h]

/-- The code points that decompose, Hangul syllables included. -/
def composedCodes : Nat :=
  unite (fun r => span r.1 r.2.length) decompositions ||| span 0xAC00 11172

/-- The code points in the decompositions of those that a condition picks, and all jamo. -/
def imagesOf (picks : Nat → Bool) : Nat :=
  unite (fun r => unite (fun e => if picks e.2 then unite (2 ^ ·) e.1 else 0) (r.2.zipIdx r.1))
    decompositions ||| span 0x1100 0x100

/-- The parts of a Hangul syllable are conjoining letters. -/
theorem mem_hangulJamo {s x : Nat} (hs : s < 11172) (h : x ∈ hangulJamo s) :
    0x1100 ≤ x ∧ x < 0x1200 := by
  simp only [hangulJamo, List.mem_append, List.mem_cons, List.not_mem_nil, or_false] at h
  rcases h with (rfl | rfl) | h
  · omega
  · omega
  · split at h
    · simp at h
    · rw [List.mem_singleton.mp h]
      omega

-- ---------------------------------------------------------------------------
-- Marks
-- ---------------------------------------------------------------------------

/-- The code points with a class. -/
def classedCodes : Nat :=
  unite (fun r => span r.1 (r.2.1 + 1 - r.1)) combiningClassRanges

/-- The code points of marks. -/
def markCodes : Nat :=
  unite (fun r => span r.1 (r.2 + 1 - r.1)) markRanges

/-- A code point in no range of the table has class 0. -/
theorem classIn_eq_zero {n : Nat} {t : List (Nat × Nat × Nat)}
    (h : ∀ r ∈ t, ¬ (r.1 ≤ n ∧ n ≤ r.2.1)) : classIn n t = 0 := by
  induction t with
  | nil => rfl
  | cons r rest ih =>
    obtain ⟨hr, hrest⟩ := List.forall_mem_cons.mp h
    obtain ⟨lo, hi, cls⟩ := r
    rw [classIn]
    by_cases hlo : n < lo
    · rw [if_pos hlo]
    · have hhi : ¬ n ≤ hi := fun hhi => hr ⟨Nat.not_lt.mp hlo, hhi⟩
      rw [if_neg hlo, if_neg hhi, ih hrest]

theorem testBit_classedCodes {c : Char} (h : combiningClass c ≠ 0) :
    classedCodes.testBit c.toNat = true := by
  by_contra hout
  refine h (classIn_eq_zero fun r hr hin => hout ?_)
  exact testBit_unite.mpr ⟨r, hr, testBit_span.mpr (by omega)⟩

/-- In an ascending table the look-up finds the range that has the code point. -/
theorem RangeTable.has_of_mem {t : RangeTable} (ht : t.Pairwise fun r s => r.1 ≤ s.1)
    {r : Nat × Nat} (hr : r ∈ t) {n : Nat} (hlo : r.1 ≤ n) (hhi : n ≤ r.2) :
    RangeTable.has n t = true := by
  induction t with
  | nil => simp at hr
  | cons s rest ih =>
    obtain ⟨hs, hrest⟩ := List.pairwise_cons.mp ht
    obtain ⟨first, last⟩ := s
    rw [has]
    rcases List.mem_cons.mp hr with rfl | hr
    · rw [if_neg (Nat.not_lt.mpr hlo), if_pos hhi]
    · have hfirst : first ≤ r.1 := hs r hr
      rw [if_neg (by omega)]
      split
      · rfl
      · exact ih hrest hr

-- ---------------------------------------------------------------------------
-- Agreement of the tables
-- ---------------------------------------------------------------------------

/-- The second code point, as the lower-case form of the first, has the decomposition it should. -/
def commutes (n m : Nat) : Bool :=
  if composedCodes.testBit n then codesOf m == (codesOf n).map lowered
  else !composedCodes.testBit m

/-- No run has the code point, and it is not that of `İ`, whose form no run can give. -/
def caseless (n : Nat) : Bool :=
  !casedCodes.testBit n && n != 0x130

/-- The tables of lower-case forms, decompositions, classes and marks agree with one another. The
laws below are drawn from this, and it is computed once, behind them. -/
structure TablesAgree : Prop where
  lower_ascending : lowerRuns.IsChain fun r s => r.1 ≤ s.1
  marks_ascending : markRanges.IsChain fun r s => r.1 ≤ s.1
  below_upper : ∀ r ∈ latinDecompositions ++ europeanDecompositions, r.1 + r.2.length ≤ 0x1E00
  lowered_valid : loweredCodes ||| validCodes = validCodes
  lowered_classless : loweredCodes &&& classedCodes = 0
  classed_mark : classedCodes ||| markCodes = markCodes
  images_valid : imagesOf (fun _ => true) ||| validCodes = validCodes
  images_plain : imagesOf (fun _ => true) &&& composedCodes = 0
  images_caseless : imagesOf caseless &&& casedCodes = 0
  diacritics_caseless : span 0x300 0x70 &&& casedCodes = 0
  diacritics_closed : ∀ k ∈ List.range 0x70, ∀ x ∈ codesOf (0x300 + k),
    (span 0x300 0x70).testBit x = true
  lower_commutes : ∀ r ∈ lowerRuns, ∀ k ∈ offsets r, commutes (r.1 + k) (r.2.2.2 + k) = true

-- ---------------------------------------------------------------------------
-- Look-ups
-- ---------------------------------------------------------------------------

section

variable (agree : TablesAgree)
include agree

/-- The lower case of a character, by its code point. -/
theorem lowerChar_eq {c : Char} (hc : c ≠ 'İ') : lowerChar c = [Char.ofNat (lowered c.toNat)] := by
  have : IsTrans (Nat × Nat × Nat × Nat) fun r s => r.1 ≤ s.1 := ⟨fun _ _ _ => Nat.le_trans⟩
  have hascending := List.isChain_iff_pairwise.mp agree.lower_ascending
  rw [lowerChar, if_neg hc, imageIn_eq_find? hascending, lowered]

theorem toNat_lowered (c : Char) : (Char.ofNat (lowered c.toNat)).toNat = lowered c.toNat := by
  refine toNat_ofNat ?_
  by_cases heq : lowered c.toNat = c.toNat
  · rw [heq]
    exact validCodes_toNat c
  · exact testBit_of_subset agree.lowered_valid (testBit_loweredCodes heq)

/-- From U+1E00 on no run of the first two parts of the table is reached. -/
theorem find?_reaches (n : Nat) :
    (if n < 0x1E00 then decompositions else upperDecompositions).find? (reaches n) =
      decompositions.find? (reaches n) := by
  split
  · rfl
  · have hnone : (latinDecompositions ++ europeanDecompositions).find? (reaches n) = none := by
      rw [List.find?_eq_none]
      intro r hr hreach
      have hbelow := agree.below_upper r hr
      have hreach := reaches_iff.mp hreach
      omega
    rw [decompositions_eq, List.find?_append, hnone, Option.none_or]

/-- The decomposition of a character, by its code point. -/
theorem decomposeChar_eq (c : Char) : decomposeChar c = (codesOf c.toNat).map Char.ofNat := by
  rw [decomposeChar, codesOf, find?_reaches agree, ← decompositionIn_eq_find?]
  by_cases hlow : c.toNat < 0xC0
  · have hnone : decompositionIn c.toNat decompositions = none := decompositionIn_of_lt hlow
    rw [if_pos hlow, if_neg (by omega), hnone]
    simp
  · rw [if_neg hlow]
    by_cases hsyllable : 0xAC00 ≤ c.toNat ∧ c.toNat ≤ 0xD7A3
    · rw [if_pos hsyllable, if_pos hsyllable]
    · rw [if_neg hsyllable, if_neg hsyllable]
      cases decompositionIn c.toNat decompositions <;> simp

/-- A code point decomposes by arithmetic, by the table, or not at all. -/
theorem codesOf_cases (n : Nat) :
    codesOf n = [n] ∨ ((0xAC00 ≤ n ∧ n ≤ 0xD7A3) ∧ codesOf n = hangulJamo (n - 0xAC00)) ∨
      ∃ r ∈ decompositions, (codesOf n, n) ∈ r.2.zipIdx r.1 := by
  rw [codesOf, find?_reaches agree]
  split
  · rename_i hsyllable
    exact .inr (.inl ⟨hsyllable, rfl⟩)
  · split
    · rename_i r hfind
      have hreach := reaches_iff.mp (List.find?_some hfind)
      split
      · rename_i hlow
        have hbound : n - r.1 < r.2.length := by omega
        refine .inr (.inr ⟨r, List.mem_of_find?_eq_some hfind, ?_⟩)
        rw [List.mk_mem_zipIdx_iff_le_and_getElem?_sub, List.getD_eq_getElem _ _ hbound]
        exact ⟨hlow, List.getElem?_eq_getElem hbound⟩
      · exact .inl rfl
    · exact .inl rfl

/-- What is not composed does not decompose. -/
theorem codesOf_of_not_composed {n : Nat} (h : composedCodes.testBit n = false) :
    codesOf n = [n] := by
  rw [composedCodes, Nat.testBit_or, Bool.or_eq_false_iff] at h
  rcases codesOf_cases agree n with heq | ⟨hsyllable, -⟩ | ⟨r, hr, hmem⟩
  · exact heq
  · have hspan : (span 0xAC00 11172).testBit n = true := testBit_span.mpr (by omega)
    rw [h.2] at hspan
    exact absurd hspan Bool.false_ne_true
  · obtain ⟨hlow, hsome⟩ := List.mk_mem_zipIdx_iff_le_and_getElem?_sub.mp hmem
    obtain ⟨hbound, -⟩ := List.getElem?_eq_some_iff.mp hsome
    have hspan : (span r.1 r.2.length).testBit n = true := testBit_span.mpr (by omega)
    have hunite : (unite (fun r => span r.1 r.2.length) decompositions).testBit n = true :=
      testBit_unite.mpr ⟨r, hr, hspan⟩
    rw [h.1] at hunite
    exact absurd hunite Bool.false_ne_true

/-- The code points in a decomposition are images, unless nothing decomposes. -/
theorem mem_codesOf (picks : Nat → Bool) {n x : Nat} (hn : picks n = true) (h : x ∈ codesOf n) :
    codesOf n = [n] ∨ (imagesOf picks).testBit x = true := by
  rw [imagesOf, Nat.testBit_or, Bool.or_eq_true]
  rcases codesOf_cases agree n with heq | ⟨hsyllable, heq⟩ | ⟨r, hr, hmem⟩
  · exact .inl heq
  · rw [heq] at h
    obtain ⟨hlo, hhi⟩ := mem_hangulJamo (by omega) h
    exact .inr (.inr (testBit_span.mpr (by omega)))
  · refine .inr (.inl (testBit_unite.mpr ⟨r, hr, testBit_unite.mpr ⟨_, hmem, ?_⟩⟩))
    simp only [hn, if_true]
    exact testBit_unite.mpr ⟨x, h, Nat.testBit_two_pow_self⟩

/-- A code point of a decomposition decomposes to itself. -/
theorem codesOf_of_mem {n x : Nat} (h : x ∈ codesOf n) : codesOf x = [x] := by
  rcases mem_codesOf agree (fun _ => true) rfl h with heq | himage
  · rw [heq, List.mem_singleton] at h
    rw [h, heq]
  · exact codesOf_of_not_composed agree (testBit_of_disjoint agree.images_plain himage)

theorem toNat_of_mem_codesOf {c : Char} {x : Nat} (h : x ∈ codesOf c.toNat) :
    (Char.ofNat x).toNat = x := by
  refine toNat_ofNat ?_
  rcases mem_codesOf agree (fun _ => true) rfl h with heq | himage
  · rw [heq, List.mem_singleton] at h
    rw [h]
    exact validCodes_toNat c
  · exact testBit_of_subset agree.images_valid himage

-- ---------------------------------------------------------------------------
-- Laws
-- ---------------------------------------------------------------------------

/-- The lower-case form decomposes to the lower-case forms of the decomposition. -/
theorem codesOf_lowered {n : Nat} (hn : n ≠ 0x130) :
    codesOf (lowered n) = (codesOf n).map lowered := by
  rcases lowered_cases n with ⟨r, hr, k, hk, rfl, heq⟩ | ⟨hcaseless, heq⟩
  · have hcommutes := agree.lower_commutes r hr k hk
    rw [commutes] at hcommutes
    split at hcommutes
    · rw [heq]
      exact eq_of_beq hcommutes
    · rename_i hcomposed
      have hplain : composedCodes.testBit (r.1 + k) = false := by simpa using hcomposed
      have hplain' : composedCodes.testBit (r.2.2.2 + k) = false := by simpa using hcommutes
      rw [codesOf_of_not_composed agree hplain, List.map_singleton, heq,
        codesOf_of_not_composed agree hplain']
  · have hfixed : ∀ x ∈ codesOf n, lowered x = x := by
      intro x hx
      have hpicked : caseless n = true := by simp [caseless, hcaseless, hn]
      rcases mem_codesOf agree caseless hpicked hx with hself | himage
      · rw [hself, List.mem_singleton] at hx
        rw [hx, heq]
      · exact lowered_of_not_cased (testBit_of_disjoint agree.images_caseless himage)
    rw [heq, List.map_congr_left hfixed, List.map_id']

/-- A character of a decomposition decomposes to itself. -/
theorem decomposeChar_of_mem {c x : Char} (h : x ∈ decomposeChar c) : decomposeChar x = [x] := by
  rw [decomposeChar_eq agree] at h
  obtain ⟨n, hn, rfl⟩ := List.mem_map.mp h
  rw [decomposeChar_eq agree, toNat_of_mem_codesOf agree hn, codesOf_of_mem agree hn,
    List.map_singleton]

/-- Lower case and decomposition may be taken in either order. -/
theorem lowerChar_decomposeChar (c : Char) :
    (lowerChar c).flatMap decomposeChar = (decomposeChar c).flatMap lowerChar := by
  by_cases hc : c = 'İ'
  · subst hc
    decide
  · have hn : c.toNat ≠ 0x130 := by
      intro h
      rw [← Char.ofNat_toNat c, h] at hc
      exact hc rfl
    -- `İ` decomposes, so it stands in no decomposition
    have hparts : ∀ x ∈ codesOf c.toNat, lowerChar (Char.ofNat x) = [Char.ofNat (lowered x)] := by
      intro x hx
      have hne : Char.ofNat x ≠ 'İ' := by
        intro heq
        have hmem : 'İ' ∈ decomposeChar c := by
          rw [decomposeChar_eq agree, ← heq]
          exact List.mem_map_of_mem hx
        exact absurd (decomposeChar_of_mem agree hmem) (by decide)
      rw [lowerChar_eq agree hne, toNat_of_mem_codesOf agree hx]
    calc (lowerChar c).flatMap decomposeChar
        = (codesOf (lowered c.toNat)).map Char.ofNat := by
          rw [lowerChar_eq agree hc, List.flatMap_singleton, decomposeChar_eq agree,
            toNat_lowered agree]
      _ = (codesOf c.toNat).flatMap fun x => [Char.ofNat (lowered x)] := by
          rw [codesOf_lowered agree hn, List.map_map, List.map_eq_flatMap]
          rfl
      _ = (codesOf c.toNat).flatMap fun x => lowerChar (Char.ofNat x) :=
          (List.flatMap_congr hparts).symm
      _ = (decomposeChar c).flatMap lowerChar := by
          rw [decomposeChar_eq agree c, List.flatMap_map]

/-- A character with a class is a mark. -/
theorem isMark_of_combiningClass {c : Char} (h : combiningClass c ≠ 0) : isMark c = true := by
  have hmark := testBit_of_subset agree.classed_mark (testBit_classedCodes h)
  obtain ⟨r, hr, hspan⟩ := testBit_unite.mp hmark
  have hrange := testBit_span.mp hspan
  have : IsTrans (Nat × Nat) fun r s => r.1 ≤ s.1 := ⟨fun _ _ _ => Nat.le_trans⟩
  have hascending := List.isChain_iff_pairwise.mp agree.marks_ascending
  exact RangeTable.has_of_mem hascending hr (by omega) (by omega)

/-- A mark in a lower-case form is the character itself or the dot of `İ`. -/
theorem eq_of_mem_lowerChar {x y : Char} (h : y ∈ lowerChar x) (hy : combiningClass y ≠ 0) :
    y = x ∨ y = '\u0307' := by
  by_cases hx : x = 'İ'
  · subst hx
    rcases List.mem_pair.mp h with rfl | rfl
    · exact absurd (by decide) hy
    · exact .inr rfl
  · rw [lowerChar_eq agree hx, List.mem_singleton] at h
    subst h
    by_cases heq : lowered x.toNat = x.toNat
    · rw [heq, Char.ofNat_toNat]
      exact .inl rfl
    · have hclass := testBit_classedCodes hy
      have hout := testBit_of_disjoint agree.lowered_classless (testBit_loweredCodes heq)
      rw [toNat_lowered agree, hout] at hclass
      exact absurd hclass Bool.false_ne_true

end

/-- The two tables agree, as a computation over all their rows shows. -/
theorem tablesAgree : TablesAgree := by
  constructor <;> decide +kernel

end OpeningHours.Unicode
