import Mathlib.Logic.Relation
import OpeningHours.Proofs.LowerDecomposition
import OpeningHours.Text

/-!
# OpeningHours — spellings of one text

A text may be respelled: a character gives way to one with the same lower-case form, a letter with
its accents to its decomposition and the other way round, and diacritics come and go. What no
respelling changes are the letters of the text: every character in lower case, decomposed, and
without its diacritics.

The folding of a text differs from its letters in two ways only. The form of a sigma depends on what
stands around it, and other marks are put into the order of their classes.

* `letters`  — what a character gives to a folded text, wherever it stands.
* `Respells` — one change of the spelling.

## Results

* `letters_of_isDiacritic`       — a diacritic has no letters.
* `flatMap_letters_of_eqvGen`    — spellings of one text have the same letters.
* `map_filter_orderMarks`        — the order of marks does not show where those that are kept look
  the same.
-/

namespace OpeningHours.Text

open Unicode

-- ---------------------------------------------------------------------------
-- Letters
-- ---------------------------------------------------------------------------

/-- What a character gives to a folded text, wherever it stands. -/
def letters (c : Char) : List Char :=
  ((lowerChar c).flatMap decomposeChar).filter fun x => !isDiacritic x

theorem isDiacritic_iff {c : Char} :
    isDiacritic c = true ↔ (span 0x300 0x70).testBit c.toNat = true := by
  rw [isDiacritic, Bool.and_eq_true, decide_eq_true_eq, decide_eq_true_eq, testBit_span]
  omega

theorem lowerChar_of_isDiacritic {m : Char} (h : isDiacritic m = true) : lowerChar m = [m] := by
  have hne : m ≠ 'İ' := by
    rintro rfl
    exact absurd h (by decide)
  have hcaseless := testBit_of_disjoint tablesAgree.diacritics_caseless (isDiacritic_iff.mp h)
  rw [lowerChar_eq tablesAgree hne, lowered_of_not_cased hcaseless, Char.ofNat_toNat]

/-- Diacritics decompose to diacritics. -/
theorem isDiacritic_of_mem_decomposeChar {m x : Char} (h : isDiacritic m = true)
    (hx : x ∈ decomposeChar m) : isDiacritic x = true := by
  rw [decomposeChar_eq tablesAgree] at hx
  obtain ⟨n, hn, rfl⟩ := List.mem_map.mp hx
  rw [isDiacritic_iff, toNat_of_mem_codesOf tablesAgree hn]
  have hspan := testBit_span.mp (isDiacritic_iff.mp h)
  have hk : m.toNat - 0x300 ∈ List.range 0x70 := List.mem_range.mpr (by omega)
  have hall := tablesAgree.diacritics_closed (m.toNat - 0x300) hk
  rw [Nat.add_sub_cancel' hspan.1] at hall
  exact hall n hn

/-- A diacritic has no letters. -/
theorem letters_of_isDiacritic {m : Char} (h : isDiacritic m = true) : letters m = [] := by
  rw [letters, lowerChar_of_isDiacritic h, List.flatMap_singleton, List.filter_eq_nil_iff]
  intro x hx
  rw [isDiacritic_of_mem_decomposeChar h hx]
  decide

/-- The letters of a character are those of its decomposition. -/
theorem flatMap_letters_decomposeChar (c : Char) :
    (decomposeChar c).flatMap letters = letters c := by
  have hpart : ∀ x ∈ decomposeChar c,
      letters x = (lowerChar x).filter fun y => !isDiacritic y := by
    intro x hx
    rw [letters, lowerChar_decomposeChar tablesAgree, decomposeChar_of_mem tablesAgree hx,
      List.flatMap_singleton]
  rw [List.flatMap_congr hpart, ← List.filter_flatMap, ← lowerChar_decomposeChar tablesAgree,
    letters]

-- ---------------------------------------------------------------------------
-- Respelling
-- ---------------------------------------------------------------------------

/-- One change of the spelling of a text. -/
inductive Respells : List Char → List Char → Prop where
  /-- A character gives way to one with the same lower-case form. -/
  | recase {c d : Char} (front back : List Char) (h : lowerChar c = lowerChar d) :
      Respells (front ++ c :: back) (front ++ d :: back)
  /-- A character is decomposed. -/
  | decompose (c : Char) (front back : List Char) :
      Respells (front ++ c :: back) (front ++ (decomposeChar c ++ back))
  /-- A diacritic is left out. -/
  | unmark {m : Char} (front back : List Char) (h : isDiacritic m = true) :
      Respells (front ++ m :: back) (front ++ back)

/-- Texts that are respelled from one another have the same letters. -/
theorem Respells.flatMap_letters {cs ds : List Char} (h : Respells cs ds) :
    cs.flatMap letters = ds.flatMap letters := by
  cases h with
  | recase front back h =>
    simp only [List.flatMap_append, List.flatMap_cons, letters, h]
  | decompose c front back =>
    simp only [List.flatMap_append, List.flatMap_cons, flatMap_letters_decomposeChar]
  | unmark front back h =>
    simp only [List.flatMap_append, List.flatMap_cons, letters_of_isDiacritic h, List.nil_append]

/-- Spellings of one text have the same letters. -/
theorem flatMap_letters_of_eqvGen {cs ds : List Char} (h : Relation.EqvGen Respells cs ds) :
    cs.flatMap letters = ds.flatMap letters := by
  induction h with
  | rel _ _ h => exact h.flatMap_letters
  | refl _ => rfl
  | symm _ _ _ ih => exact ih.symm
  | trans _ _ _ _ _ ih₁ ih₂ => exact ih₁.trans ih₂

-- ---------------------------------------------------------------------------
-- The order of marks
-- ---------------------------------------------------------------------------

theorem mem_insertMark {c x : Char} {cs : List Char} :
    x ∈ insertMark c cs ↔ x = c ∨ x ∈ cs := by
  induction cs with
  | nil => simp [insertMark]
  | cons d cs ih =>
    rw [insertMark]
    split
    · rw [List.mem_cons, ih, List.mem_cons]
      exact or_left_comm
    · exact List.mem_cons

/-- Putting marks in order keeps the characters. -/
theorem mem_orderMarks {x : Char} {cs : List Char} : x ∈ orderMarks cs ↔ x ∈ cs := by
  induction cs with
  | nil => rfl
  | cons c cs ih =>
    rw [orderMarks] at ih
    rw [orderMarks, List.foldr_cons, mem_insertMark, ih, List.mem_cons]

variable {α : Type} {keeps : Char → Bool} {look : Char → α}

/-- Where a mark is put makes no difference to what is kept and looks the same. -/
theorem map_filter_insertMark {c : Char} {cs : List Char}
    (h : ∀ d ∈ cs, combiningClass c ≠ 0 → combiningClass d ≠ 0 → keeps c = true →
      keeps d = true → look c = look d) :
    ((insertMark c cs).filter keeps).map look = ((c :: cs).filter keeps).map look := by
  induction cs with
  | nil => rfl
  | cons d cs ih =>
    rw [insertMark]
    split
    · rename_i hswap
      have hrest := ih fun x hx => h x (List.mem_cons_of_mem _ hx)
      by_cases hc : keeps c = true
      · by_cases hd : keeps d = true
        · have hsame := h d (List.mem_cons_self ..) hswap.1 hswap.2.1 hc hd
          simp only [List.filter_cons_of_pos hc, List.filter_cons_of_pos hd, List.map_cons]
            at hrest ⊢
          rw [hrest, hsame]
        · simp only [List.filter_cons_of_pos hc, List.filter_cons_of_neg hd] at hrest ⊢
          exact hrest
      · simp only [List.filter_cons, if_neg hc] at hrest ⊢
        split
        · rw [List.map_cons, List.map_cons, hrest]
        · exact hrest
    · rfl

/-- Where all marks that are kept look the same, their order does not show. -/
theorem map_filter_orderMarks {cs : List Char}
    (h : ∀ c ∈ cs, ∀ d ∈ cs, combiningClass c ≠ 0 → combiningClass d ≠ 0 → keeps c = true →
      keeps d = true → look c = look d) :
    ((orderMarks cs).filter keeps).map look = (cs.filter keeps).map look := by
  induction cs with
  | nil => rfl
  | cons c cs ih =>
    have hrest := ih fun x hx y hy => h x (List.mem_cons_of_mem _ hx) y (List.mem_cons_of_mem _ hy)
    have hc : ∀ d ∈ orderMarks cs, combiningClass c ≠ 0 → combiningClass d ≠ 0 →
        keeps c = true → keeps d = true → look c = look d := fun d hd =>
      h c (List.mem_cons_self ..) d (List.mem_cons_of_mem _ (mem_orderMarks.mp hd))
    have hinsert := map_filter_insertMark hc
    rw [orderMarks] at hrest hinsert
    rw [orderMarks, List.foldr_cons, hinsert, List.filter_cons, List.filter_cons]
    split
    · rw [List.map_cons, List.map_cons, hrest]
    · exact hrest

end OpeningHours.Text
