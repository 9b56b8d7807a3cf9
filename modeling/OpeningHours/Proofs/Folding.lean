import OpeningHours.Schedule.Week

/-!
# OpeningHours — texts that folding leaves alone

Digits, blanks and punctuation of the ASCII set lie in front of the letter `A` (`0x41`). They have
no lower case, no decomposition and no combining class, so a text of such characters folds to
itself. A closing word has letters, so no such text is marked closed.

## Results

* `fold_eq_self`               — a text without letters folds to itself.
* `mem_of_mem_words`           — the characters of a word are characters of the text.
* `isClosedMarked_eq_false`    — a text without letters does not close a day.
* `isClosedMarked_closedMark`  — the closed mark does.
-/

namespace OpeningHours.Unicode

-- ---------------------------------------------------------------------------
-- Lower case
-- ---------------------------------------------------------------------------

/-- A code point below the table has itself as its image. -/
theorem imageIn_of_lt {n first last step image : Nat} {rest : List (Nat × Nat × Nat × Nat)}
    (h : n < first) : imageIn n ((first, last, step, image) :: rest) = n := by
  rw [imageIn, if_pos h]

theorem lowerChar_of_lt {c : Char} (h : c.toNat < 0x41) : lowerChar c = [c] := by
  have hne : c ≠ 'İ' := by
    rintro rfl
    exact absurd h (by decide)
  have himage : imageIn c.toNat lowerRuns = c.toNat := imageIn_of_lt h
  rw [lowerChar, if_neg hne, himage, Char.ofNat_toNat]

/-- A text without letters is its own lower case. -/
theorem lowerAfter_eq_self {cs : List Char} (h : ∀ c ∈ cs, c.toNat < 0x41) (before : List Char) :
    lowerAfter before cs = cs := by
  -- what stands in front of a character matters to a sigma only, and a sigma is a letter
  induction cs generalizing before with
  | nil => rfl
  | cons c cs ih =>
    have hc := h c (List.mem_cons_self ..)
    have hne : c ≠ 'Σ' := by
      rintro rfl
      exact absurd hc (by decide)
    have hrest := ih (fun x hx => h x (List.mem_cons_of_mem _ hx)) (c :: before)
    rw [lowerAfter, if_neg hne, lowerChar_of_lt hc, hrest, List.singleton_append]

-- ---------------------------------------------------------------------------
-- Decomposition
-- ---------------------------------------------------------------------------

theorem decomposeChar_of_lt {c : Char} (h : c.toNat < 0xC0) : decomposeChar c = [c] := by
  rw [decomposeChar, if_pos h]

theorem classIn_of_lt {n lo hi cls : Nat} {rest : List (Nat × Nat × Nat)} (h : n < lo) :
    classIn n ((lo, hi, cls) :: rest) = 0 := by
  rw [classIn, if_pos h]

theorem combiningClass_of_lt {c : Char} (h : c.toNat < 0x300) : combiningClass c = 0 :=
  classIn_of_lt h

/-- A character without a class stays where it is. -/
theorem insertMark_of_class_zero {c : Char} (h : combiningClass c = 0) (cs : List Char) :
    insertMark c cs = c :: cs := by
  cases cs with
  | nil => rfl
  | cons d ds => rw [insertMark, if_neg fun hmark => hmark.1 h]

/-- A text of characters below the first composed one is its own decomposition. -/
theorem decompose_eq_self {cs : List Char} (h : ∀ c ∈ cs, c.toNat < 0xC0) : decompose cs = cs := by
  induction cs with
  | nil => rfl
  | cons c cs ih =>
    have hc := h c (List.mem_cons_self ..)
    have hrest := ih fun x hx => h x (List.mem_cons_of_mem _ hx)
    have hclass : combiningClass c = 0 := combiningClass_of_lt (by omega)
    rw [decompose, orderMarks] at hrest
    rw [decompose, orderMarks, List.flatMap_cons, decomposeChar_of_lt hc, List.singleton_append,
      List.foldr_cons, hrest, insertMark_of_class_zero hclass]

end OpeningHours.Unicode

namespace OpeningHours.Text

-- ---------------------------------------------------------------------------
-- Folding
-- ---------------------------------------------------------------------------

/-- A text without letters folds to itself. -/
theorem fold_eq_self {cs : List Char} (h : ∀ c ∈ cs, c.toNat < 0x41) : fold cs = cs := by
  have hlower : Unicode.lower cs = cs := Unicode.lowerAfter_eq_self h []
  have hdec : Unicode.decompose cs = cs :=
    Unicode.decompose_eq_self fun c hc => Nat.lt_trans (h c hc) (by decide)
  rw [fold, hlower, hdec, List.filter_eq_self]
  intro c hc
  have := h c hc
  simp only [isDiacritic, Bool.not_eq_true', Bool.and_eq_false_iff, decide_eq_false_iff_not]
  omega

-- ---------------------------------------------------------------------------
-- Words
-- ---------------------------------------------------------------------------

/-- A character of a word is one of the text. -/
theorem mem_of_mem_wordsFrom {word cs w : List Char} (hw : w ∈ wordsFrom word cs) {c : Char}
    (hc : c ∈ w) : c ∈ word ∨ c ∈ cs := by
  induction cs generalizing word with
  | nil =>
    rw [wordsFrom] at hw
    split at hw
    · simp at hw
    · rw [List.mem_singleton.mp hw, List.mem_reverse] at hc
      exact .inl hc
  | cons d cs ih =>
    rw [wordsFrom] at hw
    split at hw
    · rcases ih hw with hmem | hmem
      · rcases List.mem_cons.mp hmem with rfl | hmem
        · exact .inr (List.mem_cons_self ..)
        · exact .inl hmem
      · exact .inr (List.mem_cons_of_mem _ hmem)
    · split at hw
      · rcases ih hw with hmem | hmem
        · simp at hmem
        · exact .inr (List.mem_cons_of_mem _ hmem)
      · rcases List.mem_cons.mp hw with rfl | hw
        · exact .inl (List.mem_reverse.mp hc)
        · rcases ih hw with hmem | hmem
          · simp at hmem
          · exact .inr (List.mem_cons_of_mem _ hmem)

/-- The characters of a word are characters of the text. -/
theorem mem_of_mem_words {cs w : List Char} (hw : w ∈ words cs) {c : Char} (hc : c ∈ w) :
    c ∈ cs := by
  rcases mem_of_mem_wordsFrom hw hc with hmem | hmem
  · simp at hmem
  · exact hmem

end OpeningHours.Text

namespace OpeningHours.Schedule

-- ---------------------------------------------------------------------------
-- Closing words
-- ---------------------------------------------------------------------------

/-- Every closing word has the letter `e`. -/
theorem e_mem_of_mem_closingWords {w : List Char} (h : w ∈ closingWords) : 'e' ∈ w := by
  simp only [closingWords, List.mem_cons, List.not_mem_nil, or_false] at h
  rcases h with rfl | rfl | rfl <;> decide

/-- A text without letters does not close a day. -/
theorem isClosedMarked_eq_false {hours : List Char} (h : ∀ c ∈ hours, c.toNat < 0x41) :
    isClosedMarked hours = false := by
  rw [isClosedMarked, Text.fold_eq_self h, List.any_eq_false]
  intro w hw hclosing
  -- every closing word has an `e`, which the text cannot have
  have he := e_mem_of_mem_closingWords (List.contains_iff_mem.mp hclosing)
  have hlt := h 'e' (Text.mem_of_mem_words hw he)
  exact absurd hlt (by decide)

/-- The closed mark closes a day. -/
theorem isClosedMarked_closedMark : isClosedMarked (' ' :: closedMark.toList) = true := by decide

end OpeningHours.Schedule
