import OpeningHours.Proofs.Folding
import OpeningHours.Proofs.Lines
import OpeningHours.Proofs.RangeScan

/-!
# OpeningHours — blanks around the hours

What stands between blanks is read as if the blanks were not there. For ranges this is so because a
token begins and ends with a digit; for closing words because a blank ends every word, is no
neighbour that the case of a letter depends on, and lets no mark pass (`Separates`). The table of
blanks is checked for this once, range by range.

## Results

* `separates_of_isBlank` — every blank separates.
* `words_fold_append`    — the folded words of a text are those on both sides of a separating
  character.
* `readToken_append`     — a token is read in the same way with blanks behind it.
* `spans_edges`, `spans_trim` — blanks at both ends of an hours text are not part of its spans.
* `isClosedMarked_edges`, `isClosedMarked_trim` — nor do they matter to its closing words.
-/

namespace OpeningHours.Unicode

-- ---------------------------------------------------------------------------
-- Tables
-- ---------------------------------------------------------------------------

/-- What holds of the code points of every range holds of all that the table has. -/
theorem RangeTable.of_has {P : Nat → Prop} {t : RangeTable}
    (h : ∀ r ∈ t, ∀ k < r.2 - r.1 + 1, P (r.1 + k)) {n : Nat} (hn : RangeTable.has n t = true) :
    P n := by
  induction t with
  | nil => simp [has] at hn
  | cons r rest ih =>
    obtain ⟨lo, hi⟩ := r
    rw [has] at hn
    split at hn
    · simp at hn
    · rename_i hlo
      split at hn
      · rename_i hhi
        have hk := h (lo, hi) (List.mem_cons_self ..) (n - lo) (by simp only; omega)
        rwa [Nat.add_sub_of_le (by omega)] at hk
      · exact ih (fun r hr => h r (List.mem_cons_of_mem _ hr)) hn

end OpeningHours.Unicode

namespace OpeningHours

-- ---------------------------------------------------------------------------
-- Separating characters
-- ---------------------------------------------------------------------------

namespace Text

/-- The character decomposes to one that is neither a mark nor part of a word. -/
def hasPlainImage (c : Char) : Bool :=
  match Unicode.decomposeChar c with
  | [b] => Unicode.combiningClass b = 0 && !isWord b && !isDiacritic b
  | _ => false

/-- What the test of a character's image stands for. -/
theorem hasPlainImage_iff {c : Char} :
    hasPlainImage c = true ↔ ∃ b, Unicode.decomposeChar c = [b] ∧ Unicode.combiningClass b = 0 ∧
      isWord b = false ∧ isDiacritic b = false := by
  rw [hasPlainImage]
  split
  · rename_i b hdec
    simp [hdec, and_assoc]
  · rename_i hnone
    simp only [Bool.false_eq_true, false_iff, not_exists]
    exact fun b hb => hnone b hb.1

/-- No word goes on across the character, and what stands on one side of it does not matter to the
folding of the other side. -/
structure Separates (c : Char) : Prop where
  ne_sigma : c ≠ 'Σ'
  not_cased : Unicode.isCased c = false
  not_ignorable : Unicode.isCaseIgnorable c = false
  lower : Unicode.lowerChar c = [c]
  plain_image : hasPlainImage c = true

instance (c : Char) : Decidable (Separates c) :=
  decidable_of_iff
    (c ≠ 'Σ' ∧ Unicode.isCased c = false ∧ Unicode.isCaseIgnorable c = false ∧
      Unicode.lowerChar c = [c] ∧ hasPlainImage c = true)
    ⟨fun ⟨hsigma, hcased, hignorable, hlower, himage⟩ =>
      ⟨hsigma, hcased, hignorable, hlower, himage⟩,
    fun h => ⟨h.ne_sigma, h.not_cased, h.not_ignorable, h.lower, h.plain_image⟩⟩

/-- Every blank separates. -/
theorem separates_of_isBlank {c : Char} (h : isBlank c = true) : Separates c := by
  have hofNat : Separates (Char.ofNat c.toNat) :=
    Unicode.RangeTable.of_has (P := fun n => Separates (Char.ofNat n)) (by decide +kernel) h
  rwa [Char.ofNat_toNat] at hofNat

/-- No blank is a word character. -/
theorem isWord_of_isBlank {c : Char} (h : isBlank c = true) : isWord c = false := by
  have hofNat : isWord (Char.ofNat c.toNat) = false :=
    Unicode.RangeTable.of_has (P := fun n => isWord (Char.ofNat n) = false) (by decide +kernel) h
  rwa [Char.ofNat_toNat] at hofNat

end Text

open Text

namespace Unicode

-- ---------------------------------------------------------------------------
-- Folding
-- ---------------------------------------------------------------------------

section

variable {b : Char} (hb : Separates b)
include hb

theorem meetsCased_append (cs far : List Char) :
    meetsCased (cs ++ b :: far) = meetsCased cs := by
  induction cs with
  | nil => simp [meetsCased, hb.not_ignorable, hb.not_cased]
  | cons c cs ih =>
    rw [meetsCased, meetsCased] at ih
    rw [List.cons_append, meetsCased, meetsCased]
    by_cases hc : isCaseIgnorable c = true
    · rw [List.dropWhile_cons_of_pos hc, List.dropWhile_cons_of_pos hc]
      exact ih
    · rw [List.dropWhile_cons_of_neg hc, List.dropWhile_cons_of_neg hc]

/-- What stands beyond the character before a text has no part in its lower case. -/
theorem lowerAfter_append (before far cs : List Char) :
    lowerAfter (before ++ b :: far) cs = lowerAfter before cs := by
  induction cs generalizing before with
  | nil => rfl
  | cons c cs ih =>
    rw [lowerAfter, lowerAfter, endsWord, endsWord, meetsCased_append hb, ← List.cons_append, ih]

/-- Lower case is taken on both sides of such a character on their own. -/
theorem lowerAfter_append_cons (before cs after : List Char) :
    lowerAfter before (cs ++ b :: after) = lowerAfter before cs ++ b :: lower after := by
  induction cs generalizing before with
  | nil =>
    have hafter : lowerAfter (b :: before) after = lower after :=
      lowerAfter_append hb [] before after
    show (if b = 'Σ' then _ else lowerChar b) ++ lowerAfter (b :: before) after = _
    rw [if_neg hb.ne_sigma, hb.lower, hafter]
    rfl
  | cons c cs ih =>
    -- a sigma looks no further than the separating character
    rw [List.cons_append, lowerAfter, lowerAfter, endsWord, endsWord, meetsCased_append hb, ih,
      List.append_assoc]

theorem lower_append_cons (cs after : List Char) :
    lower (cs ++ b :: after) = lower cs ++ b :: lower after :=
  lowerAfter_append_cons hb [] cs after

end

/-- No mark moves across a character without a class. -/
theorem insertMark_append {e : Char} (h : combiningClass e = 0) (c : Char) (cs after : List Char) :
    insertMark c (cs ++ e :: after) = insertMark c cs ++ e :: after := by
  induction cs with
  | nil => simp [insertMark, h]
  | cons d cs ih =>
    rw [List.cons_append, insertMark, insertMark, ih]
    split <;> rfl

/-- Marks are put in order on both sides of a starter on their own. -/
theorem orderMarks_append {e : Char} (h : combiningClass e = 0) (cs after : List Char) :
    orderMarks (cs ++ e :: after) = orderMarks cs ++ e :: orderMarks after := by
  have hend : insertMark e (orderMarks after) = e :: orderMarks after :=
    insertMark_of_class_zero h _
  induction cs with
  | nil => exact hend
  | cons c cs ih =>
    rw [orderMarks] at ih
    rw [orderMarks, List.cons_append, List.foldr_cons, ih, insertMark_append h]
    rfl

/-- A text is decomposed on both sides of a starter on its own. -/
theorem decompose_append_cons {c e : Char} (hc : decomposeChar c = [e]) (he : combiningClass e = 0)
    (cs after : List Char) :
    decompose (cs ++ c :: after) = decompose cs ++ e :: decompose after := by
  rw [decompose, List.flatMap_append, List.flatMap_cons, hc, List.singleton_append,
    orderMarks_append he]
  rfl

end Unicode

namespace Text

-- ---------------------------------------------------------------------------
-- Words
-- ---------------------------------------------------------------------------

/-- A character that is in no word ends the word in front of it. -/
theorem wordsFrom_append_cons {e : Char} (h : isWord e = false) (word cs after : List Char) :
    wordsFrom word (cs ++ e :: after) = wordsFrom word cs ++ words after := by
  induction cs generalizing word with
  | nil =>
    have hnot : ¬ isWord e = true := by simp [h]
    show (if isWord e then _ else if word.isEmpty then _ else _) =
      (if word.isEmpty then _ else _) ++ _
    rw [if_neg hnot]
    split
    · rfl
    · rfl
  | cons c cs ih =>
    rw [List.cons_append, wordsFrom, wordsFrom]
    split
    · exact ih _
    · split
      · exact ih _
      · rw [ih, List.cons_append]

/-- The words on both sides of such a character are those of the two texts. -/
theorem words_append_cons {e : Char} (h : isWord e = false) (cs after : List Char) :
    words (cs ++ e :: after) = words cs ++ words after :=
  wordsFrom_append_cons h [] cs after

/-- The folded words of a text are those on both sides of a separating character. -/
theorem words_fold_append {c : Char} (h : Separates c) (cs after : List Char) :
    words (fold (cs ++ c :: after)) = words (fold cs) ++ words (fold after) := by
  obtain ⟨e, hdec, hclass, hword, hmark⟩ := hasPlainImage_iff.mp h.plain_image
  have hfold : fold (cs ++ c :: after) = fold cs ++ e :: fold after := by
    rw [fold, Unicode.lower_append_cons h, Unicode.decompose_append_cons hdec hclass,
      List.filter_append, List.filter_cons_of_pos (by simp [hmark])]
    rfl
  rw [hfold, words_append_cons hword]

/-- A blank text has no words. -/
theorem words_fold_of_blank {cs : List Char} (h : AllBlank cs) : words (fold cs) = [] := by
  induction cs with
  | nil => rfl
  | cons c cs ih =>
    obtain ⟨hc, hcs⟩ := List.forall_mem_cons.mp h
    have hcons := words_fold_append (separates_of_isBlank hc) [] cs
    rwa [ih hcs] at hcons

/-- Blanks at both ends of a text are not part of its folded words. -/
theorem words_fold_edges {front back : List Char} (hfront : AllBlank front)
    (hback : AllBlank back) (cs : List Char) :
    words (fold (front ++ cs ++ back)) = words (fold cs) := by
  have hafter : words (fold (cs ++ back)) = words (fold cs) := by
    cases back with
    | nil => rw [List.append_nil]
    | cons b back =>
      obtain ⟨hb, hback⟩ := List.forall_mem_cons.mp hback
      rw [words_fold_append (separates_of_isBlank hb), words_fold_of_blank hback, List.append_nil]
  rw [List.append_assoc]
  induction front with
  | nil => exact hafter
  | cons b front ih =>
    obtain ⟨hb, hfront⟩ := List.forall_mem_cons.mp hfront
    have hcons := words_fold_append (separates_of_isBlank hb) [] (front ++ (cs ++ back))
    rwa [ih hfront] at hcons

end Text

namespace Schedule

-- ---------------------------------------------------------------------------
-- Range tokens
-- ---------------------------------------------------------------------------

/-- No blank is a digit. -/
theorem isDecimalDigit_of_isBlank {c : Char} (h : isBlank c = true) :
    Unicode.isDecimalDigit c = false := by
  cases hd : Unicode.isDecimalDigit c with
  | false => rfl
  | true => exact absurd (isWord_of_isDecimalDigit hd) (by simp [isWord_of_isBlank h])

/-- The rest of what was read, with blanks behind it. -/
def behind {α : Type} (back : List Char) (r : α × List Char) : α × List Char :=
  (r.1, r.2 ++ back)

section

variable {back : List Char} (hback : AllBlank back)
include hback

/-- Two digits are read the same with blanks at the end of the text. -/
theorem readPair_append (cs : List Char) :
    readPair (cs ++ back) = (readPair cs).map (behind back) := by
  match cs with
  | a :: b :: rest =>
    show (if _ then _ else _) = Option.map _ (if _ then _ else _)
    split <;> rfl
  | [a] =>
    cases back with
    | nil => rfl
    | cons b back =>
      have hb := isDecimalDigit_of_isBlank (hback b (List.mem_cons_self ..))
      simp [readPair, hb]
  | [] =>
    cases back with
    | nil => rfl
    | cons b back =>
      have hb := isDecimalDigit_of_isBlank (hback b (List.mem_cons_self ..))
      cases back with
      | nil => rfl
      | cons c back => simp [readPair, hb]

/-- A character is found the same with blanks at the end of the text. -/
theorem expect_append {c : Char} (hc : isBlank c = false) (cs : List Char) :
    expect c (cs ++ back) = (expect c cs).map (· ++ back) := by
  cases cs with
  | cons d cs =>
    show (if _ then _ else _) = Option.map _ (if _ then _ else _)
    split <;> rfl
  | nil =>
    cases back with
    | nil => rfl
    | cons b back =>
      have hb : b ≠ c := by
        rintro rfl
        simp [hback b (List.mem_cons_self ..)] at hc
      simp [expect, hb]

/-- A clock is read the same with blanks at the end of the text. -/
theorem readClock_append (cs : List Char) :
    readClock (cs ++ back) = (readClock cs).map (behind back) := by
  have hcolon : isBlank ':' = false := by decide
  rw [readClock, readClock, readPair_append hback]
  cases readPair cs with
  | none => rfl
  | some hour =>
    simp only [Option.map_some, Option.bind_eq_bind, Option.bind_some, behind,
      expect_append hback hcolon]
    cases expect ':' hour.2 with
    | none => rfl
    | some rest =>
      simp only [Option.map_some, Option.bind_some, readPair_append hback]
      cases readPair rest <;> rfl

/-- Blanks in front of a text are passed over; blanks behind it stay, unless nothing else is
left. -/
theorem trimStart_append_cases (cs : List Char) :
    trimStart (cs ++ back) = trimStart cs ++ back ∨
      trimStart (cs ++ back) = [] ∧ trimStart cs = [] := by
  by_cases hcs : trimStart cs = []
  · have hall : AllBlank (cs ++ back) :=
      List.forall_mem_append.mpr ⟨trimStart_eq_nil_iff.mp hcs, hback⟩
    exact .inr ⟨trimStart_eq_nil_iff.mpr hall, hcs⟩
  · rw [trimStart] at hcs
    rw [trimStart, trimStart, List.dropWhile_append, if_neg (by simpa using hcs)]
    exact .inl rfl

theorem startsInWord_append (cs : List Char) : startsInWord (cs ++ back) = startsInWord cs := by
  cases cs with
  | cons c cs => rfl
  | nil =>
    cases back with
    | nil => rfl
    | cons b back => exact isWord_of_isBlank (hback b (List.mem_cons_self ..))

/-- A token is read the same with blanks at the end of the text. -/
theorem readToken_append (cs : List Char) :
    readToken (cs ++ back) = (readToken cs).map (behind back) := by
  have hdash : isBlank '-' = false := by decide
  rw [readToken, readToken, readClock_append hback]
  cases readClock cs with
  | none => rfl
  | some start =>
    obtain ⟨⟨hour, minute⟩, rest⟩ := start
    have hexpect : expect '-' (trimStart (rest ++ back)) =
        (expect '-' (trimStart rest)).map (· ++ back) := by
      rcases trimStart_append_cases hback rest with heq | ⟨hall, hrest⟩
      · rw [heq, expect_append hback hdash]
      · rw [hall, hrest]
        rfl
    simp only [Option.map_some, Option.bind_eq_bind, Option.bind_some, behind, hexpect]
    cases expect '-' (trimStart rest) with
    | none => rfl
    | some rest =>
      have hclock : readClock (trimStart (rest ++ back)) =
          (readClock (trimStart rest)).map (behind back) := by
        rcases trimStart_append_cases hback rest with heq | ⟨hall, hrest⟩
        · rw [heq, readClock_append hback]
        · rw [hall, hrest]
          rfl
      simp only [Option.map_some, Option.bind_some, hclock]
      cases readClock (trimStart rest) with
      | none => rfl
      | some stop =>
        simp only [Option.map_some, Option.bind_some, behind, startsInWord_append hback]
        split <;> rfl

/-- There are no tokens in a blank text. -/
theorem tokensFrom_of_blank (afterWord : Bool) (skip : Nat) :
    tokensFrom afterWord skip back = [] := by
  induction back generalizing afterWord skip with
  | nil => cases skip <;> rfl
  | cons b back ih =>
    obtain ⟨hb, hrest⟩ := List.forall_mem_cons.mp hback
    cases skip with
    | succ skip => exact ih hrest _ _
    | zero =>
      rw [tokensFrom_of_readToken_none (readToken_of_not_digit (isDecimalDigit_of_isBlank hb) _)]
      exact ih hrest _ _

/-- No token reaches into the blanks at the end of a text. -/
theorem tokensFrom_append (afterWord : Bool) (skip : Nat) (cs : List Char) :
    tokensFrom afterWord skip (cs ++ back) = tokensFrom afterWord skip cs := by
  induction cs generalizing afterWord skip with
  | nil =>
    rw [List.nil_append, tokensFrom_of_blank hback]
    cases skip <;> rfl
  | cons c cs ih =>
    cases skip with
    | succ skip => exact ih _ _
    | zero =>
      rw [List.cons_append, tokensFrom, tokensFrom, ← List.cons_append, readToken_append hback]
      cases afterWord with
      | true => exact ih _ _
      | false =>
        simp only [Bool.false_eq_true, if_false]
        cases readToken (c :: cs) with
        | none => exact ih _ _
        | some found =>
          obtain ⟨token, rest⟩ := found
          -- the blanks stand behind the rest, so what the token covers has the same length
          have hlen : (cs ++ back).length - (rest ++ back).length = cs.length - rest.length := by
            simp only [List.length_append]
            omega
          simp only [Option.map_some, behind, hlen, ih]

end

-- ---------------------------------------------------------------------------
-- Hours
-- ---------------------------------------------------------------------------

/-- Blanks at both ends of an hours text are not part of its spans. -/
theorem spans_edges {front back : List Char} (hfront : AllBlank front) (hback : AllBlank back)
    (hours : List Char) : spans (front ++ hours ++ back) = spans hours := by
  have htokens : tokens (front ++ hours ++ back) = tokens hours := by
    rw [List.append_assoc, tokens]
    induction front with
    | nil => exact tokensFrom_append hback false 0 hours
    | cons b front ih =>
      obtain ⟨hb, hfront⟩ := List.forall_mem_cons.mp hfront
      -- no token starts at the blank, and the scan goes on behind it as at the start of a text
      have hdigit := isDecimalDigit_of_isBlank hb
      rw [List.cons_append, tokensFrom_of_readToken_none (readToken_of_not_digit hdigit _),
        isWord_of_isBlank hb]
      exact ih hfront
  rw [spans, htokens, spans]

/-- Blanks at both ends of an hours text do not matter to its closing words. -/
theorem isClosedMarked_edges {front back : List Char} (hfront : AllBlank front)
    (hback : AllBlank back) (hours : List Char) :
    isClosedMarked (front ++ hours ++ back) = isClosedMarked hours := by
  rw [isClosedMarked, words_fold_edges hfront hback, isClosedMarked]

/-- Blanks at the ends of a text name no spans. -/
theorem spans_trim (hours : List Char) : spans (trim hours) = spans hours := by
  obtain ⟨front, back, hfront, hback, hhours⟩ := exists_blank_edges hours
  have hedges := spans_edges hfront hback (trim hours)
  rw [← hhours] at hedges
  exact hedges.symm

/-- Blanks at the ends of a text close nothing. -/
theorem isClosedMarked_trim (hours : List Char) :
    isClosedMarked (trim hours) = isClosedMarked hours := by
  obtain ⟨front, back, hfront, hback, hhours⟩ := exists_blank_edges hours
  have hedges := isClosedMarked_edges hfront hback (trim hours)
  rw [← hhours] at hedges
  exact hedges.symm

end Schedule

end OpeningHours
