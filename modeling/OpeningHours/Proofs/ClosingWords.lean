import OpeningHours.Proofs.Folding
import OpeningHours.Proofs.Respelling

/-!
# OpeningHours — closing words

A day is marked closed by a whole word. The words of a text are its maximal runs of word characters,
which are also what lies between two edges of words and holds word characters only.

The spelling of the word does not matter. Folding leaves two things of a spelling that the letters
do not fix, the form of a sigma and the order of marks other than diacritics, and neither is seen by
a closing word. `blur` takes both away: what is left of a folded text is what is left of its
letters, and a closing word stands in the one exactly if it stands in the other.

* `IsRun`  — a maximal run of word characters, between what stands on its two sides.
* `IsEdge` — the edge of a word.
* `blur`   — a character apart from the form of a sigma and the kind of a mark.

## Results

* `mem_words_iff`             — the words of a text are its maximal runs of word characters.
* `map_blur_fold`             — apart from sigmas and marks, folding gives the letters of a text.
* `isClosedMarked_iff_edges`  — closing words are found between edges of words.
* `isClosedMarked_wholeWord`  — a text is marked closed exactly if one of its folded words is a
  closing word, however it is spelled.
-/

namespace OpeningHours

namespace Text

open Unicode

-- ---------------------------------------------------------------------------
-- Runs of word characters
-- ---------------------------------------------------------------------------

/-- The text `w` is a maximal run of word characters between `front` and `back`. -/
structure IsRun (front w back : List Char) : Prop where
  ne_nil : w ≠ []
  isWord : ∀ c ∈ w, isWord c = true
  front_ends : ∀ c ∈ front.getLast?, Text.isWord c = false
  back_starts : ∀ c ∈ back.head?, Text.isWord c = false

/-- Word characters are read up to the first character that is none. -/
theorem takeWhile_isWord {w back : List Char} (hw : ∀ c ∈ w, isWord c = true)
    (hback : ∀ c ∈ back.head?, isWord c = false) : (w ++ back).takeWhile isWord = w := by
  have hnone : back.takeWhile isWord = [] := by
    cases back with
    | nil => rfl
    | cons c back => exact List.takeWhile_cons_of_neg (by simp [hback c rfl])
  rw [List.takeWhile_append_of_pos hw, hnone, List.append_nil]

/-- The text `w` is a run of the text. -/
def HasRun (cs w : List Char) : Prop :=
  ∃ front back, cs = front ++ w ++ back ∧ IsRun front w back

/-- Only the last character in front of a run matters to it. -/
theorem IsRun.of_append {far front w back : List Char} (h : IsRun (far ++ front) w back) :
    IsRun front w back := by
  refine ⟨h.ne_nil, h.isWord, ?_, h.back_starts⟩
  intro c hc
  have hlast : (far ++ front).getLast? = some c := by
    rw [List.getLast?_append, Option.mem_def.mp hc, Option.some_or]
  exact h.front_ends c hlast

/-- A run stays one when the text is longer far in front of it. -/
theorem IsRun.append {front w back : List Char} (h : IsRun front w back) (hne : front ≠ [])
    (far : List Char) : IsRun (far ++ front) w back := by
  refine ⟨h.ne_nil, h.isWord, ?_, h.back_starts⟩
  intro c hc
  have hlast := List.getLast?_eq_some_getLast hne
  rw [List.getLast?_append, hlast, Option.some_or] at hc
  exact h.front_ends c (hlast ▸ hc)

/-- Nothing but word characters in front of a run is nothing at all. -/
theorem IsRun.front_eq_nil {front w back : List Char} (h : IsRun front w back)
    (hfront : ∀ c ∈ front, Text.isWord c = true) : front = [] := by
  rcases List.eq_nil_or_concat front with rfl | ⟨front, c, rfl⟩
  · rfl
  · have hc := h.front_ends c (by simp)
    rw [hfront c (by simp)] at hc
    contradiction

/-- A run starts with a word character. -/
theorem IsRun.exists_cons {front w back : List Char} (h : IsRun front w back) :
    ∃ c rest, w = c :: rest ∧ Text.isWord c = true := by
  obtain ⟨c, rest, rfl⟩ := List.exists_cons_of_ne_nil h.ne_nil
  exact ⟨c, rest, rfl, h.isWord c (List.mem_cons_self ..)⟩

theorem not_hasRun_nil {w : List Char} : ¬ HasRun [] w := by
  rintro ⟨front, back, heq, h⟩
  obtain ⟨c, rest, rfl, -⟩ := h.exists_cons
  simp at heq

/-- Word characters in front of a text that starts with none of them are a run of their own. -/
theorem hasRun_append_iff {run rest w : List Char} (hrun : ∀ c ∈ run, isWord c = true)
    (hrest : ∀ c ∈ rest.head?, isWord c = false) :
    HasRun (run ++ rest) w ↔ run ≠ [] ∧ w = run ∨ HasRun rest w := by
  constructor
  · rintro ⟨front, back, heq, h⟩
    rw [List.append_assoc, List.append_eq_append_iff] at heq
    rcases heq with ⟨front, rfl, rfl⟩ | ⟨more, rfl, heq⟩
    · exact .inr ⟨front, back, by simp, h.of_append⟩
    · obtain rfl := h.front_eq_nil fun c hc => hrun c (List.mem_append_left _ hc)
      rw [List.nil_append] at hrun ⊢
      have hw : w = more := by
        rw [← takeWhile_isWord h.isWord h.back_starts, heq, takeWhile_isWord hrun hrest]
      exact .inl ⟨hw ▸ h.ne_nil, hw⟩
  · rintro (⟨hne, rfl⟩ | ⟨front, back, rfl, h⟩)
    · exact ⟨[], rest, by simp, hne, hrun, by simp, hrest⟩
    · -- the text does not start with the run, as it starts with no word character
      have hne : front ≠ [] := by
        rintro rfl
        obtain ⟨c, w, rfl, hc⟩ := h.exists_cons
        rw [hrest c rfl] at hc
        contradiction
      exact ⟨run ++ front, back, by simp, h.append hne run⟩

/-- A character that is in no word is in no run. -/
theorem hasRun_cons_iff {c : Char} (hc : isWord c = false) {cs w : List Char} :
    HasRun (c :: cs) w ↔ HasRun cs w := by
  constructor
  · rintro ⟨front, back, heq, h⟩
    cases front with
    | nil =>
      obtain ⟨d, w, rfl, hd⟩ := h.exists_cons
      obtain rfl : c = d := (List.cons.inj heq).1
      rw [hc] at hd
      contradiction
    | cons d front =>
      have hrun : IsRun ([d] ++ front) w back := h
      exact ⟨front, back, (List.cons.inj heq).2, hrun.of_append⟩
  · rintro ⟨front, back, rfl, h⟩
    cases front with
    | nil => exact ⟨[c], back, rfl, h.ne_nil, h.isWord, by simpa using hc, h.back_starts⟩
    | cons d front => exact ⟨c :: d :: front, back, rfl, h.append (List.cons_ne_nil d front) [c]⟩

/-- The words that are read are the runs, the one that was begun among them. -/
theorem mem_wordsFrom_iff {word : List Char} (hword : ∀ c ∈ word, isWord c = true)
    {cs w : List Char} : w ∈ wordsFrom word cs ↔ HasRun (word.reverse ++ cs) w := by
  -- the word read so far stands, reversed, in front of what is still to be read
  induction cs generalizing word with
  | nil =>
    rw [hasRun_append_iff (by simpa using hword) (by simp), or_iff_left not_hasRun_nil, wordsFrom]
    cases word <;> simp
  | cons c cs ih =>
    rw [wordsFrom]
    split
    · rename_i hc
      have hmore : ∀ d ∈ c :: word, isWord d = true := List.forall_mem_cons.mpr ⟨hc, hword⟩
      rw [ih hmore, List.reverse_cons, List.append_assoc, List.singleton_append]
    · rename_i hc
      have hc : isWord c = false := by simpa using hc
      have hrest : w ∈ wordsFrom [] cs ↔ HasRun cs w := ih (by simp)
      rw [hasRun_append_iff (by simpa using hword) (by simp [hc]), hasRun_cons_iff hc, ← hrest]
      cases word <;> simp

/-- The words of a text are its maximal runs of word characters. -/
theorem mem_words_iff {cs w : List Char} : w ∈ words cs ↔ HasRun cs w :=
  mem_wordsFrom_iff (by simp)

-- ---------------------------------------------------------------------------
-- Edges of words
-- ---------------------------------------------------------------------------

/-- The place between two texts is the edge of a word: just one of its neighbours is a word
character. -/
def IsEdge (front back : List Char) : Prop :=
  (∃ c ∈ front.getLast?, isWord c = true) ↔ ¬ ∃ c ∈ back.head?, isWord c = true

/-- A run is a text of word characters between two edges. -/
theorem isRun_iff_edges {front w back : List Char} (hne : w ≠ [])
    (hw : ∀ c ∈ w, isWord c = true) :
    IsRun front w back ↔ IsEdge front (w ++ back) ∧ IsEdge (front ++ w) back := by
  have hfirst : ∃ c ∈ (w ++ back).head?, isWord c = true := by
    obtain ⟨c, w, rfl⟩ := List.exists_cons_of_ne_nil hne
    exact ⟨c, rfl, hw c (List.mem_cons_self ..)⟩
  have hlast : ∃ c ∈ (front ++ w).getLast?, isWord c = true := by
    refine ⟨w.getLast hne, ?_, hw _ (List.getLast_mem hne)⟩
    rw [List.getLast?_append, List.getLast?_eq_some_getLast hne]
    rfl
  have hfront : IsEdge front (w ++ back) ↔ ∀ c ∈ front.getLast?, isWord c = false := by
    rw [IsEdge, iff_false_right (not_not_intro hfirst)]
    simp
  have hback : IsEdge (front ++ w) back ↔ ∀ c ∈ back.head?, isWord c = false := by
    rw [IsEdge, iff_true_left hlast]
    simp
  rw [hfront, hback]
  exact ⟨fun h => ⟨h.front_ends, h.back_starts⟩, fun h => ⟨hne, hw, h.1, h.2⟩⟩

-- ---------------------------------------------------------------------------
-- Sigmas and marks
-- ---------------------------------------------------------------------------

/-- What is left of a character apart from the form of a sigma and the kind of a mark. -/
def blur (c : Char) : Char :=
  if combiningClass c ≠ 0 then '\u0483' else if c = 'ς' then 'σ' else c

/-- Blurring keeps what is a word character. -/
theorem isWord_blur (c : Char) : isWord (blur c) = isWord c := by
  rw [blur]
  split
  · rename_i hclass
    have hc : isWord c = true := by simp [isWord, isMark_of_combiningClass tablesAgree hclass]
    rw [hc]
    decide
  · split
    · rename_i hc
      rw [hc]
      decide
    · rfl

/-- A character of the ASCII set is not mistaken for another one. -/
theorem blur_eq_iff {c e : Char} (he : e.toNat < 0x80) : blur c = e ↔ c = e := by
  constructor
  · intro h
    rw [blur] at h
    split at h
    · rw [← h] at he
      exact absurd he (by decide)
    · split at h
      · rw [← h] at he
        exact absurd he (by decide)
      · exact h
  · rintro rfl
    have hsigma : c ≠ 'ς' := by
      rintro rfl
      exact absurd he (by decide)
    rw [blur, if_neg (not_not_intro (combiningClass_of_lt (by omega))), if_neg hsigma]

/-- A text is blurred to an ASCII text only if it is that text. -/
theorem map_blur_eq_iff {cs w : List Char} (hw : ∀ e ∈ w, e.toNat < 0x80) :
    cs.map blur = w ↔ cs = w := by
  induction w generalizing cs with
  | nil => exact List.map_eq_nil_iff
  | cons e w ih =>
    obtain ⟨he, hw⟩ := List.forall_mem_cons.mp hw
    cases cs with
    | nil => simp
    | cons c cs => rw [List.map_cons, List.cons.injEq, List.cons.injEq, blur_eq_iff he, ih hw]

/-- The words of a blurred text are the blurred words. -/
theorem wordsFrom_map_blur (word cs : List Char) :
    wordsFrom (word.map blur) (cs.map blur) = (wordsFrom word cs).map (List.map blur) := by
  induction cs generalizing word with
  | nil => cases word <;> simp [wordsFrom]
  | cons c cs ih =>
    have hcons := ih (c :: word)
    have hnil := ih []
    rw [List.map_cons] at hcons
    rw [List.map_nil] at hnil
    rw [List.map_cons, wordsFrom, wordsFrom, isWord_blur, hcons, hnil]
    split
    · rfl
    · cases word <;> simp

/-- The words of a blurred text are the blurred words. -/
theorem words_map_blur (cs : List Char) : words (cs.map blur) = (words cs).map (List.map blur) :=
  wordsFrom_map_blur [] cs

-- ---------------------------------------------------------------------------
-- Folding
-- ---------------------------------------------------------------------------

/-- The folded text, blurred, is that of its letters one by one. -/
theorem map_blur_lowerAfter (before cs : List Char) :
    (((lowerAfter before cs).flatMap decomposeChar).filter fun x => !isDiacritic x).map blur =
      (cs.flatMap letters).map blur := by
  induction cs generalizing before with
  | nil => rfl
  | cons c cs ih =>
    have hfirst : (((if c = 'Σ' then [if endsWord before cs then 'ς' else 'σ']
        else lowerChar c).flatMap decomposeChar).filter fun x => !isDiacritic x).map blur =
          (letters c).map blur := by
      split
      · rename_i hc
        subst hc
        split <;> decide
      · rfl
    rw [lowerAfter, List.flatMap_append, List.filter_append, List.map_append, hfirst, ih,
      List.flatMap_cons, List.map_append]

/-- Apart from sigmas and marks, folding gives the letters of a text. -/
theorem map_blur_fold (cs : List Char) : (fold cs).map blur = (cs.flatMap letters).map blur := by
  have hsame : ∀ c d, combiningClass c ≠ 0 → combiningClass d ≠ 0 → blur c = blur d := by
    intro c d hc hd
    rw [blur, blur, if_pos hc, if_pos hd]
  rw [fold, decompose, map_filter_orderMarks fun c _ d _ hc hd _ _ => hsame c d hc hd, lower,
    map_blur_lowerAfter]

end Text

namespace Schedule

open Text

-- ---------------------------------------------------------------------------
-- Closing words
-- ---------------------------------------------------------------------------

/-- The closing words are ASCII texts. -/
theorem closingWords_ascii {w : List Char} (hw : w ∈ closingWords) : ∀ e ∈ w, e.toNat < 0x80 := by
  have hall : ∀ w ∈ closingWords, (w.all fun e => e.toNat < 0x80) = true := by decide
  simpa using hall w hw

/-- A closing word is a closing word with its sigmas and marks blurred. -/
theorem contains_map_blur (w : List Char) :
    closingWords.contains (w.map blur) = closingWords.contains w := by
  rw [Bool.eq_iff_iff, List.contains_iff_mem, List.contains_iff_mem]
  constructor
  · intro h
    have heq := (map_blur_eq_iff (closingWords_ascii h)).mp rfl
    rwa [← heq] at h
  · intro h
    rwa [(map_blur_eq_iff (closingWords_ascii h)).mpr rfl]

/-- Only the letters of a text matter to its closing words. -/
theorem isClosedMarked_eq (hours : List Char) :
    isClosedMarked hours =
      (words ((hours.flatMap letters).map blur)).any fun w => closingWords.contains w := by
  rw [← map_blur_fold, words_map_blur, List.any_map, isClosedMarked]
  exact congrArg _ (funext fun w => (contains_map_blur w).symm)

/-- A text is marked closed exactly if a closing word is one of its runs. -/
theorem isClosedMarked_iff_hasRun {hours : List Char} :
    isClosedMarked hours = true ↔ ∃ w ∈ closingWords, HasRun (fold hours) w := by
  simp only [isClosedMarked, List.any_eq_true, mem_words_iff, List.contains_iff_mem, and_comm]

/-- Closing words are found between edges of words. -/
theorem isClosedMarked_iff_edges {hours : List Char} :
    isClosedMarked hours = true ↔ ∃ w ∈ closingWords, ∃ front back,
      fold hours = front ++ w ++ back ∧ IsEdge front (w ++ back) ∧ IsEdge (front ++ w) back := by
  have hclosing : ∀ w ∈ closingWords, w ≠ [] ∧ w.all isWord = true := by decide
  rw [isClosedMarked_iff_hasRun]
  constructor
  · rintro ⟨w, hw, front, back, heq, h⟩
    exact ⟨w, hw, front, back, heq, (isRun_iff_edges h.ne_nil h.isWord).mp h⟩
  · rintro ⟨w, hw, front, back, heq, h⟩
    obtain ⟨hne, hword⟩ := hclosing w hw
    exact ⟨w, hw, front, back, heq, (isRun_iff_edges hne (List.all_eq_true.mp hword)).mpr h⟩

/-- **A text is marked closed by a whole word, however it is spelled.** A closing word is one of the
maximal runs of word characters of the folded text, and the answer is the same for all texts that
come from one another by other characters with the same lower-case form, by composing and
decomposing, and by diacritics put in or left out. -/
theorem isClosedMarked_wholeWord (hours : List Char) :
    (isClosedMarked hours = true ↔
      ∃ w ∈ ["ferme".toList, "fermee".toList, "closed".toList], HasRun (fold hours) w) ∧
    ∀ hours', Relation.EqvGen Respells hours hours' →
      isClosedMarked hours' = isClosedMarked hours := by
  refine ⟨isClosedMarked_iff_hasRun, ?_⟩
  intro hours' h
  rw [isClosedMarked_eq, isClosedMarked_eq, flatMap_letters_of_eqvGen h]

/-- A closing word in capitals and with its accent is the one without. -/
theorem isClosedMarked_wholeWord_accented :
    isClosedMarked "08:00 FermÉ".toList = true ∧ isClosedMarked "08:00 ferme".toList = true := by
  have hrespells : Relation.EqvGen Respells "08:00 FermÉ".toList "08:00 ferme".toList := by
    have hcapital : Respells "08:00 FermÉ".toList "08:00 fermÉ".toList :=
      .recase "08:00 ".toList "ermÉ".toList (by decide)
    have hsmall : Respells "08:00 fermÉ".toList "08:00 fermé".toList :=
      .recase "08:00 ferm".toList [] (by decide)
    have haccent : Respells "08:00 fermé".toList "08:00 ferme\u0301".toList :=
      .decompose 'é' "08:00 ferm".toList []
    have hplain : Respells "08:00 ferme\u0301".toList "08:00 ferme".toList :=
      .unmark "08:00 ferme".toList [] (by decide)
    exact .trans _ _ _ (.rel _ _ hcapital) (.trans _ _ _ (.rel _ _ hsmall)
      (.trans _ _ _ (.rel _ _ haccent) (.rel _ _ hplain)))
  obtain ⟨hrun, hsame⟩ := isClosedMarked_wholeWord "08:00 FermÉ".toList
  have hclosed : isClosedMarked "08:00 FermÉ".toList = true := by decide
  exact ⟨hclosed, (hsame _ hrespells).trans hclosed⟩

end Schedule

end OpeningHours
