import OpeningHours.Text

/-!
# OpeningHours — what cutting a text keeps

Cutting a text into lines, or a line at its colon, neither adds nor reorders characters. Lines that
can be told apart again (`PlainLine`: not empty, no line feed and no carriage return) are exactly
recovered from the text that joins them by line feeds.

## Results

* `trim_eq_nil_iff`   — trimming leaves nothing of a blank text, and only of that.
* `trim_append_of_blank` — blanks at both ends of a text are trimmed away.
* `mem_of_mem_lines`  — the characters of a line are characters of the text.
* `lines_join`        — joining plain lines and cutting them again gives them back.
* `splitOnce_eq_some` — a cut text is the two parts around a first separator.
-/

namespace OpeningHours.Text

-- ---------------------------------------------------------------------------
-- Trimming
-- ---------------------------------------------------------------------------

/-- Trimming leaves a text without blanks as it is. -/
theorem trim_eq_self {cs : List Char} (h : ∀ c ∈ cs, isBlank c = false) : trim cs = cs := by
  have hdrop : ∀ ds : List Char, (∀ c ∈ ds, isBlank c = false) → ds.dropWhile isBlank = ds := by
    intro ds hds
    cases ds with
    | nil => rfl
    | cons d ds => rw [List.dropWhile_cons, hds d (List.mem_cons_self ..), if_neg (by simp)]
  have hrev : ∀ c ∈ cs.reverse, isBlank c = false := fun c hc => h c (List.mem_reverse.mp hc)
  rw [trim, trimStart, hdrop cs h, trimEnd, hdrop _ hrev, List.reverse_reverse]

/-- A blank in front of a text is trimmed away. -/
theorem trim_cons_of_blank {c : Char} (h : isBlank c = true) (cs : List Char) :
    trim (c :: cs) = trim cs := by
  rw [trim, trimStart, List.dropWhile_cons, if_pos h, ← trimStart, ← trim]

/-- Cutting at the end leaves a blank text empty, and only that. -/
theorem trimEnd_eq_nil_iff {cs : List Char} : trimEnd cs = [] ↔ ∀ c ∈ cs, isBlank c = true := by
  have h : trimStart cs.reverse = [] ↔ ∀ c ∈ cs.reverse, isBlank c = true := trimStart_eq_nil_iff
  simp only [List.mem_reverse] at h
  rw [← h, trimEnd, List.reverse_eq_nil_iff, trimStart]

/-- Trimming leaves nothing of a blank text, and only of that. -/
theorem trim_eq_nil_iff {cs : List Char} : trim cs = [] ↔ ∀ c ∈ cs, isBlank c = true := by
  rw [trim, trimEnd_eq_nil_iff]
  constructor
  · intro h c hc
    -- what is cut off at the start is blank, and so is the rest
    rw [← List.takeWhile_append_dropWhile (p := isBlank) (l := cs)] at hc
    rcases List.mem_append.mp hc with hc | hc
    · exact (List.all_eq_true.mp List.all_takeWhile) c hc
    · exact h c hc
  · intro h c hc
    exact h c ((List.dropWhile_suffix isBlank).subset hc)

/-- Every character of the text is white space. -/
def AllBlank (cs : List Char) : Prop :=
  ∀ c ∈ cs, isBlank c = true

/-- Blanks in front are cut away. -/
theorem trimStart_append_of_blank {front : List Char} (h : AllBlank front) (cs : List Char) :
    trimStart (front ++ cs) = trimStart cs := by
  rw [trimStart, List.dropWhile_append_of_pos h, ← trimStart]

/-- What is cut off at the start ends at a character that is not blank. -/
theorem trimStart_append_cons {c : Char} (h : isBlank c = false) (before after : List Char) :
    trimStart (before ++ c :: after) = trimStart before ++ c :: after := by
  induction before with
  | nil => simp [trimStart, h]
  | cons d before ih =>
    rw [trimStart] at ih
    rw [List.cons_append, trimStart, trimStart, List.dropWhile_cons, List.dropWhile_cons]
    split
    · exact ih
    · rfl

/-- Blanks at the end are cut away. -/
theorem trimEnd_append_of_blank {back : List Char} (h : AllBlank back) (cs : List Char) :
    trimEnd (cs ++ back) = trimEnd cs := by
  have hrev : ∀ c ∈ back.reverse, isBlank c = true := fun c hc => h c (List.mem_reverse.mp hc)
  rw [trimEnd, List.reverse_append, List.dropWhile_append_of_pos hrev, ← trimEnd]

/-- Cutting at the end stops at a character that is not blank. -/
theorem trimEnd_append_cons {c : Char} (h : isBlank c = false) (before after : List Char) :
    trimEnd (before ++ c :: after) = before ++ c :: trimEnd after := by
  have hrev := trimStart_append_cons h after.reverse before.reverse
  rw [trimStart] at hrev
  rw [trimEnd, trimEnd, List.reverse_append, List.reverse_cons, List.append_assoc,
    List.singleton_append, hrev]
  simp [trimStart]

/-- What is cut off at the end is blank. -/
theorem exists_blank_end (cs : List Char) : ∃ back, AllBlank back ∧ cs = trimEnd cs ++ back := by
  refine ⟨(cs.reverse.takeWhile isBlank).reverse, ?_, ?_⟩
  · intro c hc
    exact List.all_eq_true.mp List.all_takeWhile c (List.mem_reverse.mp hc)
  · rw [trimEnd, ← List.reverse_append, List.takeWhile_append_dropWhile, List.reverse_reverse]

/-- Trimming cuts off nothing but blanks. -/
theorem exists_blank_edges (cs : List Char) :
    ∃ front back, AllBlank front ∧ AllBlank back ∧ cs = front ++ trim cs ++ back := by
  obtain ⟨back, hback, hcs⟩ := exists_blank_end (trimStart cs)
  refine ⟨cs.takeWhile isBlank, back, List.all_eq_true.mp List.all_takeWhile, hback, ?_⟩
  rw [List.append_assoc, trim, ← hcs, trimStart, List.takeWhile_append_dropWhile]

/-- The characters of a trimmed text are characters of the text. -/
theorem mem_of_mem_trim {cs : List Char} {c : Char} (h : c ∈ trim cs) : c ∈ cs := by
  obtain ⟨front, back, -, -, hcs⟩ := exists_blank_edges cs
  rw [hcs]
  exact List.mem_append_left _ (List.mem_append_right _ h)

/-- Blanks at both ends of a text are trimmed away. -/
theorem trim_append_of_blank {front back : List Char} (hfront : AllBlank front)
    (hback : AllBlank back) (cs : List Char) : trim (front ++ cs ++ back) = trim cs := by
  rw [List.append_assoc, trim, trimStart_append_of_blank hfront]
  by_cases hcs : ∃ c ∈ cs, isBlank c = false
  · -- a character that is not blank keeps the two ends apart
    obtain ⟨c, hc, hnot⟩ := hcs
    obtain ⟨before, after, rfl⟩ := List.append_of_mem hc
    have hstart := trimStart_append_cons hnot before (after ++ back)
    rw [List.append_assoc, List.cons_append, hstart, trim, trimStart_append_cons hnot,
      ← List.cons_append, ← List.append_assoc, trimEnd_append_of_blank hback]
  · -- a blank text leaves nothing, with or without further blanks
    have hblank : AllBlank cs := by simpa [AllBlank] using hcs
    have hall : AllBlank (cs ++ back) := List.forall_mem_append.mpr ⟨hblank, hback⟩
    rw [trim_eq_nil_iff.mpr hblank, trimStart_eq_nil_iff.mpr hall]
    rfl

/-- Cutting twice in front is cutting once. -/
theorem trim_trimStart (cs : List Char) : trim (trimStart cs) = trim cs := by
  have hfront : AllBlank (cs.takeWhile isBlank) := List.all_eq_true.mp List.all_takeWhile
  have hedges := trim_append_of_blank hfront (List.forall_mem_nil _) (trimStart cs)
  rw [List.append_nil, trimStart, List.takeWhile_append_dropWhile] at hedges
  exact hedges.symm

/-- Cutting twice at the end is cutting once. -/
theorem trim_trimEnd (cs : List Char) : trim (trimEnd cs) = trim cs := by
  obtain ⟨back, hback, hcs⟩ := exists_blank_end cs
  have hedges := trim_append_of_blank (List.forall_mem_nil _) hback (trimEnd cs)
  rw [List.nil_append, ← hcs] at hedges
  exact hedges.symm

-- ---------------------------------------------------------------------------
-- Pieces and lines
-- ---------------------------------------------------------------------------

/-- The characters of a piece are characters of the text. -/
theorem mem_of_mem_pieces {sep : Char} {cs p : List Char} (hp : p ∈ pieces sep cs) {c : Char}
    (hc : c ∈ p) : c ∈ cs := by
  induction cs generalizing p with
  | nil =>
    rw [pieces, List.mem_singleton] at hp
    rw [hp] at hc
    exact hc
  | cons d cs ih =>
    rw [pieces] at hp
    split at hp
    · rcases List.mem_cons.mp hp with rfl | hp
      · simp at hc
      · exact List.mem_cons_of_mem _ (ih hp hc)
    · split at hp
      · rename_i hnil
        exact absurd hnil (pieces_ne_nil sep cs)
      · rename_i q qs heq
        -- the character was put in front of the first piece of the rest
        rcases List.mem_cons.mp hp with rfl | hp
        · rcases List.mem_cons.mp hc with rfl | hc
          · exact List.mem_cons_self ..
          · exact List.mem_cons_of_mem _ (ih (heq ▸ List.mem_cons_self ..) hc)
        · exact List.mem_cons_of_mem _ (ih (heq ▸ List.mem_cons_of_mem _ hp) hc)

/-- No piece holds a separator. -/
theorem separator_not_mem_of_mem_pieces {sep : Char} {cs p : List Char} (hp : p ∈ pieces sep cs) :
    sep ∉ p := by
  induction cs generalizing p with
  | nil =>
    rw [pieces, List.mem_singleton] at hp
    simp [hp]
  | cons d cs ih =>
    rw [pieces] at hp
    split at hp
    · rcases List.mem_cons.mp hp with rfl | hp
      · simp
      · exact ih hp
    · rename_i hd
      split at hp
      · rename_i hnil
        exact absurd hnil (pieces_ne_nil sep cs)
      · rename_i q qs heq
        rcases List.mem_cons.mp hp with rfl | hp
        · rw [List.mem_cons, not_or]
          exact ⟨fun h => hd h.symm, ih (heq ▸ List.mem_cons_self ..)⟩
        · exact ih (heq ▸ List.mem_cons_of_mem _ hp)

/-- Dropping a carriage return leaves the front of the text. -/
theorem dropReturn_prefix (cs : List Char) : dropReturn cs <+: cs := by
  unfold dropReturn
  split
  · exact List.dropLast_prefix cs
  · exact List.prefix_refl cs

/-- Every line is the front of a piece. -/
theorem exists_piece_of_mem_linesOfPieces {ps : List (List Char)} {l : List Char}
    (h : l ∈ linesOfPieces ps) : ∃ p ∈ ps, l <+: p := by
  induction ps with
  | nil => simp [linesOfPieces] at h
  | cons p ps ih =>
    cases ps with
    | nil =>
      rw [linesOfPieces] at h
      split at h
      · simp at h
      · rw [List.mem_singleton] at h
        exact ⟨p, List.mem_cons_self .., h ▸ List.prefix_refl _⟩
    | cons q qs =>
      rw [linesOfPieces] at h
      · rcases List.mem_cons.mp h with rfl | h
        · exact ⟨p, List.mem_cons_self .., dropReturn_prefix p⟩
        · obtain ⟨r, hr, hpre⟩ := ih h
          exact ⟨r, List.mem_cons_of_mem _ hr, hpre⟩
      · simp

/-- The characters of a line are characters of the text. -/
theorem mem_of_mem_lines {cs l : List Char} (hl : l ∈ lines cs) {c : Char} (hc : c ∈ l) :
    c ∈ cs := by
  obtain ⟨p, hp, hpre⟩ := exists_piece_of_mem_linesOfPieces hl
  exact mem_of_mem_pieces hp (hpre.subset hc)

/-- No line holds a line feed. -/
theorem feed_not_mem_of_mem_lines {cs l : List Char} (hl : l ∈ lines cs) : '\n' ∉ l := by
  obtain ⟨p, hp, hpre⟩ := exists_piece_of_mem_linesOfPieces hl
  exact fun hmem => separator_not_mem_of_mem_pieces hp (hpre.subset hmem)

-- ---------------------------------------------------------------------------
-- Joining
-- ---------------------------------------------------------------------------

/-- A text without a separator is one piece. -/
theorem pieces_of_not_mem {sep : Char} {cs : List Char} (h : sep ∉ cs) : pieces sep cs = [cs] := by
  induction cs with
  | nil => rfl
  | cons c cs ih =>
    have hc : c ≠ sep := fun heq => h (heq ▸ List.mem_cons_self ..)
    have hcs : sep ∉ cs := fun hmem => h (List.mem_cons_of_mem _ hmem)
    rw [pieces, if_neg hc, ih hcs]

/-- The pieces on both sides of a separator. -/
theorem pieces_append_cons (sep : Char) (front back : List Char) :
    pieces sep (front ++ sep :: back) = pieces sep front ++ pieces sep back := by
  induction front with
  | nil => simp [pieces]
  | cons c front ih =>
    rw [List.cons_append, pieces, pieces, ih]
    split
    · rfl
    · cases hfront : pieces sep front with
      | nil => exact absurd hfront (pieces_ne_nil sep front)
      | cons p ps => rfl

/-- The first piece ends at the first separator. -/
theorem pieces_append {sep : Char} {p : List Char} (h : sep ∉ p) (rest : List Char) :
    pieces sep (p ++ sep :: rest) = p :: pieces sep rest := by
  rw [pieces_append_cons, pieces_of_not_mem h]
  rfl

/-- There is one piece more than there are separators. -/
theorem length_pieces (sep : Char) (cs : List Char) :
    (pieces sep cs).length = cs.count sep + 1 := by
  induction cs with
  | nil => rfl
  | cons c cs ih =>
    rw [pieces, List.count_cons]
    split
    · rename_i heq
      simp [ih, heq]
    · rename_i hne
      split
      · rename_i hnil
        exact absurd hnil (pieces_ne_nil sep cs)
      · rename_i p ps hpieces
        rw [hpieces] at ih
        simpa [hne] using ih

theorem join_cons_cons (sep p q : List Char) (ps : List (List Char)) :
    join sep (p :: q :: ps) = p ++ sep ++ join sep (q :: ps) := rfl

/-- The characters of joined texts are those of the texts and of the separator. -/
theorem mem_of_mem_join {sep : List Char} {ps : List (List Char)} {c : Char}
    (h : c ∈ join sep ps) : c ∈ sep ∨ ∃ p ∈ ps, c ∈ p := by
  induction ps with
  | nil => simp [join] at h
  | cons p ps ih =>
    cases ps with
    | nil => exact .inr ⟨p, List.mem_cons_self .., h⟩
    | cons q qs =>
      rw [join_cons_cons, List.append_assoc] at h
      rcases List.mem_append.mp h with h | h
      · exact .inr ⟨p, List.mem_cons_self .., h⟩
      · rcases List.mem_append.mp h with h | h
        · exact .inl h
        · rcases ih h with h | ⟨r, hr, hc⟩
          · exact .inl h
          · exact .inr ⟨r, List.mem_cons_of_mem _ hr, hc⟩

/-- The characters of a text are among those of the joined texts. -/
theorem mem_join_of_mem {sep p : List Char} {ps : List (List Char)} (hp : p ∈ ps) {c : Char}
    (hc : c ∈ p) : c ∈ join sep ps := by
  induction ps with
  | nil => simp at hp
  | cons q ps ih =>
    cases ps with
    | nil =>
      obtain rfl := List.mem_singleton.mp hp
      exact hc
    | cons r rs =>
      rw [join_cons_cons, List.append_assoc, List.mem_append, List.mem_append]
      rcases List.mem_cons.mp hp with rfl | hp
      · exact .inl hc
      · exact .inr (.inr (ih hp))

/-- Joining pieces and cutting them again gives them back. -/
theorem pieces_join {sep : Char} {ps : List (List Char)} (hne : ps ≠ [])
    (h : ∀ p ∈ ps, sep ∉ p) : pieces sep (join [sep] ps) = ps := by
  induction ps with
  | nil => exact absurd rfl hne
  | cons p ps ih =>
    have hp := h p (List.mem_cons_self ..)
    cases ps with
    | nil => exact pieces_of_not_mem hp
    | cons q qs =>
      have hrest := ih (by simp) fun x hx => h x (List.mem_cons_of_mem _ hx)
      rw [join_cons_cons, List.append_assoc, List.singleton_append, pieces_append hp, hrest]

/-- A line that can be told from its neighbours when lines are joined. -/
structure PlainLine (cs : List Char) : Prop where
  ne_nil : cs ≠ []
  no_feed : '\n' ∉ cs
  no_return : '\r' ∉ cs

theorem dropReturn_of_not_mem {cs : List Char} (h : '\r' ∉ cs) : dropReturn cs = cs := by
  rw [dropReturn, if_neg]
  intro hlast
  exact h (List.mem_of_getLast? hlast)

/-- Plain lines are not changed. -/
theorem linesOfPieces_eq_self {ps : List (List Char)} (h : ∀ p ∈ ps, PlainLine p) :
    linesOfPieces ps = ps := by
  induction ps with
  | nil => rfl
  | cons p ps ih =>
    have hp := h p (List.mem_cons_self ..)
    cases ps with
    | nil =>
      -- behind the last line feed only an empty piece is no line
      have hne : p.isEmpty = false := by simpa using hp.ne_nil
      simp [linesOfPieces, hne]
    | cons q qs =>
      have hrest := ih fun x hx => h x (List.mem_cons_of_mem _ hx)
      rw [linesOfPieces, hrest, dropReturn_of_not_mem hp.no_return]
      simp

/-- Joining plain lines and cutting them again gives them back. -/
theorem lines_join {ls : List (List Char)} (h : ∀ l ∈ ls, PlainLine l) :
    lines (join ['\n'] ls) = ls := by
  cases ls with
  | nil => rfl
  | cons l rest =>
    rw [lines, pieces_join (by simp) fun p hp => (h p hp).no_feed, linesOfPieces_eq_self h]

-- ---------------------------------------------------------------------------
-- Cutting once
-- ---------------------------------------------------------------------------

/-- A cut text is the two parts around a first separator. -/
theorem splitOnce_eq_some {sep : Char} {cs before after : List Char}
    (h : splitOnce sep cs = some (before, after)) :
    cs = before ++ sep :: after ∧ sep ∉ before := by
  induction cs generalizing before with
  | nil => simp [splitOnce] at h
  | cons c cs ih =>
    rw [splitOnce] at h
    split at h
    · rename_i heq
      simp only [Option.some.injEq, Prod.mk.injEq] at h
      obtain ⟨rfl, rfl⟩ := h
      exact ⟨by rw [heq, List.nil_append], by simp⟩
    · rename_i hne
      obtain ⟨⟨front, back⟩, hcut, hparts⟩ := Option.map_eq_some_iff.mp h
      simp only [Prod.mk.injEq] at hparts
      obtain ⟨rfl, rfl⟩ := hparts
      obtain ⟨hcs, hnot⟩ := ih hcut
      refine ⟨by rw [hcs, List.cons_append], ?_⟩
      rw [List.mem_cons, not_or]
      exact ⟨fun heq => hne heq.symm, hnot⟩

/-- A text is not cut exactly when it has no separator. -/
theorem splitOnce_eq_none_iff {sep : Char} {cs : List Char} :
    splitOnce sep cs = none ↔ sep ∉ cs := by
  induction cs with
  | nil => simp [splitOnce]
  | cons c cs ih =>
    rw [splitOnce, List.mem_cons, not_or]
    split
    · rename_i heq
      simp [heq]
    · rename_i hne
      rw [Option.map_eq_none_iff, ih]
      exact ⟨fun h => ⟨fun heq => hne heq.symm, h⟩, And.right⟩

/-- Trimming a text that is cut at its separator trims the outer ends of its two parts. -/
theorem trim_of_splitOnce {sep : Char} (hsep : isBlank sep = false) {cs before after : List Char}
    (h : splitOnce sep cs = some (before, after)) :
    trim cs = trimStart before ++ sep :: trimEnd after := by
  rw [(splitOnce_eq_some h).1, trim, trimStart_append_cons hsep, trimEnd_append_cons hsep]

/-- Cutting blanks at the ends of a text cuts them at the outer ends of its two parts. -/
theorem splitOnce_trim {sep : Char} (hsep : isBlank sep = false) {cs before after : List Char}
    (h : splitOnce sep cs = some (before, after)) :
    splitOnce sep (trim cs) = some (trimStart before, trimEnd after) := by
  have hnot : sep ∉ trimStart before := fun hmem =>
    (splitOnce_eq_some h).2 ((List.dropWhile_suffix isBlank).subset hmem)
  rw [trim_of_splitOnce hsep h, splitOnce_append _ hnot]

end OpeningHours.Text
