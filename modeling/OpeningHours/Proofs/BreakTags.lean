import OpeningHours.Proofs.Lines
import OpeningHours.Schedule.Notation
import OpeningHours.Schedule.Week

/-!
# OpeningHours — line breaks as providers write them

A break tag is `<br` in any case, blanks, perhaps a slash, and `>`. The blanks may hold line breaks,
and these are unified before the tags are read, in a pass of their own. Unified blanks are blanks,
and a tag ends with a bracket, so reading a tag and unifying commute. The two passes act as one pass
over the text that the provider wrote: at each place it writes a line feed for the break that stands
there, or keeps the character.

Parts of a text that hold no character of a break, and are not empty, are kept apart by breaks of
any kind, so unifying joins them by line feeds.

* `IsBreakTag`, `IsBreak` — what counts as a tag and as a break.
* `IsPart`                — what may stand between two breaks.

## Results

* `readBreakTag_eq_some_iff`     — the reader of a tag takes what the grammar writes.
* `readBreakTag_unifyReturns`    — reading a tag and unifying carriage returns commute.
* `unifyBreaks_tag`, `unifyBreaks_cons` and others — the steps of the one pass.
* `unifyBreaks_interleaved`      — the choice of breaks does not matter.
-/

namespace OpeningHours.Schedule

open Text

-- ---------------------------------------------------------------------------
-- The grammar
-- ---------------------------------------------------------------------------

/-- The characters write the brackets of a break tag around a gap. -/
inductive WritesTag (gap : List Char) : List Char → Prop where
  | mk {b r : Char} {slash : List Char} (hb : b.toLower = 'b') (hr : r.toLower = 'r')
      (hslash : slash = [] ∨ slash = ['/']) :
      WritesTag gap ('<' :: b :: r :: (gap ++ (slash ++ ['>'])))

/-- The characters are a break tag: the gap is blank. -/
def IsBreakTag (tag : List Char) : Prop :=
  ∃ gap, AllBlank gap ∧ WritesTag gap tag

/-- The characters are a line break of some kind. -/
inductive IsBreak : List Char → Prop where
  | feed : IsBreak ['\n']
  | returnFeed : IsBreak ['\r', '\n']
  | carriageReturn : IsBreak ['\r']
  | tag {tag : List Char} (h : IsBreakTag tag) : IsBreak tag

/-- The characters may stand between two breaks: there are some, and none belongs to a break. -/
structure IsPart (part : List Char) : Prop where
  ne_nil : part ≠ []
  plain : ∀ c ∈ part, c ≠ '\r' ∧ c ≠ '\n' ∧ c ≠ '<'

theorem WritesTag.exists_tail {gap tag : List Char} (h : WritesTag gap tag) :
    ∃ tail, tag = '<' :: tail := by
  cases h
  exact ⟨_, rfl⟩

/-- A letter of a tag belongs to no break in another place. -/
theorem plain_of_letter {c : Char} (h : c.toLower = 'b' ∨ c.toLower = 'r') :
    c ≠ '\r' ∧ c ≠ '\n' ∧ c ≠ '<' := by
  refine ⟨?_, ?_, ?_⟩ <;> (rintro rfl; exact absurd h (by decide))

/-- A bracket opens a tag and nothing else in it. -/
theorem IsBreakTag.open_not_mem {tail : List Char} (h : IsBreakTag ('<' :: tail)) :
    '<' ∉ tail := by
  obtain ⟨gap, hgap, htag⟩ := h
  cases htag with
  | @mk b r slash hb hr hslash =>
    have hb' : '<' ≠ b := (plain_of_letter (.inl hb)).2.2.symm
    have hr' : '<' ≠ r := (plain_of_letter (.inr hr)).2.2.symm
    have hgap' : '<' ∉ gap := fun hmem => absurd (hgap _ hmem) (by decide)
    have hend : '<' ∉ slash ++ ['>'] := by
      rcases hslash with rfl | rfl <;> decide
    simp only [List.mem_cons, List.mem_append, not_or]
    exact ⟨hb', hr', hgap', by simpa using hend⟩

-- ---------------------------------------------------------------------------
-- Reading a tag
-- ---------------------------------------------------------------------------

/-- A tag is closed by a bracket with a slash before it or none. -/
theorem closeTag_eq_some_iff {cs rest : List Char} :
    closeTag cs = some rest ↔
      ∃ slash, (slash = [] ∨ slash = ['/']) ∧ cs = slash ++ '>' :: rest := by
  constructor
  · intro h
    unfold closeTag at h
    split at h
    · rename_i rest'
      obtain rfl : rest' = rest := Option.some.inj h
      exact ⟨['/'], .inr rfl, rfl⟩
    · rename_i rest'
      obtain rfl : rest' = rest := Option.some.inj h
      exact ⟨[], .inl rfl, rfl⟩
    · cases h
  · rintro ⟨slash, rfl | rfl, rfl⟩
    · rfl
    · rfl

/-- What closes a tag is not blank. -/
theorem trimStart_close {gap slash : List Char} (hgap : AllBlank gap)
    (hslash : slash = [] ∨ slash = ['/']) (rest : List Char) :
    trimStart (gap ++ (slash ++ '>' :: rest)) = slash ++ '>' :: rest := by
  rw [trimStart_append_of_blank hgap]
  rcases hslash with rfl | rfl
  · rfl
  · rfl

/-- A break tag is read, and what follows it is left. -/
theorem readBreakTag_of_tag {tag : List Char} (h : IsBreakTag tag) (rest : List Char) :
    readBreakTag (tag ++ rest) = some rest := by
  obtain ⟨gap, hgap, htag⟩ := h
  cases htag with
  | @mk b r slash hb hr hslash =>
    simp only [List.cons_append, List.append_assoc, List.nil_append]
    rw [readBreakTag, if_pos ⟨hb, hr⟩, trimStart_close hgap hslash]
    exact closeTag_eq_some_iff.mpr ⟨slash, hslash, rfl⟩

/-- The reader of a tag takes what the grammar writes. -/
theorem readBreakTag_eq_some_iff {cs rest : List Char} :
    readBreakTag cs = some rest ↔ ∃ tag, IsBreakTag tag ∧ cs = tag ++ rest := by
  constructor
  · intro h
    unfold readBreakTag at h
    split at h
    · rename_i b r behind
      split at h
      · rename_i hletters
        obtain ⟨slash, hslash, hclose⟩ := closeTag_eq_some_iff.mp h
        -- what is passed over in front of the closing bracket is the gap
        have hgap : AllBlank (behind.takeWhile isBlank) := List.all_eq_true.mp List.all_takeWhile
        refine ⟨_, ⟨_, hgap, .mk hletters.1 hletters.2 hslash⟩, ?_⟩
        have hsplit : behind = behind.takeWhile isBlank ++ trimStart behind :=
          List.takeWhile_append_dropWhile.symm
        rw [hclose] at hsplit
        simpa using hsplit
      · cases h
    · cases h
  · rintro ⟨tag, htag, rfl⟩
    exact readBreakTag_of_tag htag rest

theorem readBreakTag_of_ne {c : Char} (h : c ≠ '<') (cs : List Char) :
    readBreakTag (c :: cs) = none := by
  unfold readBreakTag
  split
  · rename_i heq
    exact absurd (List.cons.inj heq).1 h
  · rfl

/-- Where no tag stands, none stands if the text ends earlier. -/
theorem readBreakTag_of_append {cs after : List Char} (h : readBreakTag (cs ++ after) = none) :
    readBreakTag cs = none := by
  cases hread : readBreakTag cs with
  | none => rfl
  | some rest =>
    obtain ⟨tag, htag, rfl⟩ := readBreakTag_eq_some_iff.mp hread
    rw [List.append_assoc, readBreakTag_of_tag htag] at h
    cases h

/-- Where no tag stands, none stands if another bracket is opened behind the text. -/
theorem readBreakTag_append_open {c : Char} {cs : List Char} (h : readBreakTag (c :: cs) = none)
    (after : List Char) : readBreakTag (c :: cs ++ '<' :: after) = none := by
  cases hread : readBreakTag (c :: cs ++ '<' :: after) with
  | none => rfl
  | some rest =>
    obtain ⟨tag, htag, heq⟩ := readBreakTag_eq_some_iff.mp hread
    rcases List.append_eq_append_iff.mp heq with ⟨more, rfl, hmore⟩ | ⟨more, hmore, -⟩
    · cases more with
      | nil =>
        rw [List.append_nil] at htag
        have hwhole := readBreakTag_of_tag htag []
        rw [List.append_nil, h] at hwhole
        cases hwhole
      | cons d more =>
        -- the tag would go on at the second opening bracket
        obtain ⟨rfl, -⟩ := List.cons.inj hmore
        obtain ⟨_, -, hwrites⟩ := id htag
        obtain ⟨tail, htail⟩ := hwrites.exists_tail
        obtain ⟨rfl, rfl⟩ := List.cons.inj htail
        exact absurd (List.mem_append_right _ (List.mem_cons_self ..)) htag.open_not_mem
    · rw [hmore, readBreakTag_of_tag htag] at h
      cases h

-- ---------------------------------------------------------------------------
-- Carriage returns
-- ---------------------------------------------------------------------------

theorem unifyReturns_cons {c : Char} (h : c ≠ '\r') (cs : List Char) :
    unifyReturns (c :: cs) = c :: unifyReturns cs := by
  rw [unifyReturns, if_neg h]
  intro rest hc
  exact absurd hc h

/-- A carriage return by itself becomes a line feed. -/
theorem unifyReturns_return {cs : List Char} (h : cs.head? ≠ some '\n') :
    unifyReturns ('\r' :: cs) = '\n' :: unifyReturns cs := by
  rw [unifyReturns, if_pos rfl]
  rintro rest - rfl
  exact h rfl

/-- Blanks at the front are unified to blanks. -/
theorem trimStart_unifyReturns (cs : List Char) :
    trimStart (unifyReturns cs) = unifyReturns (trimStart cs) := by
  have hdrop : ∀ {c : Char}, isBlank c = true → ∀ ds : List Char,
      trimStart (c :: ds) = trimStart ds := by
    intro c hc ds
    rw [trimStart, List.dropWhile_cons, if_pos hc, ← trimStart]
  have hreturn : isBlank '\r' = true := by decide
  have hfeed : isBlank '\n' = true := by decide
  fun_induction unifyReturns cs with
  | case1 => rfl
  | case2 rest ih => rw [hdrop hfeed, ih, hdrop hreturn, hdrop hfeed]
  | case3 c rest hpair ih =>
    by_cases hc : c = '\r'
    · subst hc
      rw [if_pos rfl, hdrop hfeed, ih, hdrop hreturn]
    · rw [if_neg hc]
      cases hblank : isBlank c with
      | true => rw [hdrop hblank, ih, hdrop hblank]
      | false =>
        have hstay : ∀ ds : List Char, trimStart (c :: ds) = c :: ds := by
          intro ds
          rw [trimStart, List.dropWhile_cons, if_neg (by simp [hblank])]
        rw [hstay, hstay, unifyReturns_cons hc]

/-- A character that is kept stood there before. -/
theorem exists_of_unifyReturns_eq_cons {c : Char} {cs out : List Char} (hc : c ≠ '\n')
    (h : unifyReturns cs = c :: out) : ∃ rest, cs = c :: rest ∧ unifyReturns rest = out := by
  unfold unifyReturns at h
  split at h
  · cases h
  · exact absurd (List.cons.inj h).1.symm hc
  · rename_i d rest _
    obtain ⟨hhead, hrest⟩ := List.cons.inj h
    by_cases hd : d = '\r'
    · rw [if_pos hd] at hhead
      exact absurd hhead.symm hc
    · rw [if_neg hd] at hhead
      exact ⟨rest, by rw [hhead], hrest⟩

/-- The end of a tag is the end of one before carriage returns are replaced. -/
theorem unifyReturns_eq_close_iff {cs slash out : List Char}
    (hslash : slash = [] ∨ slash = ['/']) :
    unifyReturns cs = slash ++ '>' :: out ↔
      ∃ rest, cs = slash ++ '>' :: rest ∧ unifyReturns rest = out := by
  have hclose : '>' ≠ '\r' := by decide
  constructor
  · intro h
    rcases hslash with rfl | rfl
    · exact exists_of_unifyReturns_eq_cons (by decide) h
    · obtain ⟨behind, rfl, hbehind⟩ := exists_of_unifyReturns_eq_cons (by decide) h
      obtain ⟨rest, rfl, hrest⟩ := exists_of_unifyReturns_eq_cons (by decide) hbehind
      exact ⟨rest, rfl, hrest⟩
  · rintro ⟨rest, rfl, rfl⟩
    rcases hslash with rfl | rfl
    · exact unifyReturns_cons hclose rest
    · show unifyReturns ('/' :: '>' :: rest) = _
      rw [unifyReturns_cons (by decide), unifyReturns_cons hclose]
      rfl

/-- Replacing carriage returns does not touch the end of a tag. -/
theorem closeTag_unifyReturns (cs : List Char) :
    closeTag (unifyReturns cs) = (closeTag cs).map unifyReturns := by
  refine Option.ext fun out => ?_
  simp only [Option.map_eq_some_iff, closeTag_eq_some_iff]
  constructor
  · rintro ⟨slash, hslash, heq⟩
    obtain ⟨rest, hcs, hrest⟩ := (unifyReturns_eq_close_iff hslash).mp heq
    exact ⟨rest, ⟨slash, hslash, hcs⟩, hrest⟩
  · rintro ⟨rest, ⟨slash, hslash, hcs⟩, hrest⟩
    exact ⟨slash, hslash, (unifyReturns_eq_close_iff hslash).mpr ⟨rest, hcs, hrest⟩⟩

/-- Reading a tag and unifying carriage returns commute. -/
theorem readBreakTag_unifyReturns (cs : List Char) :
    readBreakTag (unifyReturns cs) = (readBreakTag cs).map unifyReturns := by
  by_cases hopens : ∃ b r behind, cs = '<' :: b :: r :: behind ∧ b.toLower = 'b' ∧ r.toLower = 'r'
  · obtain ⟨b, r, behind, rfl, hb, hr⟩ := hopens
    have hopen : '<' ≠ '\r' := by decide
    rw [unifyReturns_cons hopen, unifyReturns_cons (plain_of_letter (.inl hb)).1,
      unifyReturns_cons (plain_of_letter (.inr hr)).1, readBreakTag, readBreakTag, if_pos ⟨hb, hr⟩,
      if_pos ⟨hb, hr⟩, trimStart_unifyReturns, closeTag_unifyReturns]
  · have hnone : readBreakTag cs = none := by
      cases hread : readBreakTag cs with
      | none => rfl
      | some rest =>
        obtain ⟨_, ⟨gap, -, ⟨hb, hr, -⟩⟩, rfl⟩ := readBreakTag_eq_some_iff.mp hread
        exact absurd ⟨_, _, _, rfl, hb, hr⟩ hopens
    rw [hnone]
    cases hread : readBreakTag (unifyReturns cs) with
    | none => rfl
    | some out =>
      -- the letters of a tag that is read stood there before
      obtain ⟨_, ⟨gap, -, ⟨hb, hr, -⟩⟩, heq⟩ := readBreakTag_eq_some_iff.mp hread
      obtain ⟨cs₁, rfl, h₁⟩ := exists_of_unifyReturns_eq_cons (by decide) heq
      obtain ⟨cs₂, rfl, h₂⟩ := exists_of_unifyReturns_eq_cons (plain_of_letter (.inl hb)).2.1 h₁
      obtain ⟨cs₃, rfl, h₃⟩ := exists_of_unifyReturns_eq_cons (plain_of_letter (.inr hr)).2.1 h₂
      exact absurd ⟨_, _, _, rfl, hb, hr⟩ hopens

-- ---------------------------------------------------------------------------
-- One pass
-- ---------------------------------------------------------------------------

/-- Characters that belong to a tag are passed over. -/
theorem unifyTagsFrom_skip (skip : Nat) (cs : List Char) :
    unifyTagsFrom skip cs = unifyTagsFrom 0 (cs.drop skip) := by
  induction cs generalizing skip with
  | nil => cases skip <;> rfl
  | cons c cs ih =>
    cases skip with
    | zero => rfl
    | succ skip => exact ih skip

/-- A character that starts no tag stays. -/
theorem unifyTagsFrom_of_none {c : Char} {cs : List Char} (h : readBreakTag (c :: cs) = none) :
    unifyTagsFrom 0 (c :: cs) = c :: unifyTagsFrom 0 cs := by
  rw [unifyTagsFrom, h]

/-- A tag becomes a line feed. -/
theorem unifyTagsFrom_tag {tag : List Char} (h : IsBreakTag tag) (cs : List Char) :
    unifyTagsFrom 0 (tag ++ cs) = '\n' :: unifyTagsFrom 0 cs := by
  have hread := readBreakTag_of_tag h cs
  obtain ⟨_, -, hwrites⟩ := id h
  obtain ⟨tail, rfl⟩ := hwrites.exists_tail
  rw [List.cons_append] at hread ⊢
  have hlen : (tail ++ cs).length - cs.length = tail.length := by
    rw [List.length_append]
    omega
  rw [unifyTagsFrom, hread]
  show '\n' :: unifyTagsFrom ((tail ++ cs).length - cs.length) (tail ++ cs) = _
  rw [unifyTagsFrom_skip, hlen, List.drop_left]

theorem unifyBreaks_nil : unifyBreaks [] = [] := rfl

/-- A carriage return and a line feed become one line feed. -/
theorem unifyBreaks_returnFeed (cs : List Char) :
    unifyBreaks ('\r' :: '\n' :: cs) = '\n' :: unifyBreaks cs :=
  unifyTagsFrom_of_none (readBreakTag_of_ne (by decide) _)

/-- A carriage return without a line feed behind it becomes one. -/
theorem unifyBreaks_return {cs : List Char} (h : cs.head? ≠ some '\n') :
    unifyBreaks ('\r' :: cs) = '\n' :: unifyBreaks cs := by
  rw [unifyBreaks, unifyReturns_return h]
  exact unifyTagsFrom_of_none (readBreakTag_of_ne (by decide) _)

/-- A tag is one break, whatever breaks its blanks hold. -/
theorem unifyBreaks_tag {tag : List Char} (h : IsBreakTag tag) (cs : List Char) :
    unifyBreaks (tag ++ cs) = '\n' :: unifyBreaks cs := by
  have hread := readBreakTag_unifyReturns (tag ++ cs)
  rw [readBreakTag_of_tag h, Option.map_some] at hread
  obtain ⟨tag', htag', heq⟩ := readBreakTag_eq_some_iff.mp hread
  rw [unifyBreaks, heq, unifyTagsFrom_tag htag', unifyBreaks]

/-- Where no break stands the character is kept. -/
theorem unifyBreaks_cons {c : Char} {cs : List Char} (hc : c ≠ '\r')
    (h : readBreakTag (c :: cs) = none) : unifyBreaks (c :: cs) = c :: unifyBreaks cs := by
  have hread := readBreakTag_unifyReturns (c :: cs)
  rw [h, Option.map_none, unifyReturns_cons hc] at hread
  rw [unifyBreaks, unifyReturns_cons hc, unifyTagsFrom_of_none hread, unifyBreaks]

/-- A character that starts no break stays. -/
theorem unifyBreaks_cons_of_ne {c : Char} (hc : c ≠ '\r') (hopen : c ≠ '<') (cs : List Char) :
    unifyBreaks (c :: cs) = c :: unifyBreaks cs :=
  unifyBreaks_cons hc (readBreakTag_of_ne hopen cs)

-- ---------------------------------------------------------------------------
-- Parts between breaks
-- ---------------------------------------------------------------------------

/-- A break of any kind becomes one line feed, if no line feed follows it. -/
theorem unifyBreaks_break {sep : List Char} (h : IsBreak sep) {cs : List Char}
    (hcs : cs.head? ≠ some '\n') : unifyBreaks (sep ++ cs) = '\n' :: unifyBreaks cs := by
  cases h with
  | feed => exact unifyBreaks_cons_of_ne (by decide) (by decide) cs
  | returnFeed => exact unifyBreaks_returnFeed cs
  | carriageReturn => exact unifyBreaks_return hcs
  | tag h => exact unifyBreaks_tag h cs

/-- A part without characters of a break is kept, whatever follows it. -/
theorem unifyBreaks_part {part : List Char} (h : ∀ c ∈ part, c ≠ '\r' ∧ c ≠ '\n' ∧ c ≠ '<')
    (cs : List Char) : unifyBreaks (part ++ cs) = part ++ unifyBreaks cs := by
  induction part with
  | nil => rfl
  | cons c part ih =>
    obtain ⟨hc, hpart⟩ := List.forall_mem_cons.mp h
    rw [List.cons_append, unifyBreaks_cons_of_ne hc.1 hc.2.2, ih hpart, List.cons_append]

/-- A text of parts: the first one, and the others each behind a break. -/
def interleaved (first : List Char) (more : List (List Char × List Char)) : List Char :=
  first ++ more.flatMap fun (sep, part) => sep ++ part

/-- Parts with breaks between them become the parts with line feeds between them. -/
theorem unifyBreaks_interleaved_eq {first : List Char} {more : List (List Char × List Char)}
    (hfirst : IsPart first) (hmore : ∀ p ∈ more, IsBreak p.1 ∧ IsPart p.2) :
    unifyBreaks (interleaved first more) = join ['\n'] (first :: more.map Prod.snd) := by
  induction more generalizing first with
  | nil =>
    have hpart := unifyBreaks_part hfirst.plain []
    simpa [interleaved, unifyBreaks_nil, join] using hpart
  | cons p more ih =>
    obtain ⟨sep, part⟩ := p
    obtain ⟨⟨hsep, hpart⟩, hmore⟩ := List.forall_mem_cons.mp hmore
    have hrest := ih hpart hmore
    -- a part is not empty and starts with no line feed, so no two breaks meet
    have hhead : (interleaved part more).head? ≠ some '\n' := by
      obtain ⟨c, cs, rfl⟩ := List.exists_cons_of_ne_nil hpart.ne_nil
      have hc := (hpart.plain c (List.mem_cons_self ..)).2.1
      simpa [interleaved] using hc
    have hcut : interleaved first ((sep, part) :: more) =
        first ++ (sep ++ interleaved part more) := by
      simp [interleaved]
    rw [hcut, unifyBreaks_part hfirst.plain, unifyBreaks_break hsep hhead, hrest, List.map_cons]
    simp [join]

/-- **The choice of breaks does not matter.** Parts with breaks of any kinds between them are joined
by line feeds. So whatever breaks are chosen, the week that is read, the rows of the table and the
evaluation at every moment are the same. -/
theorem unifyBreaks_interleaved {first : List Char} {more : List (List Char × List Char)}
    (hfirst : IsPart first) (hmore : ∀ p ∈ more, IsBreak p.1 ∧ IsPart p.2) :
    unifyBreaks (interleaved first more) = join ['\n'] (first :: more.map Prod.snd) ∧
    ∀ more' : List (List Char × List Char), (∀ p ∈ more', IsBreak p.1) →
      more'.map Prod.snd = more.map Prod.snd →
      Week.ofText (unifyBreaks (interleaved first more')) =
        Week.ofText (unifyBreaks (interleaved first more)) ∧
      rows (unifyBreaks (interleaved first more')) = rows (unifyBreaks (interleaved first more)) ∧
      ∀ now, (Week.ofText (unifyBreaks (interleaved first more'))).evaluate now =
        (Week.ofText (unifyBreaks (interleaved first more))).evaluate now := by
  refine ⟨unifyBreaks_interleaved_eq hfirst hmore, ?_⟩
  intro more' hbreaks hparts
  have hmore' : ∀ p ∈ more', IsBreak p.1 ∧ IsPart p.2 := by
    intro p hp
    refine ⟨hbreaks p hp, ?_⟩
    have hmem : p.2 ∈ more.map Prod.snd := hparts ▸ List.mem_map_of_mem hp
    obtain ⟨p', hp', heq⟩ := List.mem_map.mp hmem
    exact heq ▸ (hmore p' hp').2
  have hsame : unifyBreaks (interleaved first more') = unifyBreaks (interleaved first more) := by
    rw [unifyBreaks_interleaved_eq hfirst hmore', unifyBreaks_interleaved_eq hfirst hmore, hparts]
  rw [hsame]
  exact ⟨rfl, rfl, fun _ => rfl⟩

/-- Three parts, once with a carriage return and a tag over two lines, and once with line feeds. -/
theorem unifyBreaks_interleaved_mixed :
    let more := [(['\r'], ['M', 'A']), ("<Br \r\n/>".toList, ['M', 'E'])]
    let more' := [(['\n'], ['M', 'A']), (['\n'], ['M', 'E'])]
    unifyBreaks (interleaved ['L', 'U'] more) = "LU\nMA\nME".toList ∧
      rows (unifyBreaks (interleaved ['L', 'U'] more')) =
        rows (unifyBreaks (interleaved ['L', 'U'] more)) := by
  intro more more'
  have hpart : ∀ part ∈ [['L', 'U'], ['M', 'A'], ['M', 'E']], IsPart part := by
    intro part hmem
    simp only [List.mem_cons, List.not_mem_nil, or_false] at hmem
    rcases hmem with rfl | rfl | rfl
    all_goals exact ⟨by simp, by simp⟩
  have htag : IsBreakTag "<Br \r\n/>".toList :=
    ⟨[' ', '\r', '\n'], List.all_eq_true.mp (by decide),
      .mk (b := 'B') (r := 'r') (by decide) (by decide) (.inr rfl)⟩
  have hmore : ∀ p ∈ more, IsBreak p.1 ∧ IsPart p.2 :=
    List.forall_mem_cons.mpr ⟨⟨.carriageReturn, hpart _ (by decide)⟩,
      List.forall_mem_singleton.mpr ⟨.tag htag, hpart _ (by decide)⟩⟩
  have hbreaks : ∀ p ∈ more', IsBreak p.1 :=
    List.forall_mem_cons.mpr ⟨.feed, List.forall_mem_singleton.mpr .feed⟩
  have hfirst : IsPart ['L', 'U'] := hpart _ (by decide)
  obtain ⟨hjoin, hsame⟩ := unifyBreaks_interleaved hfirst hmore
  exact ⟨hjoin.trans (by decide), (hsame more' hbreaks rfl).2.1⟩

end OpeningHours.Schedule
