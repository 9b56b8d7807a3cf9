import OpeningHours.Proofs.JsonGrammar

/-!
# OpeningHours — texts of the JSON grammar are read

The reader takes every text of the grammar and gives the tree that it writes. Its fuel is spent on
levels and items, and each of them has a character of its own, so a unit of fuel for every character
is enough.

A number goes on as long as its characters do, so what comes after a value must not continue one
(`Follows`). Every other value ends by itself.

A tree with one item per line is read back as it is. The layout only adds blanks between the tokens,
so what it takes is that every number and every string of the tree is written by the grammar
(`Tree.Printable`).

## Results

* `readNumber_append`   — a written number is read.
* `readPieces_append`   — a written string is read.
* `reads`               — written values, items and members are read with fuel for their characters.
* `ofText?_of_document` — a whole text is read as the tree that it writes.
* `ofText?_layout`      — the layout of a tree is read as the tree.
-/

namespace OpeningHours.Json

open Decimal (Literal Exponent minus)

-- ---------------------------------------------------------------------------
-- Numbers
-- ---------------------------------------------------------------------------

/-- What comes after a value: nothing, a blank, or a token that ends an item. -/
def Follows (rest : List Char) : Prop :=
  ∀ c, rest.head? = some c → isSpace c = true ∨ c = ',' ∨ c = ']' ∨ c = '\x7d'

/-- No digit comes next. -/
def NoDigit (rest : List Char) : Prop :=
  ∀ c, rest.head? = some c → c.isDigit = false

theorem noDigit_cons {c : Char} (h : c.isDigit = false) (rest : List Char) :
    NoDigit (c :: rest) := by
  intro d hd
  obtain rfl := Option.some.inj hd
  exact h

/-- No digit follows a value. -/
theorem Follows.noDigit {rest : List Char} (h : Follows rest) : NoDigit rest := by
  intro c hc
  rcases h c hc with hspace | rfl | rfl | rfl
  · rcases isSpace_iff.mp hspace with rfl | rfl | rfl | rfl <;> rfl
  all_goals rfl

/-- What follows a value does not continue a number. -/
theorem Follows.head_ne {rest : List Char} (h : Follows rest) {c : Char}
    (hc : rest.head? = some c) : c ≠ '.' ∧ c ≠ 'e' ∧ c ≠ 'E' := by
  rcases h c hc with hspace | rfl | rfl | rfl
  · rcases isSpace_iff.mp hspace with rfl | rfl | rfl | rfl <;> decide
  all_goals decide

/-- A run of digits is read up to what is no digit. -/
theorem readRun_append {ds rest : List Char} (h : Run ds) (hrest : NoDigit rest) :
    readRun (ds ++ rest) = some (ds, rest) := by
  rw [readRun, Text.leadingDigits_append h.digits hrest, Text.afterDigits_append h.digits hrest,
    if_neg (by simp [h.ne_nil])]

theorem ne_of_isDigit {c d : Char} (h : c.isDigit = true) (hd : d.isDigit = false) : c ≠ d := by
  rintro rfl
  simp [hd] at h

theorem readExponentSign_digits {ds : List Char} (h : Run ds) (rest : List Char) :
    readExponentSign (ds ++ rest) = (false, ds ++ rest) := by
  obtain ⟨d, ds', rfl, hd⟩ := h.exists_cons
  rw [List.cons_append, readExponentSign]
  · rintro r heq
    exact ne_of_isDigit hd (by decide) (List.cons.inj heq).1
  · rintro r heq
    exact ne_of_isDigit hd (by decide) (List.cons.inj heq).1

/-- A written exponent is read. -/
theorem readExponent_append {es rest : List Char} {exponent : Option Exponent}
    (h : WritesExponent es exponent) (hrest : Follows rest) :
    readExponent (es ++ rest) = some (exponent, rest) := by
  cases h with
  | absent =>
    cases rest with
    | nil => rfl
    | cons c rest =>
      obtain ⟨-, he, hE⟩ := hrest.head_ne (c := c) rfl
      rw [List.nil_append, readExponent, if_neg (by simp [he, hE])]
  | unsigned hm h =>
    rw [List.cons_append, readExponent, if_pos hm, readExponentSign_digits h]
    simp [readRun_append h hrest.noDigit]
  | plus hm h =>
    rw [List.cons_append, readExponent, if_pos hm, List.cons_append, readExponentSign]
    simp [readRun_append h hrest.noDigit]
  | minus hm h =>
    rw [List.cons_append, readExponent, if_pos hm, List.cons_append, readExponentSign]
    simp [readRun_append h hrest.noDigit]

/-- An exponent is left out, or begins with its mark. -/
theorem WritesExponent.eq_nil_or_cons {es : List Char} {exponent : Option Exponent}
    (h : WritesExponent es exponent) :
    es = [] ∨ ∃ mark tail, es = mark :: tail ∧ (mark = 'e' ∨ mark = 'E') := by
  cases h with
  | absent => exact .inl rfl
  | unsigned hm h => exact .inr ⟨_, _, rfl, hm⟩
  | plus hm h => exact .inr ⟨_, _, rfl, hm⟩
  | minus hm h => exact .inr ⟨_, _, rfl, hm⟩

theorem WritesExponent.noDigit {es rest : List Char} {exponent : Option Exponent}
    (h : WritesExponent es exponent) (hrest : Follows rest) : NoDigit (es ++ rest) := by
  rcases h.eq_nil_or_cons with rfl | ⟨mark, tail, rfl, rfl | rfl⟩
  · exact hrest.noDigit
  · exact noDigit_cons (by decide) _
  · exact noDigit_cons (by decide) _

theorem WritesExponent.ne_point {es rest : List Char} {exponent : Option Exponent}
    (h : WritesExponent es exponent) (hrest : Follows rest) (tail : List Char) :
    es ++ rest ≠ '.' :: tail := by
  intro heq
  rcases h.eq_nil_or_cons with rfl | ⟨mark, tail, rfl, rfl | rfl⟩
  · exact (hrest.head_ne (congrArg List.head? heq)).1 rfl
  · exact absurd (List.cons.inj heq).1 (by decide)
  · exact absurd (List.cons.inj heq).1 (by decide)

/-- A written fraction is read. -/
theorem readFraction_append {fs fraction rest : List Char} (h : WritesFraction fs fraction)
    (hdigit : NoDigit rest) (hpoint : ∀ tail, rest ≠ '.' :: tail) :
    readFraction (fs ++ rest) = some (fraction, rest) := by
  cases h with
  | absent =>
    rw [List.nil_append, readFraction]
    exact hpoint
  | digits h => rw [List.cons_append, readFraction, readRun_append h hdigit]

theorem WritesFraction.noDigit {fs fraction rest : List Char} (h : WritesFraction fs fraction)
    (hrest : NoDigit rest) : NoDigit (fs ++ rest) := by
  cases h with
  | absent => exact hrest
  | digits h => exact noDigit_cons (by decide) _

theorem readMinus_append {whole : List Char} (negative : Bool) (h : Run whole) (rest : List Char) :
    readMinus (minus negative ++ (whole ++ rest)) = (negative, whole ++ rest) := by
  obtain ⟨d, ds', rfl, hd⟩ := h.exists_cons
  cases negative with
  | true => rfl
  | false =>
    show readMinus (d :: (ds' ++ rest)) = _
    rw [readMinus]
    · rfl
    · rintro r heq
      exact ne_of_isDigit hd (by decide) (List.cons.inj heq).1

/-- A written number is read. -/
theorem readNumber_append {cs rest : List Char} {l : Literal} (h : WritesNumber cs l)
    (hrest : Follows rest) : readNumber (cs ++ rest) = some (l, rest) := by
  cases h with
  | @mk negative whole fraction fs es exponent hwhole hzero hfraction hexponent =>
    have hes := hexponent.noDigit hrest
    have hrun : readRun (whole ++ (fs ++ (es ++ rest))) = some (whole, fs ++ (es ++ rest)) :=
      readRun_append hwhole (hfraction.noDigit hes)
    have hlength : ¬ (whole.head? = some '0' ∧ whole.length ≠ 1) := by
      rintro ⟨hhead, hlen⟩
      rw [hzero hhead] at hlen
      exact hlen rfl
    have hsign := readMinus_append negative hwhole (fs ++ (es ++ rest))
    rw [List.append_assoc, List.append_assoc, List.append_assoc, readNumber, hsign]
    simp only [hrun, Option.bind_eq_bind, Option.bind_some, if_neg hlength,
      readFraction_append hfraction hes (hexponent.ne_point hrest),
      readExponent_append hexponent hrest]

-- ---------------------------------------------------------------------------
-- Strings
-- ---------------------------------------------------------------------------

theorem isSome_ofLetter? {letter c : Char} (h : (letter, c) ∈ shortEscapes) :
    (ofLetter? letter).isSome = true ∧ letter ≠ 'u' := by
  have hall : ∀ e ∈ shortEscapes, (ofLetter? e.1).isSome = true ∧ e.1 ≠ 'u' := by decide
  exact hall (letter, c) h

/-- A written piece of a string is read. -/
theorem readPieces_piece {p : Piece} (h : p.Lawful) (rest : List Char) :
    readPieces (p.text ++ rest) = (readPieces rest).map fun (ps, rest) => (p :: ps, rest) := by
  cases h with
  | plain hc hquote hslash =>
    rename_i c
    have hplain : ¬ (c.toNat < 0x20 ∨ c = '\\') := by
      rintro (hlow | rfl)
      · omega
      · exact hslash rfl
    show readPieces (c :: rest) = _
    rw [readPieces, if_neg hplain]
    · rintro rfl
      exact hquote rfl
    · rintro _ _ _ _ _ rfl
      exact absurd rfl hslash
    · rintro _ _ rfl
      exact absurd rfl hslash
  | short h =>
    rename_i letter c
    obtain ⟨hletter, hu⟩ := isSome_ofLetter? h
    show readPieces ('\\' :: letter :: rest) = _
    rw [readPieces, if_pos hletter]
    rintro _ _ _ _ _ rfl
    exact absurd rfl hu
  | unit h =>
    rename_i a b c d n
    show readPieces ('\\' :: 'u' :: a :: b :: c :: d :: rest) = _
    rw [readPieces, if_pos (by simp [h])]

/-- A written string is read up to its closing quote. -/
theorem readPieces_append {ps : List Piece} (h : ∀ p ∈ ps, p.Lawful) (rest : List Char) :
    readPieces (ps.flatMap Piece.text ++ '"' :: rest) = some (ps, rest) := by
  induction ps with
  | nil => rw [List.flatMap_nil, List.nil_append, readPieces]
  | cons p ps ih =>
    obtain ⟨hp, hps⟩ := List.forall_mem_cons.mp h
    rw [List.flatMap_cons, List.append_assoc, readPieces_piece hp, ih hps]
    rfl

-- ---------------------------------------------------------------------------
-- Values
-- ---------------------------------------------------------------------------

theorem readValue_skipSpace (fuel : Nat) (cs : List Char) :
    readValue fuel (skipSpace cs) = readValue fuel cs := by
  cases fuel with
  | zero => rw [readValue, readValue]
  | succ fuel => rw [readValue, readValue, skipSpace_skipSpace]

theorem readItems_skipSpace (fuel : Nat) (cs : List Char) :
    readItems fuel (skipSpace cs) = readItems fuel cs := by
  cases fuel with
  | zero => rw [readItems, readItems]
  | succ fuel => rw [readItems, readItems, readValue_skipSpace]

theorem readMembers_skipSpace (fuel : Nat) (cs : List Char) :
    readMembers fuel (skipSpace cs) = readMembers fuel cs := by
  cases fuel with
  | zero => rw [readMembers, readMembers]
  | succ fuel => rw [readMembers, readMembers, skipSpace_skipSpace]

/-- A value is read from behind space. -/
theorem readValue_append_space {ws : List Char} (h : AllSpace ws) (fuel : Nat) (cs : List Char) :
    readValue fuel (ws ++ cs) = readValue fuel cs := by
  rw [← readValue_skipSpace, skipSpace_append h, readValue_skipSpace]

/-- A written word is read. -/
theorem readWord_append (word rest : List Char) : readWord word (word ++ rest) = some rest := by
  induction word with
  | nil => rfl
  | cons c word ih =>
    rw [List.cons_append, readWord, Text.expect, if_pos rfl]
    exact ih

/-- A token behind space may follow a value. -/
theorem follows_append_cons {ws : List Char} {c : Char} (h : AllSpace ws)
    (hc : c = ',' ∨ c = ']' ∨ c = '\x7d') (rest : List Char) : Follows (ws ++ c :: rest) := by
  intro d hd
  cases ws with
  | nil =>
    obtain rfl := Option.some.inj hd
    exact .inr hc
  | cons w ws =>
    obtain rfl := Option.some.inj hd
    exact .inl (h _ (.head _))

theorem follows_allSpace {ws : List Char} (h : AllSpace ws) : Follows ws := by
  intro d hd
  exact .inl (h d (List.mem_of_mem_head? hd))

-- ---------------------------------------------------------------------------
-- The first character decides how a value is read
-- ---------------------------------------------------------------------------

theorem readValue_quote (fuel : Nat) (cs : List Char) :
    readValue (fuel + 1) ('"' :: cs) = (readPieces cs).map fun r => (.string r.1, r.2) := by
  rw [readValue, skipSpace_cons (by decide)]
  rfl

theorem readValue_bracket_close {cs rest : List Char} (h : skipSpace cs = ']' :: rest)
    (fuel : Nat) : readValue (fuel + 1) ('[' :: cs) = some (.array [], rest) := by
  rw [readValue, skipSpace_cons (by decide)]
  simp only [h]

/-- An array that is not closed at once is read item by item. -/
theorem readValue_bracket_items {cs tail : List Char} {c : Char} (h : skipSpace cs = c :: tail)
    (hc : c ≠ ']') (fuel : Nat) :
    readValue (fuel + 1) ('[' :: cs) = (readItems fuel cs).map fun r => (.array r.1, r.2) := by
  have hskip : readItems fuel cs = readItems fuel (c :: tail) := by rw [← h, readItems_skipSpace]
  rw [readValue, skipSpace_cons (by decide), hskip]
  simp only [h]
  split
  · rename_i heq
    exact absurd (List.cons.inj heq).1 hc
  · cases readItems fuel (c :: tail) <;> rfl

theorem readValue_brace_close {cs rest : List Char} (h : skipSpace cs = '\x7d' :: rest)
    (fuel : Nat) : readValue (fuel + 1) ('\x7b' :: cs) = some (.object [], rest) := by
  rw [readValue, skipSpace_cons (by decide)]
  simp only [h]

/-- An object that is not closed at once is read member by member. -/
theorem readValue_brace_members {cs tail : List Char} (h : skipSpace cs = '"' :: tail)
    (fuel : Nat) :
    readValue (fuel + 1) ('\x7b' :: cs) =
      (readMembers fuel cs).map fun r => (.object r.1, r.2) := by
  have hskip : readMembers fuel cs = readMembers fuel ('"' :: tail) := by
    rw [← h, readMembers_skipSpace]
  rw [readValue, skipSpace_cons (by decide), hskip]
  simp only [h]
  split
  · rename_i heq
    exact absurd (List.cons.inj heq).1 (by decide)
  · cases readMembers fuel ('"' :: tail) <;> rfl

/-- A written number is read as a value. -/
theorem readValue_number {cs rest : List Char} {l : Literal} (h : WritesNumber cs l)
    (hrest : Follows rest) (fuel : Nat) :
    readValue (fuel + 1) (cs ++ rest) = some (.number l, rest) := by
  have hread := readNumber_append h hrest
  obtain ⟨c, tail, rfl, hc⟩ := h.exists_cons
  rw [List.cons_append] at hread ⊢
  rw [readValue, skipSpace_cons hc.opens.not_space]
  split
  · rename_i heq
    simp at heq
  iterate 6
    · rename_i heq
      exact absurd (List.cons.inj heq).1 (hc.ne (by decide) (by decide))
  · rw [hread]
    rfl

/-- With so much fuel, every text that is no longer is read. -/
structure Reads (fuel : Nat) : Prop where
  value : ∀ {cs rest : List Char} {t : Tree}, Writes cs t → cs.length ≤ fuel → Follows rest →
    readValue fuel (cs ++ rest) = some (t, rest)
  items : ∀ {cs rest : List Char} {ts : List Tree}, WritesItems cs ts → cs.length < fuel →
    readItems fuel (cs ++ ']' :: rest) = some (ts, rest)
  members : ∀ {cs rest : List Char} {ms : List (List Piece × Tree)}, WritesMembers cs ms →
    cs.length < fuel → readMembers fuel (cs ++ '\x7d' :: rest) = some (ms, rest)

/-- A token behind space is found. -/
theorem expect_append_cons {ws : List Char} {c : Char} (h : AllSpace ws) (hc : isSpace c = false)
    (rest : List Char) : Text.expect c (skipSpace (ws ++ c :: rest)) = some rest := by
  rw [skipSpace_append_cons h hc, Text.expect, if_pos rfl]

theorem expect_quoted {ws : List Char} (h : AllSpace ws) (ps : List Piece) (rest : List Char) :
    Text.expect '"' (skipSpace (ws ++ (quoted ps ++ rest))) =
      some (ps.flatMap Piece.text ++ '"' :: rest) := by
  rw [quoted, List.cons_append, List.cons_append, List.append_assoc]
  exact expect_append_cons h (by decide) _

namespace Reads

variable {fuel : Nat} (hr : Reads fuel) {cs rest : List Char}

include hr

/-- An item is read up to the token that ends it, with the blanks before it. -/
theorem item {before after : List Char} {t : Tree} {c : Char} (hb : AllSpace before)
    (h : Writes cs t) (ha : AllSpace after) (hlen : cs.length ≤ fuel)
    (hc : c = ',' ∨ c = ']' ∨ c = '\x7d') (rest : List Char) :
    readValue fuel (before ++ (cs ++ (after ++ c :: rest))) = some (t, after ++ c :: rest) := by
  rw [readValue_append_space hb]
  exact hr.value h hlen (follows_append_cons ha hc rest)

/-- With one more unit of fuel a written value is read. -/
theorem value_succ {t : Tree} (h : Writes cs t) (hlen : cs.length ≤ fuel + 1)
    (hrest : Follows rest) : readValue (fuel + 1) (cs ++ rest) = some (t, rest) := by
  cases h with
  | null =>
    have hword := readWord_append ['u', 'l', 'l'] rest
    rw [List.cons_append, readValue, skipSpace_cons (by decide)]
    exact congrArg (Option.map _) hword
  | true =>
    have hword := readWord_append ['r', 'u', 'e'] rest
    rw [List.cons_append, readValue, skipSpace_cons (by decide)]
    exact congrArg (Option.map _) hword
  | false =>
    have hword := readWord_append ['a', 'l', 's', 'e'] rest
    rw [List.cons_append, readValue, skipSpace_cons (by decide)]
    exact congrArg (Option.map _) hword
  | number h => exact readValue_number h hrest fuel
  | string h =>
    rw [quoted, List.cons_append, List.cons_append, readValue_quote, List.append_assoc,
      List.singleton_append, readPieces_append h]
    rfl
  | emptyArray h =>
    rw [List.cons_append, List.append_assoc]
    exact readValue_bracket_close (skipSpace_append_cons h (by decide) rest) fuel
  | array h =>
    obtain ⟨c, tail, hskip, hc⟩ := h.skipSpace_eq (']' :: rest)
    simp only [List.length_cons, List.length_append, List.length_nil] at hlen
    rw [List.cons_append, List.append_assoc, List.singleton_append,
      readValue_bracket_items hskip (hc.ne (by decide) (by decide)), hr.items h (by omega)]
    rfl
  | emptyObject h =>
    rw [List.cons_append, List.append_assoc]
    exact readValue_brace_close (skipSpace_append_cons h (by decide) rest) fuel
  | object h =>
    obtain ⟨tail, hskip⟩ := h.skipSpace_eq ('\x7d' :: rest)
    simp only [List.length_cons, List.length_append, List.length_nil] at hlen
    rw [List.cons_append, List.append_assoc, List.singleton_append,
      readValue_brace_members hskip, hr.members h (by omega)]
    rfl

/-- With one more unit of fuel written items are read. -/
theorem items_succ {ts : List Tree} (h : WritesItems cs ts) (hlen : cs.length < fuel + 1) :
    readItems (fuel + 1) (cs ++ ']' :: rest) = some (ts, rest) := by
  cases h with
  | one hb h ha =>
    simp only [List.length_append] at hlen
    have hitem := hr.item hb h ha (by omega) (.inr (.inl rfl)) rest
    have hend := skipSpace_append_cons (c := ']') ha (by decide) rest
    rw [List.append_assoc, List.append_assoc, readItems, hitem]
    simp only [Option.bind_eq_bind, Option.bind_some, hend]
  | @more before cs after later t ts hb h ha hmore =>
    simp only [List.length_append, List.length_cons] at hlen
    have hitem := hr.item hb h ha (by omega) (.inl rfl) (later ++ ']' :: rest)
    have hsep := skipSpace_append_cons (c := ',') ha (by decide) (later ++ ']' :: rest)
    have hlater : readItems fuel (later ++ ']' :: rest) = some (ts, rest) :=
      hr.items hmore (by omega)
    simp only [List.append_assoc, List.cons_append]
    rw [readItems, hitem]
    simp only [Option.bind_eq_bind, Option.bind_some, hsep, hlater]

/-- With one more unit of fuel written members are read. -/
theorem members_succ {ms : List (List Piece × Tree)} (h : WritesMembers cs ms)
    (hlen : cs.length < fuel + 1) :
    readMembers (fuel + 1) (cs ++ '\x7d' :: rest) = some (ms, rest) := by
  cases h with
  | @one start gap before cs after key t hs hkey hg hb h ha =>
    simp only [List.length_append, List.length_cons] at hlen
    have hitem := hr.item hb h ha (by omega) (.inr (.inr rfl)) rest
    have hcolon := expect_append_cons (c := ':') hg (by decide)
      (before ++ (cs ++ (after ++ '\x7d' :: rest)))
    have hend := skipSpace_append_cons (c := '\x7d') ha (by decide) rest
    simp only [List.append_assoc, List.cons_append]
    rw [readMembers, expect_quoted hs]
    simp only [Option.bind_eq_bind, Option.bind_some, readPieces_append hkey, hcolon, hitem, hend]
  | @more start gap before cs after later key t ms hs hkey hg hb h ha hmore =>
    simp only [List.length_append, List.length_cons] at hlen
    have hitem := hr.item hb h ha (by omega) (.inl rfl) (later ++ '\x7d' :: rest)
    have hcolon := expect_append_cons (c := ':') hg (by decide)
      (before ++ (cs ++ (after ++ ',' :: (later ++ '\x7d' :: rest))))
    have hsep := skipSpace_append_cons (c := ',') ha (by decide) (later ++ '\x7d' :: rest)
    have hlater : readMembers fuel (later ++ '\x7d' :: rest) = some (ms, rest) :=
      hr.members hmore (by omega)
    simp only [List.append_assoc, List.cons_append]
    rw [readMembers, expect_quoted hs]
    simp only [Option.bind_eq_bind, Option.bind_some, readPieces_append hkey, hcolon, hitem, hsep,
      hlater]

end Reads

/-- Fuel for each character is enough: every level of a tree, and every item, has one of its own. -/
theorem reads (fuel : Nat) : Reads fuel := by
  -- on the fuel and not on the tree: values, items and members are read by turns
  induction fuel with
  | zero =>
    refine ⟨?_, fun _ hlen => absurd hlen (Nat.not_lt_zero _),
      fun _ hlen => absurd hlen (Nat.not_lt_zero _)⟩
    intro cs rest t h hlen _
    obtain ⟨c, tail, rfl, -⟩ := h.exists_cons
    simp at hlen
  | succ fuel ih => exact ⟨ih.value_succ, ih.items_succ, ih.members_succ⟩

/-- **Every text of the grammar is read as the tree that it writes.** -/
theorem ofText?_of_document {cs : List Char} {t : Tree} (h : Document cs t) :
    Tree.ofText? cs = some t := by
  cases h with
  | @mk before cs after t hb h ha =>
    have hlen : cs.length ≤ 2 * (before ++ (cs ++ after)).length + 1 := by
      simp only [List.length_append]
      omega
    rw [Tree.ofText?, readValue_append_space hb, (reads _).value h hlen (follows_allSpace ha)]
    simp [skipSpace_allSpace ha]

-- ---------------------------------------------------------------------------
-- Laid out trees
-- ---------------------------------------------------------------------------

/-- The numbers and the strings of the tree are written by the grammar, its keys too. -/
inductive Tree.Printable : Tree → Prop
  | null : Printable .null
  | bool (b : Bool) : Printable (.bool b)
  | number {l : Literal} (h : WritesNumber l.text l) : Printable (.number l)
  | string {ps : List Piece} (h : ∀ p ∈ ps, p.Lawful) : Printable (.string ps)
  | array {items : List Tree} (h : ∀ t ∈ items, Printable t) : Printable (.array items)
  | object {members : List (List Piece × Tree)} (hkeys : ∀ m ∈ members, ∀ p ∈ m.1, p.Lawful)
      (h : ∀ m ∈ members, Printable m.2) : Printable (.object members)

theorem allSpace_newLine (level : Nat) : AllSpace (newLine level) := by
  intro c hc
  rcases List.mem_cons.mp hc with rfl | hc
  · rfl
  · rw [List.eq_of_mem_replicate hc]
    rfl

section

variable {level : Nat} {after : List Char} (hafter : AllSpace after)
include hafter

/-- Items on lines of their own are written, from the first one on. -/
theorem writesItems_layout {item : Tree} {items : List Tree}
    (h : ∀ t ∈ item :: items, Writes (t.layoutAt level) t) :
    WritesItems (newLine level ++ (item.layoutAt level ++ (layoutItems level items ++ after)))
      (item :: items) := by
  induction items generalizing item with
  | nil =>
    simp only [layoutItems, List.nil_append]
    exact .one (allSpace_newLine level) (h item (.head _)) hafter
  | cons next items ih =>
    simp only [layoutItems, List.append_assoc, List.cons_append]
    exact .more (allSpace_newLine level) (h item (.head _)) allSpace_nil
      (ih fun t ht => h t (.tail _ ht))

/-- Members on lines of their own are written, from the first one on. -/
theorem writesMembers_layout {key : List Piece} {item : Tree} {members : List (List Piece × Tree)}
    (hkeys : ∀ m ∈ (key, item) :: members, ∀ p ∈ m.1, p.Lawful)
    (h : ∀ m ∈ (key, item) :: members, Writes (m.2.layoutAt level) m.2) :
    WritesMembers
      (newLine level ++ (quoted key ++ ':' :: ' ' :: (item.layoutAt level ++
        (layoutMembers level members ++ after))))
      ((key, item) :: members) := by
  have hblank : AllSpace [' '] := by
    simp only [AllSpace, List.forall_mem_singleton]
    rfl
  induction members generalizing key item with
  | nil =>
    simp only [layoutMembers, List.nil_append]
    exact .one (allSpace_newLine level) (hkeys _ (.head _)) allSpace_nil hblank (h _ (.head _))
      hafter
  | cons next members ih =>
    obtain ⟨nextKey, nextItem⟩ := next
    simp only [layoutMembers, List.append_assoc, List.cons_append]
    exact .more (allSpace_newLine level) (hkeys _ (.head _)) allSpace_nil hblank (h _ (.head _))
      allSpace_nil (ih (fun m hm => hkeys m (.tail _ hm)) fun m hm => h m (.tail _ hm))

end

/-- The layout writes the tree, at any level. -/
theorem Tree.Printable.writes_layoutAt {t : Tree} (h : t.Printable) (level : Nat) :
    Writes (t.layoutAt level) t := by
  induction h generalizing level with
  | null => exact .null
  | bool b =>
    cases b with
    | true => exact .true
    | false => exact .false
  | number h => exact .number h
  | string h => exact .string h
  | @array items _ ih =>
    cases items with
    | nil => exact .emptyArray allSpace_nil
    | cons item items =>
      have hitems := writesItems_layout (allSpace_newLine level) fun t ht => ih t ht (level + 1)
      simpa [Tree.layoutAt] using Writes.array hitems
  | @object members hkeys _ ih =>
    cases members with
    | nil => exact .emptyObject allSpace_nil
    | cons m members =>
      obtain ⟨key, item⟩ := m
      have hmembers :=
        writesMembers_layout (allSpace_newLine level) hkeys fun m hm => ih m hm (level + 1)
      simpa [Tree.layoutAt] using Writes.object hmembers

/-- The layout is read as the tree. -/
theorem ofText?_layout {t : Tree} (h : t.Printable) : Tree.ofText? t.layout = some t := by
  have hdocument : Document ([] ++ (t.layout ++ [])) t :=
    .mk allSpace_nil (h.writes_layoutAt 0) allSpace_nil
  rw [List.nil_append, List.append_nil] at hdocument
  exact ofText?_of_document hdocument

/-- A text can be written in a tree. -/
theorem printable_ofString (s : String) : (Tree.ofString s).Printable :=
  .string (lawful_encode s.toList)

/-- An object with given keys can be written if its values can. -/
theorem printable_record {members : List (String × Tree)} (h : ∀ m ∈ members, m.2.Printable) :
    (Tree.record members).Printable := by
  refine .object ?_ ?_ <;> simp only [List.forall_mem_map]
  · exact fun m _ => lawful_encode m.1.toList
  · exact h

end OpeningHours.Json
