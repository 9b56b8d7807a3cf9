import Mathlib.Data.List.DropRight
import OpeningHours.Json.Reader
import OpeningHours.Json.Tree

/-!
# OpeningHours — the grammar of JSON texts

The grammar says which texts write a tree, with no regard to how a text is read: blanks may stand
around every token, a number has no superfluous zeros, a string has no bare control characters. How
deep arrays and objects are nested does not matter, and neither does whether the tree has a value.

* `Writes cs t`   — the characters write the tree.
* `Document cs t` — so do they with blanks around them.

## Results

* `lawful_encode`               — every text can be written as a string.
* `Writes.exists_cons`          — a value starts with one of a few characters, none of them a blank.
* `WritesItems.skipSpace_eq`    — so do the items of an array, behind blanks.
* `WritesMembers.skipSpace_eq`  — the members of an object start with a quote, behind blanks.
-/

namespace OpeningHours.Json

open Decimal (Literal Exponent minus)

/-- Nothing but blanks. -/
def AllSpace (cs : List Char) : Prop :=
  ∀ c ∈ cs, isSpace c = true

/-- Digits, one at least. -/
structure Run (ds : List Char) : Prop where
  ne_nil : ds ≠ []
  digits : ∀ c ∈ ds, c.isDigit = true

/-- The characters write the digits of a fraction, or leave it out. -/
inductive WritesFraction : List Char → List Char → Prop
  | absent : WritesFraction [] []
  | digits {ds : List Char} (h : Run ds) : WritesFraction ('.' :: ds) ds

/-- The characters write an exponent, or leave it out. -/
inductive WritesExponent : List Char → Option Exponent → Prop
  | absent : WritesExponent [] none
  | unsigned {mark : Char} {ds : List Char} (hm : mark = 'e' ∨ mark = 'E') (h : Run ds) :
      WritesExponent (mark :: ds) (some ⟨false, ds⟩)
  | plus {mark : Char} {ds : List Char} (hm : mark = 'e' ∨ mark = 'E') (h : Run ds) :
      WritesExponent (mark :: '+' :: ds) (some ⟨false, ds⟩)
  | minus {mark : Char} {ds : List Char} (hm : mark = 'e' ∨ mark = 'E') (h : Run ds) :
      WritesExponent (mark :: '-' :: ds) (some ⟨true, ds⟩)

/-- The characters write a number, whose whole part starts with a zero only if it is one. -/
inductive WritesNumber : List Char → Literal → Prop
  | mk {negative : Bool} {whole fraction fs es : List Char} {exponent : Option Exponent}
      (hwhole : Run whole) (hzero : whole.head? = some '0' → whole = ['0'])
      (hfraction : WritesFraction fs fraction) (hexponent : WritesExponent es exponent) :
      WritesNumber (minus negative ++ (whole ++ (fs ++ es))) ⟨negative, whole, fraction, exponent⟩

/-- The piece may stand in a string. -/
inductive Piece.Lawful : Piece → Prop
  | plain {c : Char} (hc : 0x20 ≤ c.toNat) (hquote : c ≠ '"') (hslash : c ≠ '\\') :
      (Piece.plain c).Lawful
  | short {letter c : Char} (h : (letter, c) ∈ shortEscapes) : (Piece.short letter).Lawful
  | unit {a b c d : Char} {n : Nat} (h : unit? a b c d = some n) : (Piece.unit a b c d).Lawful

mutual

/-- The characters write a tree. -/
inductive Writes : List Char → Tree → Prop
  | null : Writes ['n', 'u', 'l', 'l'] .null
  | true : Writes ['t', 'r', 'u', 'e'] (.bool true)
  | false : Writes ['f', 'a', 'l', 's', 'e'] (.bool false)
  | number {cs : List Char} {l : Literal} (h : WritesNumber cs l) : Writes cs (.number l)
  | string {ps : List Piece} (h : ∀ p ∈ ps, p.Lawful) : Writes (quoted ps) (.string ps)
  | emptyArray {ws : List Char} (h : AllSpace ws) : Writes ('[' :: (ws ++ [']'])) (.array [])
  | array {cs : List Char} {items : List Tree} (h : WritesItems cs items) :
      Writes ('[' :: (cs ++ [']'])) (.array items)
  | emptyObject {ws : List Char} (h : AllSpace ws) :
      Writes ('\x7b' :: (ws ++ ['\x7d'])) (.object [])
  | object {cs : List Char} {members : List (List Piece × Tree)} (h : WritesMembers cs members) :
      Writes ('\x7b' :: (cs ++ ['\x7d'])) (.object members)

/-- The characters write trees with blanks around each and a comma between two of them. -/
inductive WritesItems : List Char → List Tree → Prop
  | one {before cs after : List Char} {t : Tree} (hb : AllSpace before) (h : Writes cs t)
      (ha : AllSpace after) : WritesItems (before ++ (cs ++ after)) [t]
  | more {before cs after later : List Char} {t : Tree} {ts : List Tree} (hb : AllSpace before)
      (h : Writes cs t) (ha : AllSpace after) (hmore : WritesItems later ts) :
      WritesItems (before ++ (cs ++ (after ++ ',' :: later))) (t :: ts)

/-- The characters write members with blanks around each token and a comma between two of them. -/
inductive WritesMembers : List Char → List (List Piece × Tree) → Prop
  | one {start gap before cs after : List Char} {key : List Piece} {t : Tree}
      (hs : AllSpace start) (hkey : ∀ p ∈ key, p.Lawful) (hg : AllSpace gap)
      (hb : AllSpace before) (h : Writes cs t) (ha : AllSpace after) :
      WritesMembers (start ++ (quoted key ++ (gap ++ ':' :: (before ++ (cs ++ after))))) [(key, t)]
  | more {start gap before cs after later : List Char} {key : List Piece} {t : Tree}
      {ms : List (List Piece × Tree)} (hs : AllSpace start) (hkey : ∀ p ∈ key, p.Lawful)
      (hg : AllSpace gap) (hb : AllSpace before) (h : Writes cs t) (ha : AllSpace after)
      (hmore : WritesMembers later ms) :
      WritesMembers
        (start ++ (quoted key ++ (gap ++ ':' :: (before ++ (cs ++ (after ++ ',' :: later))))))
        ((key, t) :: ms)

end

/-- The characters write a tree, with blanks before and behind it. -/
inductive Document : List Char → Tree → Prop
  | mk {before cs after : List Char} {t : Tree} (hb : AllSpace before) (h : Writes cs t)
      (ha : AllSpace after) : Document (before ++ (cs ++ after)) t

-- ---------------------------------------------------------------------------
-- Blanks
-- ---------------------------------------------------------------------------

theorem allSpace_nil : AllSpace [] :=
  List.forall_mem_nil _

/-- Space in front is skipped. -/
theorem skipSpace_append {ws : List Char} (h : AllSpace ws) (cs : List Char) :
    skipSpace (ws ++ cs) = skipSpace cs :=
  List.dropWhile_append_of_pos h

theorem skipSpace_cons {c : Char} (h : isSpace c = false) (cs : List Char) :
    skipSpace (c :: cs) = c :: cs :=
  List.dropWhile_cons_of_neg (by simp [h])

theorem skipSpace_allSpace {ws : List Char} (h : AllSpace ws) : skipSpace ws = [] :=
  List.dropWhile_eq_nil_iff.mpr h

theorem skipSpace_skipSpace (cs : List Char) : skipSpace (skipSpace cs) = skipSpace cs :=
  List.dropWhile_idempotent isSpace cs

/-- Skipping space ends at the first character that is none. -/
theorem skipSpace_append_cons {ws : List Char} {c : Char} (h : AllSpace ws)
    (hc : isSpace c = false) (cs : List Char) : skipSpace (ws ++ c :: cs) = c :: cs := by
  rw [skipSpace_append h, skipSpace_cons hc]

theorem isSpace_iff {c : Char} :
    isSpace c = true ↔ c = ' ' ∨ c = '\n' ∨ c = '\t' ∨ c = '\r' := by
  simp only [isSpace, Bool.or_eq_true, decide_eq_true_eq, or_assoc]

-- ---------------------------------------------------------------------------
-- Strings
-- ---------------------------------------------------------------------------

/-- Every text is written with pieces that may stand in a string. -/
theorem lawful_encode (cs : List Char) : ∀ p ∈ encode cs, p.Lawful := by
  intro p hp
  obtain ⟨c, -, rfl⟩ := List.mem_map.mp hp
  rw [Piece.ofChar]
  split
  · rename_i letter h
    rw [letter?] at h
    split at h
    · simp at h
    · obtain ⟨e, hfind, rfl⟩ := Option.map_eq_some_iff.mp h
      exact .short (List.mem_of_find?_eq_some hfind)
  · rename_i h
    split
    · rename_i hlow
      exact .unit (unit?_of_lt c.toNat hlow).1
    · rename_i hlow
      refine .plain (Nat.le_of_not_lt hlow) ?_ ?_
      · rintro rfl
        exact absurd h (by decide)
      · rintro rfl
        exact absurd h (by decide)

-- ---------------------------------------------------------------------------
-- The first character of a value
-- ---------------------------------------------------------------------------

/-- The character can be the first one of a value. -/
def Opens (c : Char) : Prop :=
  c.isDigit = true ∨ c ∈ ['-', '"', '[', '\x7b', 'n', 't', 'f']

theorem Opens.ne {c d : Char} (h : Opens c) (hdigit : d.isDigit = false)
    (hd : d ∉ ['-', '"', '[', '\x7b', 'n', 't', 'f']) : c ≠ d := by
  rintro rfl
  rcases h with h | h
  · simp [hdigit] at h
  · exact hd h

/-- No value begins with space. -/
theorem Opens.not_space {c : Char} (h : Opens c) : isSpace c = false := by
  rw [Bool.eq_false_iff]
  intro hspace
  rcases isSpace_iff.mp hspace with hc | hc | hc | hc
  all_goals exact h.ne (by decide) (by decide) hc

/-- The character can be the first one of a number. -/
def OpensNumber (c : Char) : Prop :=
  c = '-' ∨ c.isDigit = true

theorem OpensNumber.opens {c : Char} (h : OpensNumber c) : Opens c := by
  rcases h with rfl | h
  · exact .inr (by decide)
  · exact .inl h

theorem OpensNumber.ne {c d : Char} (h : OpensNumber c) (hminus : d ≠ '-')
    (hdigit : d.isDigit = false) : c ≠ d := by
  rintro rfl
  rcases h with rfl | h
  · exact hminus rfl
  · simp [hdigit] at h

theorem Run.exists_cons {ds : List Char} (h : Run ds) :
    ∃ d ds', ds = d :: ds' ∧ d.isDigit = true := by
  cases ds with
  | nil => exact absurd rfl h.ne_nil
  | cons d ds' => exact ⟨d, ds', rfl, h.digits d (.head _)⟩

/-- A written number begins with a digit or a minus sign. -/
theorem WritesNumber.exists_cons {cs : List Char} {l : Literal} (h : WritesNumber cs l) :
    ∃ c tail, cs = c :: tail ∧ OpensNumber c := by
  cases h with
  | @mk negative whole fraction fs es exponent hwhole hzero hfraction hexponent =>
    obtain ⟨d, ds', rfl, hd⟩ := hwhole.exists_cons
    cases negative with
    | true => exact ⟨'-', _, rfl, .inl rfl⟩
    | false => exact ⟨d, _, rfl, .inr hd⟩

/-- A written value begins with a character that opens one. -/
theorem Writes.exists_cons {cs : List Char} {t : Tree} (h : Writes cs t) :
    ∃ c tail, cs = c :: tail ∧ Opens c := by
  cases h with
  | number h =>
    obtain ⟨c, tail, rfl, hc⟩ := h.exists_cons
    exact ⟨c, tail, rfl, hc.opens⟩
  | _ => exact ⟨_, _, rfl, .inr (by decide)⟩

theorem WritesItems.ne_nil {cs : List Char} {ts : List Tree} (h : WritesItems cs ts) : ts ≠ [] := by
  cases h with
  | one => exact List.cons_ne_nil _ _
  | more => exact List.cons_ne_nil _ _

/-- Behind the blanks before the first item stands an item. -/
theorem WritesItems.skipSpace_eq {cs : List Char} {ts : List Tree} (h : WritesItems cs ts)
    (rest : List Char) : ∃ c tail, skipSpace (cs ++ rest) = c :: tail ∧ Opens c := by
  cases h with
  | @one before cs after t hb h ha =>
    obtain ⟨c, tail, rfl, hc⟩ := h.exists_cons
    refine ⟨c, tail ++ after ++ rest, ?_, hc⟩
    rw [List.append_assoc]
    exact skipSpace_append_cons hb hc.not_space _
  | @more before cs after later t ts hb h ha hmore =>
    obtain ⟨c, tail, rfl, hc⟩ := h.exists_cons
    refine ⟨c, tail ++ (after ++ ',' :: later) ++ rest, ?_, hc⟩
    rw [List.append_assoc]
    exact skipSpace_append_cons hb hc.not_space _

/-- Behind the blanks before the first member stands a quote. -/
theorem WritesMembers.skipSpace_eq {cs : List Char} {ms : List (List Piece × Tree)}
    (h : WritesMembers cs ms) (rest : List Char) :
    ∃ tail, skipSpace (cs ++ rest) = '"' :: tail := by
  have hquote : ∀ {start : List Char} (key : List Piece) (later : List Char), AllSpace start →
      ∃ tail, skipSpace (start ++ (quoted key ++ later) ++ rest) = '"' :: tail := by
    intro start key later hs
    refine ⟨key.flatMap Piece.text ++ ['"'] ++ later ++ rest, ?_⟩
    rw [List.append_assoc]
    exact skipSpace_append_cons hs (by decide) _
  cases h with
  | one hs hkey hg hb h ha => exact hquote _ _ hs
  | more hs hkey hg hb h ha hmore => exact hquote _ _ hs

end OpeningHours.Json
