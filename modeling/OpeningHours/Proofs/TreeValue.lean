import Mathlib.Data.List.Forall2
import OpeningHours.Json.Value

/-!
# OpeningHours — trees without a value

A text can follow the grammar and still write nothing that has a value: a number beyond all floats,
a string with one half of a pair, or more levels of arrays and objects than there may be. One such
place is enough to take the value from the whole tree around it.

* `Unreadable depth t` — there is such a place in the tree, of which so many levels may be read.

## Results

* `value?_eq_none_iff` — the trees without a value are the unreadable ones.
* `exists_values_iff`  — trees have their values all together, or not at all.
-/

namespace OpeningHours.Json

open Decimal (Literal)

/-- Something in the tree has no value where so many levels of arrays and objects are read. -/
inductive Unreadable : Nat → Tree → Prop
  /-- The number is beyond all floats. -/
  | number {depth : Nat} {l : Literal} (h : l.number? = none) : Unreadable depth (.number l)
  /-- The string has half of a pair without the other half. -/
  | string {depth : Nat} {ps : List Piece} (h : textOf? ps = none) : Unreadable depth (.string ps)
  | deepArray (items : List Tree) : Unreadable 0 (.array items)
  | deepObject (members : List (List Piece × Tree)) : Unreadable 0 (.object members)
  | item {depth : Nat} {items : List Tree} {t : Tree} (hmem : t ∈ items) (h : Unreadable depth t) :
      Unreadable (depth + 1) (.array items)
  | key {depth : Nat} {members : List (List Piece × Tree)} {m : List Piece × Tree}
      (hmem : m ∈ members) (h : textOf? m.1 = none) : Unreadable (depth + 1) (.object members)
  | member {depth : Nat} {members : List (List Piece × Tree)} {m : List Piece × Tree}
      (hmem : m ∈ members) (h : Unreadable depth m.2) : Unreadable (depth + 1) (.object members)

-- ---------------------------------------------------------------------------
-- Reading one after another
-- ---------------------------------------------------------------------------

section

variable {α β : Type} {f : α → Option β}

/-- Results are had for all items exactly if each item has its own. -/
theorem mapM_eq_some_iff {xs : List α} {ys : List β} :
    xs.mapM f = some ys ↔ List.Forall₂ (fun x y => f x = some y) xs ys := by
  induction xs generalizing ys with
  | nil => simp [List.forall₂_nil_left_iff, eq_comm]
  | cons x xs ih =>
    rw [List.mapM_cons, List.forall₂_cons_left_iff]
    simp only [Option.bind_eq_bind, Option.bind_eq_some_iff, ih, Option.pure_def,
      Option.some.injEq]
    constructor
    · rintro ⟨y, hy, ys, hys, rfl⟩
      exact ⟨y, ys, hy, hys, rfl⟩
    · rintro ⟨y, ys, hy, hys, rfl⟩
      exact ⟨y, hy, ys, hys, rfl⟩

/-- There are no results exactly if some item has none. -/
theorem mapM_eq_none_iff {xs : List α} : xs.mapM f = none ↔ ∃ x ∈ xs, f x = none := by
  induction xs with
  | nil => simp
  | cons x xs ih =>
    rw [List.mapM_cons, List.exists_mem_cons_iff, ← ih]
    cases hx : f x with
    | none => simp
    | some y => cases hxs : xs.mapM f <;> simp

end

-- ---------------------------------------------------------------------------
-- Trees
-- ---------------------------------------------------------------------------

theorem value?_number_eq_none_iff (depth : Nat) (l : Literal) :
    (Tree.number l).value? depth = none ↔ Unreadable depth (.number l) := by
  have hvalue : (Tree.number l).value? depth = l.number?.map .number := by cases depth <;> rfl
  rw [hvalue, Option.map_eq_none_iff]
  constructor
  · exact .number
  · intro h
    cases h with
    | number h => exact h

theorem value?_string_eq_none_iff (depth : Nat) (ps : List Piece) :
    (Tree.string ps).value? depth = none ↔ Unreadable depth (.string ps) := by
  have hvalue : (Tree.string ps).value? depth = (textOf? ps).map .string := by cases depth <;> rfl
  rw [hvalue, Option.map_eq_none_iff]
  constructor
  · exact .string
  · intro h
    cases h with
    | string h => exact h

/-- The trees without a value are the unreadable ones. -/
theorem value?_eq_none_iff {depth : Nat} {t : Tree} :
    t.value? depth = none ↔ Unreadable depth t := by
  induction depth generalizing t with
  | zero =>
    cases t with
    | null => exact ⟨nofun, nofun⟩
    | bool b => exact ⟨nofun, nofun⟩
    | number l => exact value?_number_eq_none_iff 0 l
    | string ps => exact value?_string_eq_none_iff 0 ps
    | array items => exact ⟨fun _ => .deepArray items, fun _ => rfl⟩
    | object members => exact ⟨fun _ => .deepObject members, fun _ => rfl⟩
  | succ depth ih =>
    cases t with
    | null => exact ⟨nofun, nofun⟩
    | bool b => exact ⟨nofun, nofun⟩
    | number l => exact value?_number_eq_none_iff (depth + 1) l
    | string ps => exact value?_string_eq_none_iff (depth + 1) ps
    | array items =>
      rw [Tree.value?, Option.map_eq_none_iff, mapM_eq_none_iff]
      constructor
      · rintro ⟨t, hmem, h⟩
        exact .item hmem (ih.mp h)
      · rintro (_ | _ | _ | _ | ⟨hmem, h⟩)
        exact ⟨_, hmem, ih.mpr h⟩
    | object members =>
      rw [Tree.value?, Option.map_eq_none_iff, mapM_eq_none_iff]
      constructor
      · rintro ⟨⟨key, t⟩, hmem, h⟩
        cases hkey : textOf? key with
        | none => exact .key hmem hkey
        | some name =>
          refine .member hmem (ih.mp ?_)
          cases hv : t.value? depth with
          | none => rfl
          | some v => simp [hkey, hv] at h
      · rintro (_ | _ | _ | _ | _ | ⟨hmem, hkey⟩ | ⟨hmem, h⟩)
        · exact ⟨_, hmem, by simp [hkey]⟩
        · exact ⟨_, hmem, by simp [ih.mpr h]⟩

/-- Trees have their values all together, or not at all. -/
theorem exists_values_iff {depth : Nat} {ts : List Tree} :
    (∃ vs, ts.mapM (Tree.value? depth) = some vs) ↔ ∀ t ∈ ts, ¬ Unreadable depth t := by
  rw [← Option.ne_none_iff_exists', Ne, mapM_eq_none_iff]
  simp only [value?_eq_none_iff, not_exists, not_and]

end OpeningHours.Json
