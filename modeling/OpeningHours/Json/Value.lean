import OpeningHours.Decimal.Literal
import OpeningHours.Json.Tree

/-!
# OpeningHours — JSON values

A tree has a value when it is not nested too deeply, its numbers are not beyond all floats, and its
strings write texts. An object keeps one value for a key, the last one written.

A record is written as an object or as an array. An object gives fields by their names, in any order
and among members that belong to no field; a field may have several names, but is given once. An
array gives the fields in their order; fields at its end may be left out down to a least number.

* `Tree.value?`    — the value of a tree.
* `Value.fields?` — the values of a record's fields, none for a field that is left out.
-/

namespace OpeningHours.Json

-- ---------------------------------------------------------------------------
-- Values
-- ---------------------------------------------------------------------------

/-- A JSON value. -/
inductive Value where
  | null
  | bool (b : Bool)
  | number (n : Decimal.Number)
  | string (s : String)
  | array (items : List Value)
  | object (members : List (String × Value))

/-- Keeps of the members with one key the last one. -/
def lastOfEach {α : Type} : List (String × α) → List (String × α)
  | [] => []
  | m :: ms =>
    if (ms.map Prod.fst).contains m.1 then lastOfEach ms else m :: lastOfEach ms

/-- The text that a string's pieces write. -/
def textOf? (pieces : List Piece) : Option String :=
  (decode? pieces).map String.ofList

/-- The value of a tree with so many levels of arrays and objects at most. -/
def Tree.value? : Nat → Tree → Option Value
  | _, .null => some .null
  | _, .bool b => some (.bool b)
  | _, .number l => l.number?.map .number
  | _, .string ps => (textOf? ps).map .string
  | 0, .array _ => none
  | 0, .object _ => none
  | depth + 1, .array items => (items.mapM (Tree.value? depth)).map .array
  | depth + 1, .object members =>
    (members.mapM fun (key, tree) => do
      let key ← textOf? key
      let value ← Tree.value? depth tree
      some (key, value)).map fun ms => .object (lastOfEach ms)

/-- The levels of arrays and objects that a text may have. -/
def maxDepth : Nat := 127

/-- The member of a key. -/
def Value.member? (key : String) : Value → Option Value
  | .object members => members.lookup key
  | _ => none

-- ---------------------------------------------------------------------------
-- Records
-- ---------------------------------------------------------------------------

/-- The value of the field with these names, if it is not given twice. -/
def fieldOf? (members : List (String × Value)) (names : List String) : Option (Option Value) :=
  match members.filter fun m => names.contains m.1 with
  | [] => some none
  | [m] => some (some m.2)
  | _ => none

/-- The values of the fields with these names. -/
def Value.fields? (least : Nat) (fields : List (List String)) : Value → Option (List (Option Value))
  | .object members => fields.mapM (fieldOf? members)
  | .array items =>
    if least ≤ items.length ∧ items.length ≤ fields.length then
      some (items.map some ++ List.replicate (fields.length - items.length) none)
    else none
  | _ => none

/-- The text of a string. -/
def Value.string? : Value → Option String
  | .string s => some s
  | _ => none

/-- The value of an optional field, where null counts as left out. -/
def optional? {α : Type} (read : Value → Option α) : Option Value → Option (Option α)
  | none => some none
  | some .null => some none
  | some v => (read v).map some

end OpeningHours.Json
