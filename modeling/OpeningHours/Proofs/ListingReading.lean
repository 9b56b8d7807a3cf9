import Mathlib.Data.List.Forall2
import OpeningHours.Json.Value
import OpeningHours.Listing
import OpeningHours.Proofs.JsonReading
import OpeningHours.Proofs.TreeValue
import OpeningHours.Proofs.WrittenFloats

/-!
# OpeningHours — the JSON listing read back

The listing written as JSON is an array with one object for every view, and an object has twelve
members: the texts, the flag, the coordinates and the rows of the view. Nothing of a view is lost.
The text is read as a tree again, and the tree denotes the views and no other value, where every
number is the float nearest to what is written.

* `Json.Denotes R depth t v` — the tree denotes the value, where `R` says how literals are read.

## Results

* `Json.Denotes.unique`         — a tree denotes at most one value.
* `Json.Denotes.value?`         — the value of a tree is what it denotes.
* `Listing.renderJson_denotes`  — the listing denotes the views found, and nothing else.
-/

namespace OpeningHours

namespace Json

open Decimal (Literal rounds_ofFloat writesNumber_ofFloat)

/-- The tree, with so many levels of arrays and objects at most, denotes the value, where `R` says
which float a literal is read as. An object keeps the last value of a key. -/
def Denotes (R : Literal → Float → Prop) : Nat → Tree → Value → Prop
  | _, .null, v => v = .null
  | _, .bool b, v => v = .bool b
  | _, .number l, v => ∃ x, R l x ∧ v = .number (.real x)
  | _, .string ps, v => ∃ s, textOf? ps = some s ∧ v = .string s
  | 0, .array _, _ => False
  | 0, .object _, _ => False
  | depth + 1, .array items, v =>
    ∃ values, List.Forall₂ (Denotes R depth) items values ∧ v = .array values
  | depth + 1, .object members, v =>
    ∃ named,
      List.Forall₂ (fun m n => textOf? m.1 = some n.1 ∧ Denotes R depth m.2 n.2) members named ∧
        v = .object (lastOfEach named)

section

variable {R : Literal → Float → Prop} {depth : Nat} {v : Value}

theorem denotes_null : Denotes R depth .null v ↔ v = .null := by
  cases depth <;> rfl

theorem denotes_bool {b : Bool} : Denotes R depth (.bool b) v ↔ v = .bool b := by
  cases depth <;> rfl

theorem denotes_number {l : Literal} :
    Denotes R depth (.number l) v ↔ ∃ x, R l x ∧ v = .number (.real x) := by
  cases depth <;> rfl

theorem denotes_string {ps : List Piece} :
    Denotes R depth (.string ps) v ↔ ∃ s, textOf? ps = some s ∧ v = .string s := by
  cases depth <;> rfl

end

section

variable {R : Literal → Float → Prop}

/-- If a literal is read as one float at most, a tree denotes at most one value. -/
theorem Denotes.unique (hR : Relator.RightUnique R) :
    ∀ {depth : Nat} {t : Tree} {v w : Value}, Denotes R depth t v → Denotes R depth t w → v = w
  | _, .null, _, _, hv, hw => by rw [denotes_null.mp hv, denotes_null.mp hw]
  | _, .bool _, _, _, hv, hw => by rw [denotes_bool.mp hv, denotes_bool.mp hw]
  | _, .number _, _, _, hv, hw => by
    obtain ⟨x, hx, rfl⟩ := denotes_number.mp hv
    obtain ⟨y, hy, rfl⟩ := denotes_number.mp hw
    rw [hR hx hy]
  | _, .string _, _, _, hv, hw => by
    obtain ⟨s, hs, rfl⟩ := denotes_string.mp hv
    obtain ⟨s', hs', rfl⟩ := denotes_string.mp hw
    rw [Option.some.inj (hs.symm.trans hs')]
  | 0, .array _, _, _, hv, _ => hv.elim
  | 0, .object _, _, _, hv, _ => hv.elim
  | depth + 1, .array _, _, _, hv, hw => by
    obtain ⟨vs, hvs, rfl⟩ := hv
    obtain ⟨ws, hws, rfl⟩ := hw
    have hitem : Relator.RightUnique (Denotes R depth) := fun _ _ _ => Denotes.unique hR
    rw [hitem.forall₂ hvs hws]
  | depth + 1, .object _, _, _, hv, hw => by
    obtain ⟨vs, hvs, rfl⟩ := hv
    obtain ⟨ws, hws, rfl⟩ := hw
    have hmember : Relator.RightUnique fun (m : List Piece × Tree) (n : String × Value) =>
        textOf? m.1 = some n.1 ∧ Denotes R depth m.2 n.2 :=
      fun _ _ _ hn hn' =>
        Prod.ext (Option.some.inj (hn.1.symm.trans hn'.1)) (Denotes.unique hR hn.2 hn'.2)
    rw [hmember.forall₂ hvs hws]

/-- The value of a tree is what it denotes, if its literals are read as their numbers. -/
theorem Denotes.value? (hR : ∀ {l x}, R l x → l.number? = some (.real x)) :
    ∀ {depth : Nat} {t : Tree} {v : Value}, Denotes R depth t v → t.value? depth = some v
  | depth, .null, _, h => by cases depth <;> rw [denotes_null.mp h, Tree.value?]
  | depth, .bool _, _, h => by cases depth <;> rw [denotes_bool.mp h, Tree.value?]
  | depth, .number _, _, h => by
    obtain ⟨x, hx, rfl⟩ := denotes_number.mp h
    cases depth <;> rw [Tree.value?, hR hx, Option.map_some]
  | depth, .string _, _, h => by
    obtain ⟨s, hs, rfl⟩ := denotes_string.mp h
    cases depth <;> rw [Tree.value?, hs, Option.map_some]
  | 0, .array _, _, h => h.elim
  | 0, .object _, _, h => h.elim
  | depth + 1, .array _, _, h => by
    obtain ⟨vs, hvs, rfl⟩ := h
    rw [Tree.value?, mapM_eq_some_iff.mpr (hvs.imp fun _ _ => Denotes.value? hR), Option.map_some]
  | depth + 1, .object _, _, h => by
    obtain ⟨vs, hvs, rfl⟩ := h
    rw [Tree.value?, mapM_eq_some_iff.mpr, Option.map_some]
    exact hvs.imp fun m n hn => by simp [hn.1, Denotes.value? hR hn.2]

/-- Trees of items denote the array of what they denote. -/
theorem denotes_array {α : Type} (depth : Nat) {f : α → Tree} {g : α → Value} {xs : List α}
    (h : ∀ x ∈ xs, Denotes R depth (f x) (g x)) :
    Denotes R (depth + 1) (.array (xs.map f)) (.array (xs.map g)) := by
  refine ⟨xs.map g, ?_, rfl⟩
  rw [List.forall₂_map_left_iff, List.forall₂_map_right_iff, List.forall₂_same]
  exact h

/-- A text is read as it is. -/
theorem textOf?_encode (s : String) : textOf? (encode s.toList) = some s := by
  rw [textOf?, decode?_encode, Option.map_some, String.ofList_toList]

/-- A written string denotes its text. -/
theorem denotes_ofString (depth : Nat) (s : String) : Denotes R depth (.ofString s) (.string s) :=
  denotes_string.mpr ⟨s, textOf?_encode s, rfl⟩

/-- A written float denotes its value. -/
theorem denotes_ofFloat (depth : Nat) {x : Float} (h : x.isFinite = true)
    (hR : R (.ofFloat x) x) : Denotes R depth (.ofFloat x) (.number (.real x)) := by
  rw [Tree.ofFloat, if_pos h]
  exact denotes_number.mpr ⟨x, hR, rfl⟩

/-- Of different keys all members are kept. -/
theorem lastOfEach_of_nodup {α : Type} {ms : List (String × α)} (h : (ms.map Prod.fst).Nodup) :
    lastOfEach ms = ms := by
  induction ms with
  | nil => rfl
  | cons m ms ih =>
    obtain ⟨hm, hms⟩ := List.nodup_cons.mp h
    rw [lastOfEach, if_neg (by simpa using hm), ih hms]

/-- An object whose keys are different denotes all of its members. -/
theorem denotes_record {depth : Nat} {members : List (String × Tree)}
    {named : List (String × Value)}
    (h : List.Forall₂ (fun m n => m.1 = n.1 ∧ Denotes R depth m.2 n.2) members named)
    (hnodup : (named.map Prod.fst).Nodup) :
    Denotes R (depth + 1) (Tree.record members) (.object named) := by
  refine ⟨named, ?_, by rw [lastOfEach_of_nodup hnodup]⟩
  rw [List.forall₂_map_left_iff]
  exact h.imp fun m n hn => ⟨hn.1 ▸ textOf?_encode m.1, hn.2⟩

end

/-- A float is written by the grammar. -/
theorem printable_ofFloat {x : Float} (h : x.isFinite = true) : (Tree.ofFloat x).Printable := by
  rw [Tree.ofFloat, if_pos h]
  exact .number (writesNumber_ofFloat h)

end Json

namespace Listing

open Decimal (Literal rounds_ofFloat divide)
open Json (Tree Value Denotes denotes_ofString denotes_ofFloat denotes_record denotes_array
  printable_ofString printable_ofFloat printable_record ofText?_layout maxDepth)

/-- What JSON says of a row of the hours table. -/
def rowValue (r : Schedule.Row) : Value :=
  .object [("day", .string r.label), ("hours", .string r.hours)]

/-- What JSON says of a view. -/
def viewValue (v : View) : Value :=
  .object [
    ("name", .string v.agency.name),
    ("address", .string v.agency.address),
    ("postal_code", .string v.agency.postalCode),
    ("city", .string v.agency.city),
    ("phone", .string v.agency.phone),
    ("fax", .string v.agency.fax),
    ("latitude", .number (.real v.agency.latitude)),
    ("longitude", .number (.real v.agency.longitude)),
    ("is_open", .bool v.isOpen),
    ("status", .string v.evaluation.state.label),
    ("next", .string v.evaluation.next.text),
    ("schedule", .array (v.rows.map rowValue))]

theorem printable_rowTree (r : Schedule.Row) : (rowTree r).Printable := by
  refine printable_record ?_
  simp [printable_ofString]

/-- The tree of a row denotes the row. -/
theorem denotes_rowTree {R : Literal → Float → Prop} (depth : Nat) (r : Schedule.Row) :
    Denotes R (depth + 1) (rowTree r) (rowValue r) :=
  denotes_record
    (.cons ⟨rfl, denotes_ofString _ _⟩ (.cons ⟨rfl, denotes_ofString _ _⟩ .nil))
    (by decide : ["day", "hours"].Nodup)

section

/-! A view whose coordinates are finite. -/

variable {v : View}
  (hfinite : v.agency.latitude.isFinite = true ∧ v.agency.longitude.isFinite = true)
include hfinite

/-- The tree of a view is written by the grammar. -/
theorem printable_viewTree : (viewTree v).Printable := by
  have hrows : (Tree.array (v.rows.map rowTree)).Printable := by
    refine .array ?_
    simp only [List.forall_mem_map]
    exact fun r _ => printable_rowTree r
  refine printable_record ?_
  simp [printable_ofString, printable_ofFloat hfinite.1, printable_ofFloat hfinite.2, hrows,
    Tree.Printable.bool]

/-- The tree of a view denotes the view. -/
theorem denotes_viewTree {R : Literal → Float → Prop} (depth : Nat)
    (hR : R (.ofFloat v.agency.latitude) v.agency.latitude ∧
      R (.ofFloat v.agency.longitude) v.agency.longitude) :
    Denotes R (depth + 3) (viewTree v) (viewValue v) := by
  have hrows : Denotes R (depth + 2) (.array (v.rows.map rowTree)) (.array (v.rows.map rowValue)) :=
    denotes_array (depth + 1) fun r _ => denotes_rowTree depth r
  refine denotes_record ?_ (by decide : ["name", "address", "postal_code", "city", "phone", "fax",
    "latitude", "longitude", "is_open", "status", "next", "schedule"].Nodup)
  simp [denotes_ofString, denotes_ofFloat _ hfinite.1 hR.1, denotes_ofFloat _ hfinite.2 hR.2,
    hrows, Json.denotes_bool]

end

/-- What is found are views of the agencies. -/
theorem agency_mem_of_mem_search {agencies : List Feed.Agency} {now : Moment} {query : String}
    {v : View} (hv : v ∈ search query (agencies.map (View.ofAgency now))) :
    v.agency ∈ agencies := by
  obtain ⟨a, ha, rfl⟩ := List.mem_map.mp (List.mem_of_mem_filter hv)
  exact ha

/-- **The JSON listing loses nothing.** For all agencies with finite coordinates, at every moment
and for every search text, the listing is read as a tree that denotes an array with one object for
every view found, in order, and nothing else: every number stands for the coordinate that it was
written of. The values that the program itself takes from the tree are the same, wherever it reads
the digits of the coordinates back. -/
theorem renderJson_denotes (agencies : List Feed.Agency) (now : Moment) (query : String)
    (hfinite : ∀ a ∈ agencies, a.latitude.isFinite = true ∧ a.longitude.isFinite = true) :
    ∃ t, Tree.ofText?
        (renderJson (search query (agencies.map (View.ofAgency now)))).toList = some t ∧
      (∀ value, Denotes Literal.Rounds maxDepth t value ↔
        value = .array ((search query (agencies.map (View.ofAgency now))).map viewValue)) ∧
      ((∀ a ∈ agencies, (Literal.ofFloat a.latitude).number? = some (.real a.latitude) ∧
          (Literal.ofFloat a.longitude).number? = some (.real a.longitude)) →
        t.value? maxDepth =
          some (.array ((search query (agencies.map (View.ofAgency now))).map viewValue))) := by
  have hmem : ∀ v ∈ search query (agencies.map (View.ofAgency now)), v.agency ∈ agencies :=
    fun _ => agency_mem_of_mem_search
  generalize search query (agencies.map (View.ofAgency now)) = views at hmem
  have hdenotes : ∀ {R : Literal → Float → Prop},
      (∀ v ∈ views, R (.ofFloat v.agency.latitude) v.agency.latitude ∧
        R (.ofFloat v.agency.longitude) v.agency.longitude) →
      Denotes R maxDepth (.array (views.map viewTree)) (.array (views.map viewValue)) := by
    intro R hR
    refine denotes_array 126 fun v hv => ?_
    exact denotes_viewTree (hfinite v.agency (hmem v hv)) 123 (hR v hv)
  have hrounds : Denotes Literal.Rounds maxDepth (.array (views.map viewTree))
      (.array (views.map viewValue)) := by
    refine hdenotes fun v hv => ?_
    have hv := hfinite v.agency (hmem v hv)
    exact ⟨rounds_ofFloat hv.1, rounds_ofFloat hv.2⟩
  refine ⟨.array (views.map viewTree), ?_, fun value => ⟨fun h => ?_, ?_⟩, fun hread => ?_⟩
  · rw [renderJson, String.toList_ofList]
    refine ofText?_layout (.array ?_)
    simp only [List.forall_mem_map]
    exact fun v hv => printable_viewTree (hfinite v.agency (hmem v hv))
  · have hunique : Relator.RightUnique Literal.Rounds := fun _ _ _ => Literal.Rounds.unique
    exact h.unique hunique hrounds
  · rintro rfl
    exact hrounds
  · exact Denotes.value? id (hdenotes fun v hv => hread v.agency (hmem v hv))

/-- An agency with quotes and a tab in its texts. -/
def annex : Feed.Agency where
  name := "Annexe \"Nord\""
  address := "1 rue\tdu Port"
  postalCode := "98800"
  city := "Nouméa"
  phone := ""
  fax := ""
  latitude := -22.25
  longitude := 166.5
  schedule := "LU : 8h-12h"

theorem number?_annex_latitude :
    (Literal.ofFloat annex.latitude).number? = some (.real annex.latitude) := by
  have hliteral : Literal.ofFloat annex.latitude = ⟨true, ['2', '2'], ['2', '5'], none⟩ := by
    decide +kernel
  have hquotient : -divide (Float.ofNat 2225) 2 = annex.latitude := by decide +kernel
  rw [hliteral, ← hquotient]
  rfl

theorem number?_annex_longitude :
    (Literal.ofFloat annex.longitude).number? = some (.real annex.longitude) := by
  have hliteral : Literal.ofFloat annex.longitude = ⟨false, ['1', '6', '6'], ['5'], none⟩ := by
    decide +kernel
  have hquotient : divide (Float.ofNat 1665) 1 = annex.longitude := by decide +kernel
  rw [hliteral, ← hquotient]
  rfl

/-- The listing of one agency is read as the one view. -/
theorem renderJson_denotes_annex :
    (annex.latitude.isFinite = true ∧ annex.longitude.isFinite = true) ∧
      ∃ t, Tree.ofText?
          (renderJson (search "" ([annex].map (View.ofAgency ⟨.monday, .midnight⟩)))).toList =
            some t ∧
        t.value? maxDepth =
          some (.array [viewValue (View.ofAgency ⟨.monday, .midnight⟩ annex)]) := by
  have hfinite : annex.latitude.isFinite = true ∧ annex.longitude.isFinite = true := by
    decide +kernel
  have hall : ∀ a ∈ [annex], a.latitude.isFinite = true ∧ a.longitude.isFinite = true :=
    List.forall_mem_singleton.mpr hfinite
  obtain ⟨t, htree, -, hvalue⟩ := renderJson_denotes [annex] ⟨.monday, .midnight⟩ "" hall
  refine ⟨hfinite, t, htree, ?_⟩
  exact hvalue (List.forall_mem_singleton.mpr ⟨number?_annex_latitude, number?_annex_longitude⟩)

end Listing

end OpeningHours
