import OpeningHours.Proofs.HoursShapes
import OpeningHours.Proofs.TreeValue

/-!
# OpeningHours — spellings of a record

A record is the same record in every spelling. An object may give a field under any of its names,
leave it out if the field has a value of its own for that, and hold the fields in any order and
among members that belong to no field; an array gives the fields in their order. What an object must
not do is to give one field under two of its names. Then it is no record, and the feature that holds
it is passed over.

* `Json.SpellsRecord`         — the members of an object give these values for the fields of a
  record.
* `Json.GivesTwice`           — they give one field under two names.
* `Schedule.DayRecord.Gives`  — what may be given for the fields of a day's record.

## Results

* `Json.fields?_of_spellsRecord`  — the values that an object gives are read, in every spelling.
* `Json.fields?_of_givesTwice`    — no values are read if a field is given twice.
* `Schedule.DayRecord.ofValue?_of_gives` — a day's record is read from what is given for its fields.
* `Feed.record_of_any_spelling`   — every spelling gives the record; two names for a field give
  none.
-/

namespace OpeningHours

namespace Json

-- ---------------------------------------------------------------------------
-- Members that share a key
-- ---------------------------------------------------------------------------

section

variable {α : Type}

/-- Which of the members with one key is kept does not depend on the other keys. -/
theorem filter_lastOfEach (p : String → Bool) (ms : List (String × α)) :
    ((lastOfEach ms).filter fun m => p m.1) = lastOfEach (ms.filter fun m => p m.1) := by
  induction ms with
  | nil => rfl
  | cons m ms ih =>
    by_cases hp : p m.1 = true
    · -- a later member with this key is kept by the condition as well
      have hlater : ((ms.filter fun n => p n.1).map Prod.fst).contains m.1 =
          (ms.map Prod.fst).contains m.1 := by
        rw [Bool.eq_iff_iff, List.contains_iff_mem, List.contains_iff_mem, List.mem_map,
          List.mem_map]
        constructor
        · rintro ⟨n, hn, hkey⟩
          exact ⟨n, List.mem_of_mem_filter hn, hkey⟩
        · rintro ⟨n, hn, hkey⟩
          exact ⟨n, List.mem_filter.mpr ⟨hn, by rw [hkey]; exact hp⟩, hkey⟩
      simp only [List.filter_cons, if_pos hp, lastOfEach, hlater]
      split
      · exact ih
      · simp only [List.filter_cons, if_pos hp, ih]
    · simp only [List.filter_cons, if_neg hp, lastOfEach]
      split
      · exact ih
      · simp only [List.filter_cons, if_neg hp, ih]

/-- No key is lost. -/
theorem exists_mem_lastOfEach {ms : List (String × α)} {m : String × α} (h : m ∈ ms) :
    ∃ n ∈ lastOfEach ms, n.1 = m.1 := by
  induction ms generalizing m with
  | nil => simp at h
  | cons k ms ih =>
    rw [lastOfEach]
    split
    · rename_i hlater
      rcases List.mem_cons.mp h with rfl | h
      · obtain ⟨n, hn, hkey⟩ := List.mem_map.mp (List.contains_iff_mem.mp hlater)
        obtain ⟨last, hlast, hkey'⟩ := ih hn
        exact ⟨last, hlast, hkey'.trans hkey⟩
      · exact ih h
    · rcases List.mem_cons.mp h with rfl | h
      · exact ⟨m, .head _, rfl⟩
      · obtain ⟨n, hn, hkey⟩ := ih h
        exact ⟨n, .tail _ hn, hkey⟩

end

-- ---------------------------------------------------------------------------
-- Objects
-- ---------------------------------------------------------------------------

/-- The object that members give as they are written: of those with one key the last one counts. -/
def objectOf (members : List (String × Value)) : Value :=
  .object (lastOfEach members)

/-- Members that give values for fields in their order, each under one of the field's names; a field
without a value is left out. -/
inductive Spelled : List (List String) → List (Option Value) → List (String × Value) → Prop
  | nil : Spelled [] [] []
  | leftOut {fields : List (List String)} {values : List (Option Value)}
      {ms : List (String × Value)} (names : List String) (h : Spelled fields values ms) :
      Spelled (names :: fields) (none :: values) ms
  | given {fields : List (List String)} {values : List (Option Value)}
      {ms : List (String × Value)} {names : List String} {name : String} (hname : name ∈ names)
      (v : Value) (h : Spelled fields values ms) :
      Spelled (names :: fields) (some v :: values) ((name, v) :: ms)

/-- The members give values for the fields of a record, in any order and among members whose names
belong to no field. -/
def SpellsRecord (fields : List (List String)) (values : List (Option Value))
    (members : List (String × Value)) : Prop :=
  ∃ ms others, Spelled fields values ms ∧ members.Perm (ms ++ others) ∧
    ∀ m ∈ others, ∀ names ∈ fields, m.1 ∉ names

/-- The members give one field under two of its names. -/
def GivesTwice (fields : List (List String)) (members : List (String × Value)) : Prop :=
  ∃ names ∈ fields, ∃ m ∈ members, ∃ n ∈ members, m.1 ∈ names ∧ n.1 ∈ names ∧ m.1 ≠ n.1

/-- The members of a field. -/
def membersOf (members : List (String × Value)) (names : List String) : List (String × Value) :=
  members.filter fun m => names.contains m.1

/-- The members give this for one field: its value under some name, or nothing. -/
inductive GivenAs (members : List (String × Value)) (names : List String) : Option Value → Prop
  | leftOut (h : membersOf members names = []) : GivenAs members names none
  | given {name : String} {v : Value} (h : membersOf members names = [(name, v)]) :
      GivenAs members names (some v)

section

variable {members : List (String × Value)} {names : List String}

theorem membersOf_eq_nil_iff : membersOf members names = [] ↔ ∀ m ∈ members, m.1 ∉ names := by
  simp [membersOf, List.filter_eq_nil_iff]

theorem membersOf_cons_of_mem {m : String × Value} (h : m.1 ∈ names) :
    membersOf (m :: members) names = m :: membersOf members names :=
  List.filter_cons_of_pos (List.contains_iff_mem.mpr h)

theorem membersOf_cons_of_not_mem {m : String × Value} (h : m.1 ∉ names) :
    membersOf (m :: members) names = membersOf members names :=
  List.filter_cons_of_neg (mt List.contains_iff_mem.mp h)

/-- Only the members under a field's names count for it. -/
theorem GivenAs.congr {members' : List (String × Value)} {value : Option Value}
    (h : GivenAs members names value)
    (heq : (membersOf members' names).Perm (membersOf members names)) :
    GivenAs members' names value := by
  cases h with
  | leftOut h => exact .leftOut (List.perm_nil.mp (h ▸ heq))
  | given h => exact .given (List.perm_singleton.mp (h ▸ heq))

/-- A field is still given when of each key the last member is kept. -/
theorem GivenAs.lastOfEach {value : Option Value} (h : GivenAs members names value) :
    GivenAs (lastOfEach members) names value := by
  have hfilter := filter_lastOfEach (fun key => names.contains key) members
  refine h.congr (List.Perm.of_eq (hfilter.trans ?_))
  -- one member at most is the last one of its key
  cases h with
  | leftOut h => exact (congrArg _ h).trans h.symm
  | given h => exact (congrArg _ h).trans h.symm

/-- A field that is given once is found. -/
theorem GivenAs.fieldOf?_eq {value : Option Value} (h : GivenAs members names value) :
    fieldOf? members names = some value := by
  cases h with
  | leftOut h =>
    rw [membersOf] at h
    rw [fieldOf?, h]
  | given h =>
    rw [membersOf] at h
    rw [fieldOf?, h]

/-- A field that is given under two names is none. -/
theorem fieldOf?_eq_none {m n : String × Value} (hm : m ∈ members) (hn : n ∈ members)
    (hmname : m.1 ∈ names) (hnname : n.1 ∈ names) (hne : m.1 ≠ n.1) :
    fieldOf? members names = none := by
  have hm : m ∈ membersOf members names := by simp [membersOf, hm, hmname]
  have hn : n ∈ membersOf members names := by simp [membersOf, hn, hnname]
  rw [membersOf] at hm hn
  rw [fieldOf?]
  split
  · rename_i h
    rw [h] at hm
    simp at hm
  · rename_i only h
    rw [h, List.mem_singleton] at hm hn
    exact absurd (congrArg Prod.fst (hm.trans hn.symm)) hne
  · rfl

end

section

variable {fields : List (List String)} {values : List (Option Value)}
  {ms members : List (String × Value)}

/-- Every member of a spelled record is under a name of a field. -/
theorem Spelled.exists_names (h : Spelled fields values ms) :
    ∀ m ∈ ms, ∃ names ∈ fields, m.1 ∈ names := by
  induction h with
  | nil => simp
  | leftOut names _ ih =>
    intro m hm
    obtain ⟨found, hfound, hname⟩ := ih m hm
    exact ⟨found, .tail _ hfound, hname⟩
  | given hname v _ ih =>
    intro m hm
    rcases List.mem_cons.mp hm with rfl | hm
    · exact ⟨_, .head _, hname⟩
    · obtain ⟨found, hfound, hname⟩ := ih m hm
      exact ⟨found, .tail _ hfound, hname⟩

/-- No member of the other fields has a name that is none of theirs. -/
theorem Spelled.membersOf_eq_nil (h : Spelled fields values ms) {names : List String}
    (hdisjoint : ∀ others ∈ fields, names.Disjoint others) : membersOf ms names = [] := by
  rw [membersOf_eq_nil_iff]
  intro m hm hname
  obtain ⟨others, hothers, hname'⟩ := h.exists_names m hm
  exact hdisjoint others hothers hname hname'

/-- Each field is given its own value, since no two fields share a name. -/
theorem Spelled.givenAs (h : Spelled fields values ms) (hdisjoint : fields.Pairwise List.Disjoint) :
    List.Forall₂ (GivenAs ms) fields values := by
  induction h with
  | nil => exact .nil
  | leftOut names h ih =>
    obtain ⟨hnames, hdisjoint⟩ := List.pairwise_cons.mp hdisjoint
    exact .cons (.leftOut (h.membersOf_eq_nil hnames)) (ih hdisjoint)
  | @given fields values ms names name hname v h ih =>
    obtain ⟨hnames, hdisjoint⟩ := List.pairwise_cons.mp hdisjoint
    have hhead : membersOf ((name, v) :: ms) names = [(name, v)] := by
      rw [membersOf_cons_of_mem hname, h.membersOf_eq_nil hnames]
    refine .cons (.given hhead) ?_
    rw [List.forall₂_iff_zip] at ih ⊢
    refine ⟨(ih hdisjoint).1, fun {others value} hmem => ?_⟩
    -- the first member has no name of a later field
    have hother : name ∉ others := hnames others (List.of_mem_zip hmem).1 hname
    exact ((ih hdisjoint).2 hmem).congr (List.Perm.of_eq (membersOf_cons_of_not_mem hother))

/-- The values that an object gives are read, in every spelling. -/
theorem fields?_of_spellsRecord (hdisjoint : fields.Pairwise List.Disjoint)
    (h : SpellsRecord fields values members) (least : Nat) :
    (objectOf members).fields? least fields = some values := by
  obtain ⟨ms, others, hspelled, hperm, hothers⟩ := h
  rw [objectOf, Value.fields?, mapM_eq_some_iff]
  have hgiven := hspelled.givenAs hdisjoint
  rw [List.forall₂_iff_zip] at hgiven ⊢
  refine ⟨hgiven.1, fun {names value} hmem => ?_⟩
  have hnone : membersOf others names = [] :=
    membersOf_eq_nil_iff.mpr fun m hm => hothers m hm names (List.of_mem_zip hmem).1
  have hmembers : (membersOf members names).Perm (membersOf ms names) := by
    have hfilter := hperm.filter fun m => names.contains m.1
    rw [List.filter_append] at hfilter
    rw [membersOf] at hnone
    rwa [hnone, List.append_nil] at hfilter
  exact ((hgiven.2 hmem).congr hmembers).lastOfEach.fieldOf?_eq

/-- No values are read if a field is given twice. -/
theorem fields?_of_givesTwice (h : GivesTwice fields members) (least : Nat) :
    (objectOf members).fields? least fields = none := by
  obtain ⟨names, hnames, m, hm, n, hn, hmname, hnname, hne⟩ := h
  obtain ⟨m', hm', hmkey⟩ := exists_mem_lastOfEach hm
  obtain ⟨n', hn', hnkey⟩ := exists_mem_lastOfEach hn
  rw [objectOf, Value.fields?, mapM_eq_none_iff]
  refine ⟨names, hnames, fieldOf?_eq_none hm' hn' ?_ ?_ ?_⟩
  · rwa [hmkey]
  · rwa [hnkey]
  · rwa [hmkey, hnkey]

/-- An array gives all fields in their order. -/
theorem fields?_of_array {items : List Value} {least : Nat} (hlength : items.length = fields.length)
    (hleast : least ≤ fields.length) :
    (Value.array items).fields? least fields = some (items.map some) := by
  rw [Value.fields?, if_pos ⟨hlength ▸ hleast, Nat.le_of_eq hlength⟩, hlength, Nat.sub_self,
    List.replicate_zero, List.append_nil]

end

end Json

namespace Schedule

open Json (Value)

namespace DayRecord

-- ---------------------------------------------------------------------------
-- Records of days
-- ---------------------------------------------------------------------------

/-- What may be given for the day of a record: a text, or nothing for the empty one. -/
inductive GivesDay : String → Option Value → Prop
  | leftOut : GivesDay "" none
  | text (s : String) : GivesDay s (some (.string s))

/-- What may be given for a boundary: an integer of one word, a text, and for an absent boundary
null or nothing. -/
inductive GivesBoundary : Option Boundary → Option Value → Prop
  | leftOut : GivesBoundary none none
  | null : GivesBoundary none (some .null)
  | millis {ms : Int} (h : Decimal.fitsSigned ms = true) :
      GivesBoundary (some (.millis ms)) (some (.number (.integer ms)))
  | text (s : String) : GivesBoundary (some (.text s)) (some (.string s))

/-- What may be given for the fields of a day's record, in their order. -/
inductive Gives (r : DayRecord) : List (Option Value) → Prop
  | mk {day firstStart firstStop secondStart secondStop : Option Value} (hday : GivesDay r.day day)
      (hfirstStart : GivesBoundary r.firstStart firstStart)
      (hfirstStop : GivesBoundary r.firstStop firstStop)
      (hsecondStart : GivesBoundary r.secondStart secondStart)
      (hsecondStop : GivesBoundary r.secondStop secondStop) :
      Gives r [day, firstStart, firstStop, secondStart, secondStop]

/-- A day that is given is read. -/
theorem GivesDay.day?_eq {s : String} {field : Option Value} (h : GivesDay s field) :
    day? field = some s := by
  cases h <;> rfl

/-- A boundary that is given, or left out, is read. -/
theorem GivesBoundary.optional?_eq {b : Option Boundary} {field : Option Value}
    (h : GivesBoundary b field) : Json.optional? Boundary.ofValue? field = some b := by
  cases h with
  | leftOut => rfl
  | null => rfl
  | text s => rfl
  | millis h => simp [Json.optional?, Boundary.ofValue?, h]

/-- A day's record is read from what is given for its fields. -/
theorem ofValue?_of_gives {r : DayRecord} {values : List (Option Value)} (h : Gives r values)
    {v : Value} (hv : v.fields? 0 fieldNames = some values) : ofValue? v = some r := by
  cases h with
  | mk hday hfirstStart hfirstStop hsecondStart hsecondStop =>
    simp only [ofValue?, hv, Option.bind_eq_bind, Option.bind_some, hday.day?_eq,
      hfirstStart.optional?_eq, hfirstStop.optional?_eq, hsecondStart.optional?_eq,
      hsecondStop.optional?_eq]

/-- No two fields share a name. -/
theorem disjoint_fieldNames : fieldNames.Pairwise List.Disjoint := by
  simp [fieldNames]

/-- An object that gives a field twice is no record. -/
theorem ofValue?_of_givesTwice {members : List (String × Value)}
    (h : Json.GivesTwice fieldNames members) : ofValue? (Json.objectOf members) = none := by
  rw [ofValue?, Json.fields?_of_givesTwice h]
  rfl

end DayRecord

end Schedule

namespace Feed

open Json (Value objectOf SpellsRecord GivesTwice optional?)
open Schedule (DayRecord)

-- ---------------------------------------------------------------------------
-- Features with records
-- ---------------------------------------------------------------------------

/-- A feature with something among its records that is none is no feature. -/
theorem ofValue?_of_bad_record {v record : Value} {geometry text : Option Value}
    {about : List (Option Value)} {items : List Value}
    (hv : GivesHours v geometry about text (some (.array items))) (hmem : record ∈ items)
    (hrecord : DayRecord.ofValue? record = none) : Feature.ofValue? v = none := by
  have hrecords : optional? recordsOf? (some (.array items)) = none := by
    rw [optional?, recordsOf?, Json.mapM_eq_none_iff.mpr ⟨record, hmem, hrecord⟩]
    · rfl
    · simp
  obtain ⟨habout, properties, hv, hfields⟩ := hv
  match about, habout with
  | [name, address, postalCode, city, phone, fax], _ =>
    simp only [List.cons_append, List.nil_append] at hfields
    have hproperties : Properties.ofValue? properties = none := by
      simp only [Properties.ofValue?, hfields, hrecords, Option.bind_eq_bind, Option.bind_some,
        Option.bind_none, Option.bind_fun_none]
    simp only [Feature.ofValue?, hv, propertiesOf?, hproperties, Option.bind_eq_bind,
      Option.bind_some, Option.bind_none, Option.bind_fun_none]

/-- **A record means the same however it is spelled.** An object gives it with each field under any
of its names or left out where that has a meaning, in any order and among other members, and so does
the array of its fields. An object with one field under two names is no record, and its feature is
passed over with a warning, while all other features keep their agencies. -/
theorem record_of_any_spelling :
    (∀ (r : DayRecord) (values : List (Option Value)), r.Gives values →
      (∀ members, SpellsRecord DayRecord.fieldNames values members →
        DayRecord.ofValue? (objectOf members) = some r) ∧
      ∀ items, items.map some = values → DayRecord.ofValue? (.array items) = some r) ∧
    ∀ members, GivesTwice DayRecord.fieldNames members →
      DayRecord.ofValue? (objectOf members) = none ∧
      ∀ v geometry about text items, GivesHours v geometry about text (some (.array items)) →
        objectOf members ∈ items →
        ∀ words zone,
          (∀ position, readOne words zone position v =
            (none, [skipEntry position v (.malformed (words.badFeature v))])) ∧
          ∀ front back, (readAll words zone (front ++ v :: back)).1 =
            (readAll words zone front).1 ++ (readAll words zone back).1 := by
  refine ⟨fun r values hgives => ⟨?_, ?_⟩, fun members htwice => ?_⟩
  · intro members hspells
    exact DayRecord.ofValue?_of_gives hgives
      (Json.fields?_of_spellsRecord DayRecord.disjoint_fieldNames hspells 0)
  · rintro items rfl
    have hlength : items.length = DayRecord.fieldNames.length := by
      generalize hvalues : items.map some = values at hgives
      cases hgives
      rw [← List.length_map, hvalues]
      rfl
    exact DayRecord.ofValue?_of_gives hgives (Json.fields?_of_array hlength (Nat.zero_le _))
  · have hrecord := DayRecord.ofValue?_of_givesTwice htwice
    refine ⟨hrecord, fun v geometry about text items hv hmem words zone => ?_⟩
    have hfeature := ofValue?_of_bad_record hv hmem hrecord
    have hnone : agencyOf? zone v = none := by rw [agencyOf?, hfeature]; rfl
    refine ⟨fun position => ?_, fun front back => ?_⟩
    · rw [readOne, agencyOfValue, hfeature]
    · rw [agencies_readAll_append, agencies_readAll_cons, hnone, Option.toList_none,
        List.nil_append]

/-- Names of three kinds in reversed order, with null for a boundary, another one left out and a
member that belongs to no field. -/
theorem record_of_any_spelling_reversed :
    let r : DayRecord := ⟨"MA", some (.text "07:30"), none, none, some (.millis 1714975200000)⟩
    let values : List (Option Value) := [some (.string "MA"), some (.string "07:30"), some .null,
      none, some (.number (.integer 1714975200000))]
    let members : List (String × Value) := [("COMMENTAIRE", .bool true),
      ("FIN_APRES_MIDI", .number (.integer 1714975200000)), ("first_end", .null),
      ("debut_matin", .string "07:30"), ("JOUR", .string "MA")]
    r.Gives values ∧ SpellsRecord DayRecord.fieldNames values members ∧
      DayRecord.ofValue? (objectOf members) = some r := by
  intro r values members
  have hgives : r.Gives values := .mk (.text _) (.text _) .null .leftOut (.millis (by decide))
  have hspelled : Json.Spelled DayRecord.fieldNames values [("JOUR", .string "MA"),
      ("debut_matin", .string "07:30"), ("first_end", .null),
      ("FIN_APRES_MIDI", .number (.integer 1714975200000))] :=
    .given (by decide) _ (.given (by decide) _ (.given (by decide) _ (.leftOut _
      (.given (by decide) _ .nil))))
  have hspells : SpellsRecord DayRecord.fieldNames values members := by
    refine ⟨_, [("COMMENTAIRE", .bool true)], hspelled,
      List.perm_reverse.mp (List.Perm.of_eq rfl), ?_⟩
    simp [DayRecord.fieldNames]
  exact ⟨hgives, hspells, (record_of_any_spelling.1 r values hgives).1 members hspells⟩

end Feed

end OpeningHours
