import Mathlib.Data.List.Forall2
import OpeningHours.Feed.Directory
import OpeningHours.Proofs.JournalFile

/-!
# OpeningHours — one bad feature touches no other

A feed is read feature by feature, and the journal is told of each. What one feature gives depends
on nothing but the feature and its position, so a feature that is no agency can come and go without
the agencies of the others. It is never lost in silence either: it has one warning, and the summary
at the end counts it.

* `agencyOf? zone v` — the agency of a feature, if it has one.
* `Told`             — the entries that one feature gives.
* `Summed`           — the entry at the end.

## Results

* `agencies_readAll`           — the agencies are those of the features, in order.
* `entries_readAll`            — the entries are those of the features, in order, and a summary.
* `readAll_isolated_accounted` — no feature touches another's agency, every feature is accounted
  for, and the journal's file holds what it was told.
-/

namespace OpeningHours.Feed

open Journal (Entry Writer Effects linesOf)
open Json (Value)
open Schedule (DayRecord)

/-- The agency of a value: the value is read as a feature, and the feature as an agency. -/
def agencyOf? (zone : Zone) (v : Value) : Option Agency :=
  (Feature.ofValue? v).bind fun f => (f.agency zone).toOption

/-- The value gives no agency, for this reason. -/
inductive Refused (words : Wording) (zone : Zone) (v : Value) : FeatureError → Prop
  | malformed (hv : Feature.ofValue? v = none) :
      Refused words zone v (.malformed (words.badFeature v))
  | noAgency {f : Feature} {e : FeatureError} (hv : Feature.ofValue? v = some f)
      (hf : f.agency zone = .error e) : Refused words zone v e

/-- The text that stands under the provider's name for an agency's name. -/
def RawName (v : Value) (s : String) : Prop :=
  ∃ properties, v.member? "properties" = some properties ∧
    properties.member? "TEXTE" = some (.string s)

/-- The name that a feature at a position is reported by. -/
inductive ReportedAs (position : Nat) (v : Value) : String → Prop
  | name {s : String} (h : RawName v s) : ReportedAs position v s
  | position (h : ∀ s, ¬ RawName v s) :
      ReportedAs position v ("feature #" ++ Text.decimal position)

/-- What the journal is told of the feature at a position. -/
inductive Told (words : Wording) (zone : Zone) (position : Nat) (v : Value) : List Entry → Prop
  /-- A feature that is no agency is passed over, with one warning. -/
  | skipped {e : FeatureError} {subject : String} (hv : Refused words zone v e)
      (hs : ReportedAs position v subject) : Told words zone position v
        [⟨.warning, .feed, some subject, "Skipping feature: " ++ e.text⟩]
  /-- Records are used if there are any, with one warning for each whose day is not known. -/
  | records {f : Feature} {a : Agency} {records : List DayRecord}
      (hv : Feature.ofValue? v = some f) (hf : f.agency zone = .ok a)
      (hrecords : f.properties.hoursRecords = some records) (hne : records ≠ []) :
      Told words zone position v ((records.filter fun r => r.weekday? = none).map fun r =>
        ⟨.warning, .schedule, none,
          "Skipping structured hours with unknown day '" ++ r.day ++ "'"⟩)
  /-- Without records there is nothing to warn of. -/
  | noRecords {f : Feature} {a : Agency} (hv : Feature.ofValue? v = some f)
      (hf : f.agency zone = .ok a)
      (hrecords : f.properties.hoursRecords = none ∨ f.properties.hoursRecords = some []) :
      Told words zone position v []

/-- The words of the summary over mapped and skipped features. -/
def summaryText (mapped skipped : Nat) : String :=
  "Ingestion complete: " ++ Text.decimal mapped ++ "/" ++ Text.decimal (mapped + skipped) ++
    " agencies mapped, " ++ Text.decimal skipped ++ " skipped"

/-- The entry that closes a reading with so many mapped and skipped features. -/
inductive Summed : (mapped skipped : Nat) → Entry → Prop
  | complete (mapped : Nat) : Summed mapped 0 ⟨.info, .feed, none, summaryText mapped 0⟩
  | nothing {skipped : Nat} (h : 0 < skipped) :
      Summed 0 skipped ⟨.error, .feed, none, summaryText 0 skipped⟩
  | partly {mapped skipped : Nat} (hm : 0 < mapped) (hs : 0 < skipped) :
      Summed mapped skipped ⟨.warning, .feed, none, summaryText mapped skipped⟩

-- ---------------------------------------------------------------------------
-- One feature
-- ---------------------------------------------------------------------------

/-- The name that is computed is the one that the rules give. -/
theorem reportedAs_subjectOf (position : Nat) (v : Value) :
    ReportedAs position v (subjectOf position v) := by
  rw [subjectOf]
  split
  · rename_i s h
    obtain ⟨properties, hproperties, hname⟩ := Option.bind_eq_some_iff.mp h
    exact .name ⟨properties, hproperties, hname⟩
  · rename_i h
    refine .position ?_
    rintro s ⟨properties, hproperties, hname⟩
    exact h s (Option.bind_eq_some_iff.mpr ⟨properties, hproperties, hname⟩)

/-- What is told of a feature with an agency. -/
theorem told_entries {words : Wording} {zone : Zone} {v : Value} {f : Feature} {a : Agency}
    (position : Nat)
    (hv : Feature.ofValue? v = some f) (hf : f.agency zone = .ok a) :
    Told words zone position v f.entries := by
  cases hrecords : f.properties.hoursRecords with
  | none =>
    have hnil : f.entries = [] := by
      rw [Feature.entries, Properties.usedRecords, hrecords]
      rfl
    exact hnil ▸ .noRecords hv hf (.inl hrecords)
  | some records =>
    have hentries : f.entries = Schedule.unknownDayEntries records := by
      rw [Feature.entries, Properties.usedRecords, hrecords]
      rfl
    rw [hentries, Schedule.unknownDayEntries]
    by_cases hne : records = []
    · subst hne
      exact .noRecords hv hf (.inr hrecords)
    · have htold : Told words zone position v _ := .records hv hf hrecords hne
      simp only [← Option.isNone_iff_eq_none, Bool.decide_eq_true] at htold
      exact htold

/-- What one feature gives: its agency, and entries by the rules. -/
theorem readOne_spec (words : Wording) (zone : Zone) (position : Nat) (v : Value) :
    ∃ entries, readOne words zone position v = (agencyOf? zone v, entries) ∧
      Told words zone position v entries := by
  cases hv : Feature.ofValue? v with
  | none =>
    have hnone : agencyOf? zone v = none := by rw [agencyOf?, hv]; rfl
    refine ⟨[skipEntry position v (.malformed (words.badFeature v))], ?_, ?_⟩
    · rw [readOne, agencyOfValue, hv, hnone]
    · exact .skipped (.malformed hv) (reportedAs_subjectOf position v)
  | some f =>
    cases hf : f.agency zone with
    | ok a =>
      have hsome : agencyOf? zone v = some a := by rw [agencyOf?, hv, Option.bind_some, hf]; rfl
      refine ⟨f.entries, ?_, told_entries position hv hf⟩
      simp only [readOne, agencyOfValue, hv, hf, hsome]
    | error e =>
      have hnone : agencyOf? zone v = none := by rw [agencyOf?, hv, Option.bind_some, hf]; rfl
      refine ⟨[skipEntry position v e], ?_, ?_⟩
      · simp only [readOne, agencyOfValue, hv, hf, hnone]
      · exact .skipped (.noAgency hv hf) (reportedAs_subjectOf position v)

-- ---------------------------------------------------------------------------
-- The features of a feed
-- ---------------------------------------------------------------------------

/-- The features from a position on give their agencies, and one group of entries each. -/
theorem readFrom_spec (words : Wording) (zone : Zone) (position : Nat) (vs : List Value) :
    ∃ groups : List (List Entry),
      readFrom words zone position vs = (vs.filterMap (agencyOf? zone), groups.flatten) ∧
      List.Forall₂ (fun (p : Value × Nat) entries => Told words zone p.2 p.1 entries)
        (vs.zipIdx position) groups := by
  induction vs generalizing position with
  | nil => exact ⟨[], rfl, .nil⟩
  | cons v vs ih =>
    obtain ⟨entries, hone, htold⟩ := readOne_spec words zone position v
    obtain ⟨groups, hrest, hgroups⟩ := ih (position + 1)
    refine ⟨entries :: groups, ?_, .cons htold hgroups⟩
    have hagencies : (v :: vs).filterMap (agencyOf? zone) =
        (agencyOf? zone v).toList ++ vs.filterMap (agencyOf? zone) := by
      cases h : agencyOf? zone v <;> simp [h]
    rw [readFrom, hone, hrest, hagencies, List.flatten_cons]

/-- The agencies of a feed are those of its features, in order. -/
theorem agencies_readAll (words : Wording) (zone : Zone) (features : List Value) :
    (readAll words zone features).1 = features.filterMap (agencyOf? zone) := by
  obtain ⟨groups, hread, -⟩ := readFrom_spec words zone 0 features
  rw [readAll, hread]

/-- The agencies of two lists of features are those of both. -/
theorem agencies_readAll_append (words : Wording) (zone : Zone) (front back : List Value) :
    (readAll words zone (front ++ back)).1 =
      (readAll words zone front).1 ++ (readAll words zone back).1 := by
  simp only [agencies_readAll, List.filterMap_append]

/-- A feature in front adds its agency in front, if it has one. -/
theorem agencies_readAll_cons (words : Wording) (zone : Zone) (v : Value) (back : List Value) :
    (readAll words zone (v :: back)).1 =
      (agencyOf? zone v).toList ++ (readAll words zone back).1 := by
  rw [agencies_readAll, agencies_readAll]
  cases h : agencyOf? zone v <;> simp [h]

/-- The summary is the one that the counts call for. -/
theorem summed_summaryEntry (mapped skipped : Nat) :
    Summed mapped skipped (summaryEntry (mapped + skipped) mapped skipped) := by
  rw [summaryEntry]
  by_cases hs : skipped = 0
  · subst hs
    exact .complete mapped
  · have hspos : 0 < skipped := Nat.pos_of_ne_zero hs
    rw [if_neg hs]
    by_cases hm : mapped = 0
    · subst hm
      exact .nothing hspos
    · rw [if_neg hm]
      exact .partly (Nat.pos_of_ne_zero hm) hspos

/-- The entries of a feed are those of its features, in order, and a summary of all of them. -/
theorem entries_readAll (words : Wording) (zone : Zone) (features : List Value) :
    ∃ (groups : List (List Entry)) (summary : Entry) (skipped : Nat),
      (readAll words zone features).2 = groups.flatten ++ [summary] ∧
      List.Forall₂ (fun (p : Value × Nat) entries => Told words zone p.2 p.1 entries)
        features.zipIdx groups ∧
      (readAll words zone features).1.length + skipped = features.length ∧
      Summed (readAll words zone features).1.length skipped summary := by
  obtain ⟨groups, hread, hgroups⟩ := readFrom_spec words zone 0 features
  have hle : (features.filterMap (agencyOf? zone)).length ≤ features.length :=
    List.length_filterMap_le _ _
  have hsum := Nat.add_sub_cancel' hle
  rw [readAll, hread]
  refine ⟨groups, _, features.length - (features.filterMap (agencyOf? zone)).length, rfl,
    hgroups, hsum, ?_⟩
  have hsummed := summed_summaryEntry (features.filterMap (agencyOf? zone)).length
    (features.length - (features.filterMap (agencyOf? zone)).length)
  rwa [hsum] at hsummed

/-- At the least level every entry is admitted. -/
theorem admits_of_debug {w : Writer} (h : w.least = .debug) (e : Entry) : w.admits e = true := by
  rw [Writer.admits, h]
  exact decide_eq_true (Nat.zero_le _)

/-- **One bad feature touches no other, and every feature is accounted for.** The agencies are those
of the features that give one, in order. A feature that gives none can be left out or replaced with
no change to the agencies of the others. The entries are those of the features, in order, followed
by one summary; and a journal that leaves nothing out adds to its file exactly their lines. -/
theorem readAll_isolated_accounted (words : Wording) (zone : Zone) (features : List Value) :
    (readAll words zone features).1 = features.filterMap (agencyOf? zone) ∧
    (∀ front v back, features = front ++ v :: back → agencyOf? zone v = none →
      (readAll words zone features).1 = (readAll words zone (front ++ back)).1 ∧
      (readAll words zone features).1 =
        (readAll words zone front).1 ++ (readAll words zone back).1 ∧
      ∀ v', (readAll words zone (front ++ v' :: back)).1 =
        (readAll words zone front).1 ++ (agencyOf? zone v').toList ++
          (readAll words zone back).1) ∧
    (∃ (groups : List (List Entry)) (summary : Entry) (skipped : Nat),
      (readAll words zone features).2 = groups.flatten ++ [summary] ∧
      List.Forall₂ (fun (p : Value × Nat) entries => Told words zone p.2 p.1 entries)
        features.zipIdx groups ∧
      (readAll words zone features).1.length + skipped = features.length ∧
      Summed (readAll words zone features).1.length skipped summary) ∧
    ∀ (w : Writer) (stamp path : String) (fx : Effects) (content : ByteArray),
      w.least = .debug → w.file = some path → fx.files.Takes path content →
      (w.writeAll stamp fx (readAll words zone features).2).files.Takes path
        (content ++ (linesOf stamp (readAll words zone features).2).toUTF8) := by
  refine ⟨agencies_readAll words zone features, ?_, entries_readAll words zone features, ?_⟩
  · rintro front v back rfl hv
    have hcons := agencies_readAll_cons words zone v back
    rw [hv, Option.toList_none, List.nil_append] at hcons
    refine ⟨?_, ?_, fun v' => ?_⟩
    · rw [agencies_readAll_append, agencies_readAll_append, hcons]
    · rw [agencies_readAll_append, hcons]
    · rw [agencies_readAll_append, agencies_readAll_cons, List.append_assoc]
  · intro w stamp path fx content hleast hfile htakes
    have hadmits :
        (readAll words zone features).2.filter w.admits = (readAll words zone features).2 :=
      List.filter_eq_self.mpr fun e _ => admits_of_debug hleast e
    have hwritten := Writer.takes_writeAll hfile stamp (readAll words zone features).2 htakes
    rwa [hadmits] at hwritten

end OpeningHours.Feed
