import OpeningHours.Proofs.AuditAgreement
import OpeningHours.Proofs.LineIndependence
import OpeningHours.Proofs.PickedTokens

/-!
# OpeningHours — ranges that are passed over

A token that is no range is passed over, and a day is only found unreadable if nothing is left of
its line. So whether an issue is recorded depends on all tokens that are picked from the line
together: one that counts is enough for the day to be open without an issue, whatever was passed
over beside it.

## Results

* `spans_eq_nil_iff`  — nothing is left of a line if no picked token counts.
* `issuesFor_ofText_of_firstLine` — the issues of a day whose line is not marked closed.
* `reported_iff_none_possible`    — when the audit reports a line.
-/

namespace OpeningHours

namespace Schedule

/-- Nothing is left of the hours if no picked token counts. -/
theorem spans_eq_nil_iff {hours : List Char} {picked : List Placed} (h : Picks hours 0 picked) :
    spans hours = [] ↔ ∀ p ∈ picked, ¬ p.token.Possible := by
  obtain ⟨scanned, hscanned, htokens⟩ := exists_picks [] hours 0
  obtain rfl := h.unique hscanned
  have hspans : spans hours = (picked.map Placed.token).filterMap RangeToken.span? := by
    rw [htokens]
    rfl
  rw [hspans, List.filterMap_map, List.filterMap_eq_nil_iff]
  refine forall₂_congr fun p _ => ?_
  rw [← isSome_span?_iff, Function.comp_apply, Option.not_isSome_iff_eq_none]

/-- The issues of a day whose line is not marked closed: none if a span is left of its hours. -/
theorem issuesFor_ofText_of_firstLine {text hours : List Char} {d : Weekday}
    (hline : FirstLine text d hours) (hmark : isClosedMarked hours = false) :
    (Week.ofText text).issuesFor d =
      if spans hours = [] then [.unreadableHours d (String.ofList (Text.trim hours))] else [] := by
  have hblank : Text.trim text ≠ [] := by
    intro hnil
    exact not_hasLine_of_blank hnil d (hasLine_iff.mpr ⟨hours, hline⟩)
  rw [Week.issuesFor_ofText hblank, readDay, findHours_eq_some_iff.mpr hline]
  show (readHours d hours).2.toList = _
  rw [readHours_eq, if_neg (by simp [hmark])]
  split
  · rfl
  · rfl

end Schedule

namespace Audit

open Feed (Agency)
open Schedule

/-- An issue about some day keeps a schedule from being complete. -/
theorem verdict_ne_complete_of_issuesFor {a : Agency} {d : Weekday}
    (h : (Week.ofText a.schedule.toList).issuesFor d ≠ []) :
    (Finding.ofAgency a).verdict ≠ .complete := by
  intro hcomplete
  have hnone : (Week.ofText a.schedule.toList).issues = [] :=
    (verdictOn_eq_complete_iff.mp hcomplete).2
  exact h (by rw [Week.issuesFor, hnone]; rfl)

/-- **When a line is reported.** Of a line that is not marked closed, an issue is recorded exactly
if none of the tokens picked from it counts. It is one issue, it quotes the hours, and the audit
does not find the schedule complete. A token that counts is enough for the day to be open without an
issue, whatever else is passed over, and there is none if no token of the line counts at all. -/
theorem reported_iff_none_possible {a : Agency} {d : Weekday} {hours : List Char}
    (hline : FirstLine a.schedule.toList d hours) (hmark : isClosedMarked hours = false) :
    let w := Week.ofText a.schedule.toList
    ∃ picked, (∀ other, Picks hours 0 other ↔ other = picked) ∧
      (w.issuesFor d ≠ [] ↔ ∀ p ∈ picked, ¬ p.token.Possible) ∧
      (w.issuesFor d ≠ [] →
        w.issuesFor d = [.unreadableHours d (String.ofList (Text.trim hours))] ∧
          (Finding.ofAgency a).verdict ≠ .complete) ∧
      ((∃ p ∈ picked, p.token.Possible) → w.issuesFor d = [] ∧ (w.day d).isOpen = true) ∧
      ((∀ p, IsToken hours p → ¬ p.token.Possible) → w.issuesFor d ≠ []) := by
  intro w
  obtain ⟨picked, hpicks, -⟩ := exists_picks [] hours 0
  have hpicks : Picks hours 0 picked := hpicks
  have hissues := issuesFor_ofText_of_firstLine hline hmark
  have hreported : w.issuesFor d ≠ [] ↔ ∀ p ∈ picked, ¬ p.token.Possible := by
    rw [← spans_eq_nil_iff hpicks, hissues]
    split
    · rename_i hnone
      simp [hnone]
    · rename_i hsome
      simp [hsome]
  refine ⟨picked, ?_, hreported, ?_, ?_, ?_⟩
  · intro other
    constructor
    · exact fun hother => hother.unique hpicks
    · rintro rfl
      exact hpicks
  · intro hissue
    refine ⟨?_, verdict_ne_complete_of_issuesFor hissue⟩
    rw [hissues, if_pos ((spans_eq_nil_iff hpicks).mpr (hreported.mp hissue))]
  · rintro ⟨p, hp, hpossible⟩
    have hsome : spans hours ≠ [] := fun hnone =>
      (spans_eq_nil_iff hpicks).mp hnone p hp hpossible
    have hday := day_eq_opened_iff.mpr
      ⟨hours, findHours_eq_some_iff.mpr hline, hmark, hsome, rfl⟩
    exact ⟨by rw [hissues, if_neg hsome], DaySchedule.isOpen_iff.mpr ⟨_, hday⟩⟩
  · intro hnone
    exact hreported.mpr fun p hp => hnone p (hpicks.isToken p hp)

/-- An agency of which nothing but the schedule matters. -/
def agencyWith (schedule : String) : Agency where
  name := "Annexe"
  address := ""
  postalCode := ""
  city := ""
  phone := ""
  fax := ""
  latitude := -22.25
  longitude := 166.5
  schedule := schedule

/-- An impossible minute is reported, since it is in the only range of its line. -/
theorem reported_iff_none_possible_minute :
    let a := agencyWith "LU:08:00-12:60\nMA:14:00-17:00"
    let hours := "08:00-12:60".toList
    FirstLine a.schedule.toList .monday hours ∧ isClosedMarked hours = false ∧
      (∀ picked, Picks hours 0 picked → ∀ p ∈ picked, ¬ p.token.Possible) ∧
      (Week.ofText a.schedule.toList).issuesFor .monday =
        [.unreadableHours .monday (String.ofList (Text.trim hours))] ∧
      (Finding.ofAgency a).verdict ≠ .complete := by
  intro a hours
  have hline : FirstLine a.schedule.toList .monday hours :=
    findHours_eq_some_iff.mp (by decide +kernel)
  have hmark : isClosedMarked hours = false := by decide +kernel
  have hissue : (Week.ofText a.schedule.toList).issuesFor .monday ≠ [] := by decide +kernel
  obtain ⟨picked, honly, hiff, hreport, -, -⟩ := reported_iff_none_possible hline hmark
  refine ⟨hline, hmark, ?_, hreport hissue⟩
  intro other hother
  rw [(honly other).mp hother]
  exact hiff.mp hissue

/-- The second range of the Monday is none, and the first one is enough. -/
theorem half_dropped_unreported :
    let a := agencyWith ("LU:08:00-12:00/25:00-26:00\nMA:closed\nME:closed\nJE:closed\n" ++
      "VE:closed\nSA:closed\nDI:closed")
    let hours := "08:00-12:00/25:00-26:00".toList
    FirstLine a.schedule.toList .monday hours ∧ isClosedMarked hours = false ∧
      (∃ p, IsToken hours p ∧ ¬ p.token.Possible) ∧
      (Week.ofText a.schedule.toList).issuesFor .monday = [] ∧
      (Finding.ofAgency a).verdict = .complete := by
  intro a hours
  refine ⟨?_, by decide +kernel, ?_, by decide +kernel, by decide +kernel⟩
  · exact findHours_eq_some_iff.mp (by decide +kernel)
  · exact ⟨⟨12, 23, _⟩, isToken_iff.mpr rfl, by decide +kernel⟩

end Audit

end OpeningHours
