import Mathlib.Algebra.GroupWithZero.Nat
import OpeningHours.Journal
import OpeningHours.Proofs.Lines
import OpeningHours.Proofs.PaddedNumbers

/-!
# OpeningHours — entries as lines of a text

An entry is written as it is, with a line feed behind it. A reader of the journal cuts it at line
feeds, so an entry is one line exactly if it holds none, and a text of entries has one line for each
of them and one more for each line feed that an entry holds. The stamp, the level and the source
never hold one: it is up to the subject and the message.

* `endedLines cs` — the lines of a text that a line feed ends.
* `Entry.feeds e` — the line feeds in the subject and the message of an entry.

## Results

* `endedLines_flatMap`         — the lines of texts with a line feed behind each.
* `endedLines_eq_iff`          — they are the texts if no text holds a line feed, and only then.
* `length_endedLines_eq_iff`   — there are as many as texts on the same condition.
* `count_line`                 — the line feeds of a written entry.
-/

namespace OpeningHours

namespace Journal

-- ---------------------------------------------------------------------------
-- Lines of a text
-- ---------------------------------------------------------------------------

/-- The lines of a text that a line feed ends. -/
def endedLines (cs : List Char) : List (List Char) :=
  (Text.pieces '\n' cs).dropLast

/-- The lines of texts with a line feed behind each of them. -/
theorem endedLines_flatMap (texts : List (List Char)) :
    endedLines (texts.flatMap fun t => t ++ ['\n']) = texts.flatMap (Text.pieces '\n') := by
  have hpieces : Text.pieces '\n' (texts.flatMap fun t => t ++ ['\n']) =
      texts.flatMap (Text.pieces '\n') ++ [[]] := by
    induction texts with
    | nil => rfl
    | cons t texts ih =>
      rw [List.flatMap_cons, List.append_assoc, List.singleton_append, Text.pieces_append_cons, ih,
        List.flatMap_cons, List.append_assoc]
  rw [endedLines, hpieces, List.dropLast_concat]

/-- There is a line for each text, and one more for each line feed in it. -/
theorem length_endedLines (texts : List (List Char)) :
    (endedLines (texts.flatMap fun t => t ++ ['\n'])).length =
      texts.length + (texts.map fun t => t.count '\n').sum := by
  rw [endedLines_flatMap]
  induction texts with
  | nil => rfl
  | cons t texts ih =>
    rw [List.flatMap_cons, List.length_append, ih, Text.length_pieces]
    simp only [List.length_cons, List.map_cons, List.sum_cons]
    omega

/-- There are as many lines as texts if no text holds a line feed, and only then. -/
theorem length_endedLines_eq_iff {texts : List (List Char)} :
    (endedLines (texts.flatMap fun t => t ++ ['\n'])).length = texts.length ↔
      ∀ t ∈ texts, '\n' ∉ t := by
  rw [length_endedLines, Nat.add_eq_left, List.sum_eq_zero_iff_forall_eq_nat]
  simp [List.count_eq_zero]

/-- The lines are the texts on the same condition. -/
theorem endedLines_eq_iff {texts : List (List Char)} :
    endedLines (texts.flatMap fun t => t ++ ['\n']) = texts ↔ ∀ t ∈ texts, '\n' ∉ t := by
  constructor
  · intro h
    exact length_endedLines_eq_iff.mp (congrArg List.length h)
  · intro h
    rw [endedLines_flatMap]
    induction texts with
    | nil => rfl
    | cons t texts ih =>
      obtain ⟨ht, htexts⟩ := List.forall_mem_cons.mp h
      rw [List.flatMap_cons, ih htexts, Text.pieces_of_not_mem ht]
      rfl

end Journal

-- ---------------------------------------------------------------------------
-- Stamps
-- ---------------------------------------------------------------------------

theorem Text.AllDigits.feed_not_mem {cs : List Char} (h : AllDigits cs) : '\n' ∉ cs := by
  intro hfeed
  have hdigit := h '\n' hfeed
  simp at hdigit

namespace Calendar

theorem feed_not_mem_padded (width n : Nat) : '\n' ∉ (padded width n).toList :=
  (allDigits_padded width n).feed_not_mem

/-- A stamp stays on one line. -/
theorem feed_not_mem_stamp (now : Instant) : '\n' ∉ (stamp now).toList := by
  have hyear : ∀ y, '\n' ∉ (yearText y).toList := by
    intro y
    unfold yearText
    split
    · simp [feed_not_mem_padded]
    · split
      · simp [feed_not_mem_padded]
      · exact feed_not_mem_padded 4 _
  simp [stamp, dateText, clockText, hyear, feed_not_mem_padded]

end Calendar

namespace Journal

-- ---------------------------------------------------------------------------
-- Line feeds of an entry
-- ---------------------------------------------------------------------------

/-- The line feeds in the subject and in the message of an entry. -/
def Entry.feeds (e : Entry) : Nat :=
  (e.subject.getD "").toList.count '\n' + e.message.toList.count '\n'

/-- A written entry holds the line feeds of its subject and of its message. -/
theorem count_line (now : Instant) (e : Entry) :
    (e.line (Calendar.stamp now)).toList.count '\n' = e.feeds := by
  have hstamp := List.count_eq_zero.mpr (Calendar.feed_not_mem_stamp now)
  have hlevel : e.level.label.toList.count '\n' = 0 := by
    cases e.level <;> decide
  have hsource : e.source.label.toList.count '\n' = 0 := by
    cases e.source <;> decide
  obtain ⟨level, source, subject, message⟩ := e
  cases subject with
  | none => simp [Entry.line, Entry.origin, Entry.feeds, hstamp, hlevel, hsource]
  | some s => simp [Entry.line, Entry.origin, Entry.feeds, hstamp, hlevel, hsource]

/-- An entry stays on one line exactly if its subject and its message do. -/
theorem feeds_eq_zero_iff {e : Entry} :
    e.feeds = 0 ↔ (∀ s ∈ e.subject, '\n' ∉ s.toList) ∧ '\n' ∉ e.message.toList := by
  rw [Entry.feeds, Nat.add_eq_zero_iff, List.count_eq_zero, List.count_eq_zero]
  cases e.subject <;> simp

end Journal

end OpeningHours
