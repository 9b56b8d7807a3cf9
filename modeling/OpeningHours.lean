import OpeningHours.Audit
import OpeningHours.Calendar.Civil
import OpeningHours.Calendar.Zone
import OpeningHours.Command.Arguments
import OpeningHours.Command.Run
import OpeningHours.Decimal.Literal
import OpeningHours.Decimal.Shortest
import OpeningHours.Environment
import OpeningHours.Feed.Collection
import OpeningHours.Feed.Directory
import OpeningHours.Feed.Exchange
import OpeningHours.Files
import OpeningHours.Journal
import OpeningHours.Json.Reader
import OpeningHours.Json.Tree
import OpeningHours.Json.Value
import OpeningHours.Listing
import OpeningHours.Main
import OpeningHours.Proofs.JournalFile
import OpeningHours.Proofs.ArgumentLists
import OpeningHours.Proofs.AuditAgreement
import OpeningHours.Proofs.BlankEdges
import OpeningHours.Proofs.BreakTags
import OpeningHours.Proofs.CanonicalText
import OpeningHours.Proofs.CivilDates
import OpeningHours.Proofs.ClosingWords
import OpeningHours.Proofs.ColonEdges
import OpeningHours.Proofs.CutTags
import OpeningHours.Proofs.DirectoryReading
import OpeningHours.Proofs.DroppedRanges
import OpeningHours.Proofs.EntryLines
import OpeningHours.Proofs.Evaluation
import OpeningHours.Proofs.FailureWords
import OpeningHours.Proofs.FeedLines
import OpeningHours.Proofs.FeedReading
import OpeningHours.Proofs.HoursShapes
import OpeningHours.Proofs.HoursTable
import OpeningHours.Proofs.InstantSpelling
import OpeningHours.Proofs.JournalCourse
import OpeningHours.Proofs.JsonGrammar
import OpeningHours.Proofs.JsonReading
import OpeningHours.Proofs.LineIndependence
import OpeningHours.Proofs.Lines
import OpeningHours.Proofs.ListingReading
import OpeningHours.Proofs.LoadedSettings
import OpeningHours.Proofs.LowerDecomposition
import OpeningHours.Proofs.MergedSpans
import OpeningHours.Proofs.NearestFloats
import OpeningHours.Proofs.NextEvent
import OpeningHours.Proofs.NormalForm
import OpeningHours.Proofs.PaddedNumbers
import OpeningHours.Proofs.PickedTokens
import OpeningHours.Proofs.PrintedTable
import OpeningHours.Proofs.PrintedWeek
import OpeningHours.Proofs.RecordSpelling
import OpeningHours.Proofs.RecordedWeek
import OpeningHours.Proofs.Respelling
import OpeningHours.Proofs.RunOutcome
import OpeningHours.Proofs.SameAnswer
import OpeningHours.Proofs.SearchedPieces
import OpeningHours.Proofs.ShortestDigits
import OpeningHours.Proofs.TokenGrammar
import OpeningHours.Proofs.TreeValue
import OpeningHours.Proofs.WeekClock
import OpeningHours.Proofs.WeekInvariant
import OpeningHours.Proofs.WeekReading
import OpeningHours.Proofs.WritingPlaces
import OpeningHours.Proofs.WrittenFloats
import OpeningHours.Schedule.DayRecord
import OpeningHours.Schedule.Notation
import OpeningHours.Schedule.Week
import OpeningHours.Settings
import OpeningHours.Text
import OpeningHours.Text.Quoted
import OpeningHours.TimeOfDay
import OpeningHours.Toml.Reader
import OpeningHours.Toml.Value
import OpeningHours.Unicode.Decomposition
import OpeningHours.Unicode.LowerCase
import OpeningHours.Unicode.Property
import OpeningHours.Weekday
