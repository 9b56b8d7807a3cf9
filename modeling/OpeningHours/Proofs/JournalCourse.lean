import Mathlib.Data.List.Basic
import Mathlib.Data.List.Induction
import OpeningHours.Calendar.Civil
import OpeningHours.Feed.Directory
import OpeningHours.Feed.Exchange
import OpeningHours.Journal
import OpeningHours.Proofs.WritingPlaces

/-!
# OpeningHours — the course of a journal

A program may start its journal anew at any time, with another least level and another file, and in
between it records entries, the summaries of its readings and the failures of its feed. What comes
of all this is said of one location at a time: what stood there is still there, and behind it
stands, in the order of the calls, one line for every entry that was grave enough for the writer
started last, if that writer's file names the location. Nothing else is ever changed.

The step is the writing of one entry, after which every path still names the place that it named. A
course is followed call by call, with the lines written so far as what is kept.

* `Call`                    — what a program asks of its journal.
* `follow state calls`      — what the calls lead to, each made at an instant of its own.
* `latest? calls`           — the writer that was started last.
* `linesAt files calls l`   — the lines that the calls leave under a location.
* `Grown files files' lines` — the files after these lines were added.

## Results

* `Grown.write`    — what the writing of one entry adds.
* `grown_follow`   — what a course of calls adds.
* `follow_appends` — a journal is added to and never changed, whatever its course.
-/

namespace OpeningHours.Journal

open Feed (FeedError summaryEntry failureEntry)

/-- What a program asks of its journal. -/
inductive Call where
  /-- Starts the journal anew. -/
  | start (writer : Writer)
  | entry (e : Entry)
  /-- The summary of a reading. -/
  | summary (total mapped skipped : Nat)
  /-- The failure of an operation on the feed. -/
  | failure (operation : String) (error : FeedError)

/-- The writer that shows notices on the terminal, else like this one. -/
def Writer.plain (w : Writer) : Writer :=
  { w with stamped := false }

namespace Call

/-- The writer that a call starts. -/
def writer? : Call → Option Writer
  | start w => some w
  | _ => none

/-- The entry that a call records; summaries and failures choose its level. -/
def recorded? : Call → Option Entry
  | start _ => none
  | entry e => some e
  | summary total mapped skipped => some (summaryEntry total mapped skipped)
  | failure operation error => some (failureEntry operation error)

/-- The step that a call takes. -/
def action : Call → Action
  | start w => .start w
  | entry e => .record e
  | summary total mapped skipped => .record (summaryEntry total mapped skipped)
  | failure operation error => .record (failureEntry operation error)

/-- The call without a word on how the terminal shows entries. -/
def plain : Call → Call
  | start w => start w.plain
  | c => c

/-- A call starts a writer or records an entry. -/
theorem start_or_record (c : Call) :
    (∃ w, c = start w) ∨ ∃ e, c.writer? = none ∧ c.recorded? = some e ∧ c.action = .record e := by
  cases c with
  | start w => exact .inl ⟨w, rfl⟩
  | entry e => exact .inr ⟨e, rfl, rfl, rfl⟩
  | summary total mapped skipped => exact .inr ⟨_, rfl, rfl, rfl⟩
  | failure operation error => exact .inr ⟨_, rfl, rfl, rfl⟩

end Call

/-- A call and the instant it is made at. -/
abbrev TimedCall := Instant × Call

/-- Takes the step of a call. -/
def takeCall (state : Option Writer × Effects) (c : TimedCall) : Option Writer × Effects :=
  act (Calendar.stamp c.1) state c.2.action

/-- Follows calls. -/
def follow (state : Option Writer × Effects) (calls : List TimedCall) :
    Option Writer × Effects :=
  calls.foldl takeCall state

/-- A course is followed in two parts. -/
theorem follow_append (state : Option Writer × Effects) (front back : List TimedCall) :
    follow state (front ++ back) = follow (follow state front) back :=
  List.foldl_append

/-- Calls that are all made at one instant are the steps of a run. -/
theorem follow_eq_run (now : Instant) (state : Option Writer × Effects) (calls : List Call) :
    follow state (calls.map fun c => (now, c)) =
      run (Calendar.stamp now) state (calls.map Call.action) := by
  rw [follow, run, List.foldl_map, List.foldl_map]
  rfl

-- ---------------------------------------------------------------------------
-- The lines of a course
-- ---------------------------------------------------------------------------

/-- The writer that the last start among the calls gives, else the one before them. -/
def latest? (before : Option Writer) (calls : List TimedCall) : Option Writer :=
  (calls.filterMap fun c => c.2.writer?).getLast?.or before

/-- The line that a call adds under a location while this writer is the latest one: its entry must
be at or above the least level, and the writer's file must name the location. -/
def lineAt (files : Files) (writer : Option Writer) (c : TimedCall) (l : Location) : List String :=
  match writer, c.2.recorded? with
  | some w, some e =>
    if w.file.bind files.target? = some l ∧ w.least.rank ≤ e.level.rank then
      [e.line (Calendar.stamp c.1) ++ "\n"]
    else []
  | _, _ => []

/-- The lines that calls add under a location, in their order. -/
def linesAt (files : Files) (before : Option Writer) (calls : List TimedCall) (l : Location) :
    List String :=
  calls.zipIdx.flatMap fun (c, n) => lineAt files (latest? before (calls.take n)) c l

/-- The last call decides which writer is in use, if it starts one. -/
theorem latest?_concat (before : Option Writer) (calls : List TimedCall) (c : TimedCall) :
    latest? before (calls ++ [c]) = c.2.writer?.or (latest? before calls) := by
  rw [latest?, latest?, List.filterMap_append]
  cases hc : c.2.writer? with
  | none => simp [hc]
  | some w => simp [hc]

/-- A further call adds its line behind those of the calls before it. -/
theorem linesAt_concat (files : Files) (before : Option Writer) (calls : List TimedCall)
    (c : TimedCall) (l : Location) :
    linesAt files before (calls ++ [c]) l =
      linesAt files before calls l ++ lineAt files (latest? before calls) c l := by
  -- the calls before it have the same calls before them
  have hfront : ∀ p ∈ calls.zipIdx, lineAt files (latest? before ((calls ++ [c]).take p.2)) p.1 l =
      lineAt files (latest? before (calls.take p.2)) p.1 l := by
    intro p hp
    have hlt := List.snd_lt_of_mem_zipIdx hp
    rw [List.take_append_of_le_length (by omega)]
  rw [linesAt, List.zipIdx_append, List.flatMap_append, List.flatMap_congr hfront]
  simp [linesAt]

-- ---------------------------------------------------------------------------
-- Files that only grow
-- ---------------------------------------------------------------------------

/-- The files after lines were added under some locations: what was there is there, with the lines
behind it, and every path names the place that it named. -/
structure Grown (files files' : Files) (lines : Location → List String) : Prop where
  paths : ∀ path, files'.target? path = files.target? path
  nodes : ∀ l, files'.node? l = if lines l = [] then files.node? l else
    some (.file (files.contentAt l ++ (String.join (lines l)).toUTF8))

/-- Nothing was added to files that are as they were. -/
theorem grown_refl (files : Files) : Grown files files fun _ => [] :=
  ⟨fun _ => rfl, fun _ => rfl⟩

/-- The content of a file that grew ends with the lines that were added. -/
theorem Grown.contentAt {files files' : Files} {lines : Location → List String}
    (h : Grown files files' lines) (l : Location) :
    files'.contentAt l = files.contentAt l ++ (String.join (lines l)).toUTF8 := by
  have hnode := h.nodes l
  split at hnode
  · rename_i hnone
    rw [hnone, Files.contentAt, hnode, ← Files.contentAt]
    simp
  · rw [Files.contentAt, hnode]

/-- One further line under a path that names a location. -/
theorem Grown.append {files files' : Files} {lines : Location → List String}
    (h : Grown files files' lines) {path : String} {l : Location}
    (htarget : files.target? path = some l) (line : String) :
    ∃ files'', files'.append path line = .ok files'' ∧
      Grown files files'' fun x => lines x ++ if x = l then [line] else [] := by
  have hnow : files'.target? path = some l := (h.paths path).trans htarget
  have hwritable := Files.writable_of_target hnow
  refine ⟨_, Files.append_of_target hnow line, ?_, ?_⟩
  · intro other
    rw [Files.target?_put hwritable, h.paths]
  · intro x
    by_cases hx : x = l
    · subst hx
      rw [Files.node?_put, h.contentAt, if_pos rfl, if_neg (by simp), String.join_append,
        ByteArray.append_assoc, String.toUTF8_eq_toByteArray, String.toUTF8_eq_toByteArray,
        String.toUTF8_eq_toByteArray, ← String.toByteArray_append]
      simp
    · rw [Files.node?_put_of_writable hwritable _ hx, h.nodes, if_neg hx, List.append_nil]

-- ---------------------------------------------------------------------------
-- One call
-- ---------------------------------------------------------------------------

/-- What the writing of an entry adds: its line, if the entry is grave enough and the writer's file
names a location. -/
theorem Grown.write {files : Files} {fx : Effects} {lines : Location → List String}
    (h : Grown files fx.files lines) (w : Writer) (stamp : String) (e : Entry) :
    Grown files (w.write stamp fx e).files fun l => lines l ++
      if w.file.bind files.target? = some l ∧ w.least.rank ≤ e.level.rank then
        [e.line stamp ++ "\n"]
      else [] := by
  rcases w.write_cases stamp e fx with ⟨hfiles, -, hnot⟩ | ⟨path, hadmit, hfile, happend, -⟩
  · have hnone : ∀ l, ¬ (w.file.bind files.target? = some l ∧ w.least.rank ≤ e.level.rank) := by
      rintro l ⟨hnames, hgrave⟩
      obtain ⟨path, hfile, htarget⟩ := Option.bind_eq_some_iff.mp hnames
      obtain ⟨files', happend, -⟩ := h.append htarget (e.line stamp ++ "\n")
      exact hnot path files' (decide_eq_true hgrave) hfile happend
    rw [hfiles]
    simpa [hnone] using h
  · have hgrave : w.least.rank ≤ e.level.rank := of_decide_eq_true hadmit
    simp only [hfile, hgrave, and_true, Option.bind_some]
    rcases Option.eq_none_or_eq_some (files.target? path) with htarget | ⟨l, htarget⟩
    · -- a text under this path changes nothing
      rw [Files.append_of_no_target ((h.paths path).trans htarget) happend]
      simpa [htarget] using h
    · obtain ⟨added, hadded, hgrown⟩ := h.append htarget (e.line stamp ++ "\n")
      obtain rfl := Except.ok.inj (happend.symm.trans hadded)
      simpa [htarget, eq_comm] using hgrown

/-- What a call adds while this writer is the latest one, and the writer it leaves. -/
theorem grown_takeCall {files : Files} {state : Option Writer × Effects}
    {lines : Location → List String} (h : Grown files state.2.files lines) (c : TimedCall) :
    (takeCall state c).1 = c.2.writer?.or state.1 ∧
      Grown files (takeCall state c).2.files fun l => lines l ++ lineAt files state.1 c l := by
  obtain ⟨writer, fx⟩ := state
  rcases c.2.start_or_record with ⟨w, hstart⟩ | ⟨e, hnone, hentry, hrecord⟩
  · -- a start writes nothing
    have hadds : ∀ l, lineAt files writer c l = [] := by
      intro l
      cases writer <;> simp [lineAt, hstart, Call.recorded?]
    rw [takeCall, hstart]
    simp only [hadds, List.append_nil]
    exact ⟨rfl, h⟩
  · rw [takeCall, hrecord, hnone]
    cases writer with
    | none =>
      simp only [lineAt, List.append_nil]
      exact ⟨rfl, h⟩
    | some w =>
      simp only [lineAt, hentry]
      exact ⟨rfl, h.write w (Calendar.stamp c.1) e⟩

-- ---------------------------------------------------------------------------
-- A course of calls
-- ---------------------------------------------------------------------------

/-- What a course of calls adds, and the writer it leaves. -/
theorem grown_follow (before : Option Writer) (fx : Effects) (calls : List TimedCall) :
    (follow (before, fx) calls).1 = latest? before calls ∧
      Grown fx.files (follow (before, fx) calls).2.files (linesAt fx.files before calls) := by
  -- the induction takes the last call off, which is made after all the others
  induction calls using List.reverseRecOn with
  | nil => exact ⟨rfl, grown_refl fx.files⟩
  | append_singleton calls c ih =>
    obtain ⟨hwriter, hgrown⟩ := ih
    obtain ⟨hnext, hstep⟩ := grown_takeCall hgrown c
    have hfollow : follow (before, fx) (calls ++ [c]) = takeCall (follow (before, fx) calls) c :=
      follow_append (before, fx) calls [c]
    have hlines : linesAt fx.files before (calls ++ [c]) = fun l =>
        linesAt fx.files before calls l ++ lineAt fx.files (latest? before calls) c l := by
      funext l
      exact linesAt_concat fx.files before calls c l
    rw [hwriter] at hnext hstep
    rw [hfollow, hlines, latest?_concat]
    exact ⟨hnext, hstep⟩

/-- Without a writer nothing is written before the first start. -/
theorem follow_of_no_start {calls : List TimedCall} (h : ∀ c ∈ calls, c.2.writer? = none)
    (fx : Effects) : follow (none, fx) calls = (none, fx) := by
  induction calls with
  | nil => rfl
  | cons c calls ih =>
    obtain ⟨hc, hcalls⟩ := List.forall_mem_cons.mp h
    rcases c.2.start_or_record with ⟨w, hstart⟩ | ⟨e, -, -, hrecord⟩
    · simp [hstart, Call.writer?] at hc
    · have htake : takeCall (none, fx) c = (none, fx) := by
        rw [takeCall, hrecord]
        rfl
      rw [follow, List.foldl_cons, htake]
      exact ih hcalls

-- ---------------------------------------------------------------------------
-- What the terminal shows
-- ---------------------------------------------------------------------------

/-- The two states differ at most in what the terminal showed and will show. -/
structure Alike (s t : Option Writer × Effects) : Prop where
  writer : s.1.map Writer.plain = t.1.map Writer.plain
  files : s.2.files = t.2.files

/-- What is written does not depend on what is shown. -/
theorem files_write_congr {w w' : Writer} {fx fx' : Effects} (hw : w.plain = w'.plain)
    (hfiles : fx.files = fx'.files) (stamp : String) (e : Entry) :
    (w.write stamp fx e).files = (w'.write stamp fx' e).files := by
  obtain ⟨hleast, hfile⟩ := by simpa [Writer.plain] using hw
  unfold Writer.write Writer.admits Writer.store
  rw [hleast, hfile]
  split
  · split
    · exact hfiles
    · simp only [Effects.show, hfiles]
      split
      · simp only [Effects.files_pass]
      · rfl
  · exact hfiles

/-- A call keeps the two states alike, however it is shown. -/
theorem Alike.takeCall {s t : Option Writer × Effects} (h : Alike s t) (c : TimedCall) :
    Alike (takeCall s c) (takeCall t (c.1, c.2.plain)) := by
  obtain ⟨hwriter, hfiles⟩ := h
  rcases c.2.start_or_record with ⟨w, hstart⟩ | ⟨e, hnone, -, hrecord⟩
  · unfold Journal.takeCall
    rw [hstart]
    exact ⟨rfl, hfiles⟩
  · have hplain : c.2.plain = c.2 := by
      cases hc : c.2 with
      | start w => simp [hc, Call.writer?] at hnone
      | _ => rfl
    unfold Journal.takeCall
    rw [hplain, hrecord]
    obtain ⟨writer, fx⟩ := s
    obtain ⟨writer', fx'⟩ := t
    cases writer with
    | none =>
      cases writer' with
      | none => exact ⟨rfl, hfiles⟩
      | some w' => simp at hwriter
    | some w =>
      cases writer' with
      | none => simp at hwriter
      | some w' =>
        exact ⟨hwriter, files_write_congr (by simpa using hwriter) hfiles _ e⟩

/-- A course keeps the two states alike, however it is shown. -/
theorem Alike.follow {s t : Option Writer × Effects} (h : Alike s t) (calls : List TimedCall) :
    Alike (follow s calls) (follow t (calls.map fun c => (c.1, c.2.plain))) := by
  induction calls generalizing s t with
  | nil => exact h
  | cons c calls ih => exact ih (h.takeCall c)

-- ---------------------------------------------------------------------------
-- The course of a journal
-- ---------------------------------------------------------------------------

/-- **A journal is added to and never changed.** Whatever calls a program makes, from before the
first start on: every path names the location that it named, the content of every location is what
it was, followed by the lines of the calls, and where there is no such line nothing changes at all.
Calls before a first start might as well not have been made, and how the terminal shows entries
makes no difference to any file. -/
theorem follow_appends (files : Files) (output shown : String) (calls : List TimedCall) :
    let after := (follow (none, ⟨files, output, shown⟩) calls).2.files
    (∀ path, after.target? path = files.target? path) ∧
    (∀ l, after.contentAt l =
      files.contentAt l ++ (String.join (linesAt files none calls l)).toUTF8) ∧
    (∀ l, linesAt files none calls l = [] → after.node? l = files.node? l) ∧
    (∀ front back, calls = front ++ back → (∀ c ∈ front, c.2.writer? = none) →
      after = (follow (none, ⟨files, output, shown⟩) back).2.files) ∧
    ∀ output' shown' calls',
      (calls'.map fun c => (c.1, c.2.plain)) = (calls.map fun c => (c.1, c.2.plain)) →
      (follow (none, ⟨files, output', shown'⟩) calls').2.files = after := by
  intro after
  obtain ⟨-, hgrown⟩ := grown_follow none ⟨files, output, shown⟩ calls
  refine ⟨hgrown.paths, hgrown.contentAt, ?_, ?_, ?_⟩
  · intro l hnone
    have hnode := hgrown.nodes l
    rwa [if_pos hnone] at hnode
  · intro front back hcalls hfront
    show (follow (none, ⟨files, output, shown⟩) calls).2.files = _
    rw [hcalls, follow_append, follow_of_no_start hfront]
  · intro output' shown' calls' hplain
    have hstart : Alike (none, ⟨files, output', shown'⟩) (none, ⟨files, output, shown⟩) :=
      ⟨rfl, rfl⟩
    have hself : Alike (none, ⟨files, output, shown⟩) (none, ⟨files, output, shown⟩) := ⟨rfl, rfl⟩
    have hfirst := (hstart.follow calls').files
    have hsecond := (hself.follow calls).files
    rw [hfirst, hplain]
    exact hsecond.symm

end OpeningHours.Journal
