import OpeningHours.Journal
import OpeningHours.Proofs.WritingPlaces

/-!
# OpeningHours — the journal's file only grows, and no other file changes

Every entry is added to the journal's file on its own: the path is walked again, and the text is put
behind what stands there. A path names the same place after a text was added, so the next entry
finds the file again, and writing entries adds the lines of those that are grave enough, in order,
and nothing else.

The file may be the terminal's output, which then gets lines of entries and nothing else.

A file that another path leads to keeps its content, and its path still leads to it, whatever the
journal writes. Which entry of the file system the journal writes does not change either, so the two
paths stay apart from one entry of the journal to the next.

* `Files.Takes files path content` — a text can be added under the path, behind this content.
* `Writer.OnOutput w files` — the journal's file is the terminal's output.
* `SameEntry files p q` — the two paths lead to the same entry.

## Results

* `takes_append`   — an added text stands behind what stood there, and a further one can be added.
* `takes_writeAll` — writing entries adds the lines of the admitted ones.
* `output_writeAll` — the output gets lines of entries, and none if it is not the journal's file.
* `Apart.append`    — adding a text under one path leaves the file of another one apart.
* `readText_writeAll` — writing the journal leaves a file alone that it does not name.
-/

namespace OpeningHours

namespace Files

-- ---------------------------------------------------------------------------
-- Adding a text
-- ---------------------------------------------------------------------------

/-- A text can be added under the path: it leads to a file with this content, or to a free name and
the content is empty. -/
structure Takes (files : Files) (path : String) (content : ByteArray) : Prop where
  /-- A slash at the end asks for a folder. -/
  no_slash : path.toList.getLast? ≠ some '/'
  opens : ∃ l place, files.resolve path = .ok place ∧ Open l content place

/-- An added text stands behind what stood there, and a further one can be added behind it. -/
theorem takes_append {files : Files} {path : String} {content : ByteArray}
    (h : files.Takes path content) (text : String) :
    ∃ files', files.append path text = .ok files' ∧
      files'.Takes path (content ++ text.toUTF8) := by
  obtain ⟨l, place, hplace, hopen⟩ := h.opens
  have hasks : ¬ AsksFolder path := fun hslash => h.no_slash hslash.1
  have htarget := target?_eq_some_iff.mpr ⟨hasks, place, content, hplace, hopen⟩
  obtain ⟨-, -, hcontent, -⟩ := hopen.entry hplace
  refine ⟨_, append_of_target htarget text, h.no_slash, l, _,
    resolve_put (writable_of_target htarget) _ hplace, ?_⟩
  rw [hcontent, hopen.withFile_eq]
  exact .file

example : (⟨[], []⟩ : Files).Takes "run.log" ByteArray.empty :=
  ⟨by decide, ["run.log"], .free ["run.log"], rfl, .free rfl⟩

end Files

namespace Journal

-- ---------------------------------------------------------------------------
-- Writing entries
-- ---------------------------------------------------------------------------

/-- The lines of entries, each with its line feed. -/
def linesOf (stamp : String) (entries : List Entry) : String :=
  String.join (entries.map fun e => e.line stamp ++ "\n")

/-- The lines of two lists of entries are those of both. -/
theorem linesOf_append (stamp : String) (es es' : List Entry) :
    linesOf stamp (es ++ es') = linesOf stamp es ++ linesOf stamp es' := by
  rw [linesOf, List.map_append, String.join_append]
  rfl

namespace Writer

variable {w : Writer} {path : String}

/-- Writing an entry adds its line if the entry is grave enough, and else nothing. -/
theorem takes_write (hfile : w.file = some path) (stamp : String) (e : Entry) {fx : Effects}
    {content : ByteArray} (h : fx.files.Takes path content) :
    (w.write stamp fx e).files.Takes path
      (content ++ (linesOf stamp ([e].filter w.admits)).toUTF8) := by
  obtain ⟨added, happend, htakes⟩ := Files.takes_append h (e.line stamp ++ "\n")
  rcases w.write_cases stamp e fx with ⟨hfiles, -, hnot⟩ | ⟨_, hadmit, hnamed, hadded, -⟩
  · have hadmit : ¬ w.admits e = true := fun hadmit => hnot path added hadmit hfile happend
    rw [hfiles]
    simpa [linesOf, hadmit] using h
  · obtain rfl := Option.some.inj (hfile.symm.trans hnamed)
    obtain rfl := Except.ok.inj (happend.symm.trans hadded)
    simpa [linesOf, hadmit] using htakes

/-- Entries are written in two parts. -/
theorem writeAll_append (stamp : String) (fx : Effects) (entries more : List Entry) :
    w.writeAll stamp fx (entries ++ more) = w.writeAll stamp (w.writeAll stamp fx entries) more :=
  List.foldl_append

/-- Writing entries adds the lines of those that are grave enough, in order. -/
theorem takes_writeAll (hfile : w.file = some path) (stamp : String) (entries : List Entry)
    {fx : Effects} {content : ByteArray} (h : fx.files.Takes path content) :
    (w.writeAll stamp fx entries).files.Takes path
      (content ++ (linesOf stamp (entries.filter w.admits)).toUTF8) := by
  induction entries generalizing fx content with
  | nil => simpa [linesOf, writeAll] using h
  | cons e entries ih =>
    have hrest := ih (takes_write hfile stamp e h)
    rw [ByteArray.append_assoc, String.toUTF8_eq_toByteArray, String.toUTF8_eq_toByteArray,
      ← String.toByteArray_append, ← linesOf_append, ← List.filter_append] at hrest
    exact hrest

-- ---------------------------------------------------------------------------
-- The terminal's output
-- ---------------------------------------------------------------------------

/-- The journal's file is the terminal's output. -/
def OnOutput (w : Writer) (files : Files) : Prop :=
  ∃ path, w.file = some path ∧ files.channel? path = some .output

/-- Writing an entry leads no path to another channel. -/
theorem onOutput_write (stamp : String) (e : Entry) (fx : Effects) :
    w.OnOutput (w.write stamp fx e).files ↔ w.OnOutput fx.files := by
  rcases w.write_cases stamp e fx with ⟨hfiles, -⟩ | ⟨path, -, -, happend, -⟩
  · rw [hfiles]
  · simp only [OnOutput, Files.channel?_append happend]

/-- An entry adds at most its line to the output, and only if the output is the journal's file. -/
theorem output_write (stamp : String) (e : Entry) (fx : Effects) :
    ∃ lines, (w.write stamp fx e).output = fx.output ++ linesOf stamp lines ∧
      (lines ≠ [] → w.OnOutput fx.files) := by
  have hnothing : fx.output = fx.output ++ linesOf stamp [] := (String.append_empty).symm
  rcases w.write_cases stamp e fx with ⟨-, houtput, -⟩ | ⟨path, -, hfile, -, houtput⟩
  · exact ⟨[], houtput.trans hnothing, fun h => absurd rfl h⟩
  · rw [houtput]
    split
    · rename_i hchannel
      exact ⟨[e], by simp [linesOf], fun _ => ⟨path, hfile, hchannel⟩⟩
    · exact ⟨[], rfl, fun h => absurd rfl h⟩

/-- Entries add lines of entries to the output, and none if the output is not the journal's file. -/
theorem output_writeAll (stamp : String) (entries : List Entry) (fx : Effects) :
    ∃ lines, (w.writeAll stamp fx entries).output = fx.output ++ linesOf stamp lines ∧
      (lines ≠ [] → w.OnOutput fx.files) := by
  induction entries generalizing fx with
  | nil => exact ⟨[], (String.append_empty).symm, fun h => absurd rfl h⟩
  | cons e entries ih =>
    obtain ⟨front, hfront, hfirst⟩ := output_write (w := w) stamp e fx
    obtain ⟨back, hback, hrest⟩ := ih (w.write stamp fx e)
    refine ⟨front ++ back, ?_, fun hne => ?_⟩
    · rw [linesOf_append, ← String.append_assoc, ← hfront]
      exact hback
    · by_cases hnil : front = []
      · subst hnil
        exact (onOutput_write stamp e fx).mp (hrest hne)
      · exact hfirst hnil

/-- Writing entries leads no path to another channel. -/
theorem onOutput_writeAll (stamp : String) (entries : List Entry) (fx : Effects) :
    w.OnOutput (w.writeAll stamp fx entries).files ↔ w.OnOutput fx.files := by
  induction entries generalizing fx with
  | nil => rfl
  | cons e entries ih => exact (ih _).trans (onOutput_write stamp e fx)

/-- The output stays as it is if it is not the journal's file. -/
theorem output_writeAll_of_not {fx : Effects} (h : ¬ w.OnOutput fx.files) (stamp : String)
    (entries : List Entry) : (w.writeAll stamp fx entries).output = fx.output := by
  obtain ⟨lines, houtput, honly⟩ := output_writeAll (w := w) stamp entries fx
  obtain rfl : lines = [] := Classical.byContradiction fun hne => h (honly hne)
  rw [houtput]
  exact String.append_empty

end Writer

end Journal

namespace Files

-- ---------------------------------------------------------------------------
-- Adding a text elsewhere
-- ---------------------------------------------------------------------------

/-- The path leads to something that stands under the location. -/
def LeadsTo (files : Files) (path : String) (l : Location) : Prop :=
  ∃ node, files.resolve path = .ok (.found l node)

/-- The two paths lead to the same entry. -/
def SameEntry (files : Files) (p q : String) : Prop :=
  ∃ l, files.LeadsTo p l ∧ files.LeadsTo q l

/-- A path leads to a file that another path does not lead to. -/
structure Apart (files : Files) (other path : String) (l : Location) (n : Node) : Prop where
  leads : files.resolve path = .ok (.found l n)
  no_folder : n ≠ .folder
  other : ¬ files.LeadsTo other l

/-- Adding a text under the other path leaves the file where and as it is, and apart. -/
theorem Apart.append {files files' : Files} {other path : String} {l : Location} {n : Node}
    (h : files.Apart other path l n) {text : String}
    (happend : files.append other text = .ok files') : files'.Apart other path l n := by
  rcases Option.eq_none_or_eq_some (files.target? other) with hnone | ⟨k, htarget⟩
  · rw [append_of_no_target hnone happend]
    exact h
  · obtain rfl := Except.ok.inj ((append_of_target htarget text).symm.trans happend)
    obtain ⟨-, place, content, hplace, hopen⟩ := target?_eq_some_iff.mp htarget
    have hwritable := writable_of_target htarget
    have hne : l ≠ k := by
      rintro rfl
      -- the file is an entry, so its name is not free and the other path would lead to it
      obtain ⟨-, hentry, -, -⟩ := hopen.entry hplace
      rw [placeAt, node?_of_resolve h.leads h.no_folder] at hentry
      exact h.other ⟨n, hplace.trans (congrArg _ hentry)⟩
    refine ⟨?_, h.no_folder, ?_⟩
    · rw [resolve_put hwritable _ h.leads]
      cases n <;> simp [Place.withFile, hne]
    · rintro ⟨node, hnode⟩
      rw [resolve_put hwritable _ hplace, hopen.withFile_eq] at hnode
      simp only [Except.ok.injEq, Place.found.injEq] at hnode
      exact hne hnode.1.symm

/-- What can be read stands somewhere and is no folder. -/
theorem exists_of_readText {files : Files} {path text : String}
    (h : files.readText path = .ok text) :
    ∃ l n, files.resolve path = .ok (.found l n) ∧ n ≠ .folder := by
  rw [readText, read] at h
  cases hplace : files.resolve path with
  | error fault => simp [hplace] at h
  | ok place =>
    cases place with
    | free l => simp [hplace] at h
    | found l n =>
      refine ⟨l, n, rfl, ?_⟩
      rintro rfl
      simp [hplace] at h

theorem readText_congr {files files' : Files} {path : String}
    (h : files.resolve path = files'.resolve path) :
    files.readText path = files'.readText path := by
  rw [readText, readText, read, read, h]

end Files

namespace Journal.Writer

variable {w : Writer} {fx : Effects}

/-- Without a file for it the journal leaves all files as they are. -/
theorem files_writeAll_of_no_file (hfile : w.file = none) (stamp : String) (entries : List Entry) :
    (w.writeAll stamp fx entries).files = fx.files := by
  induction entries generalizing fx with
  | nil => rfl
  | cons e entries ih =>
    rcases w.write_cases stamp e fx with ⟨hwrite, -⟩ | ⟨path, -, hnamed, -⟩
    · exact ih.trans hwrite
    · simp [hfile] at hnamed

variable {path saved : String} {l : Location} {n : Node} (hfile : w.file = some path)
include hfile

/-- Writing an entry leaves a file apart that the journal's path does not lead to. -/
theorem apart_write (stamp : String) (e : Entry) (h : fx.files.Apart path saved l n) :
    (w.write stamp fx e).files.Apart path saved l n := by
  rcases w.write_cases stamp e fx with ⟨hfiles, -⟩ | ⟨_, -, hnamed, happend, -⟩
  · rw [hfiles]
    exact h
  · obtain rfl := Option.some.inj (hfile.symm.trans hnamed)
    exact h.append happend

/-- Writing entries leaves a file apart that the journal's path does not lead to. -/
theorem apart_writeAll (stamp : String) (entries : List Entry)
    (h : fx.files.Apart path saved l n) :
    (w.writeAll stamp fx entries).files.Apart path saved l n := by
  induction entries generalizing fx with
  | nil => exact h
  | cons e entries ih => exact ih (apart_write hfile stamp e h)

omit hfile

/-- Writing the journal leaves a file alone that it does not name. -/
theorem readText_writeAll (stamp : String) (entries : List Entry) {text : String}
    (hread : fx.files.readText saved = .ok text)
    (h : ∀ path, w.file = some path → ¬ fx.files.SameEntry path saved) :
    (w.writeAll stamp fx entries).files.readText saved = .ok text := by
  cases hfile : w.file with
  | none => rw [files_writeAll_of_no_file hfile, hread]
  | some path =>
    obtain ⟨l, n, hleads, hn⟩ := Files.exists_of_readText hread
    have hother : ¬ fx.files.LeadsTo path l := fun hpath =>
      h path hfile ⟨l, hpath, n, hleads⟩
    have hafter := apart_writeAll hfile stamp entries ⟨hleads, hn, hother⟩
    rw [Files.readText_congr (hafter.leads.trans hleads.symm), hread]

end Journal.Writer

end OpeningHours
