import OpeningHours.Files

/-!
# OpeningHours — adding a text changes one entry

A path is walked name by name, and only folders lead on. What it leads to, if not a folder, is what
stands under its last name in a folder that is there. A file that is put under a location whose
folder is there is found under it, and this is all that changes: every name, every walk and every
path leads to what it led to before, but for the file that was put.

So adding a text under a path puts a file where the path leads, with the text behind what stood
there, and every path names the place that it named before. Several paths may name one place, and a
path that names none never comes to name one, whatever is added under the others.

* `placeAt files l`       — the place under a location.
* `Open l content place`  — a text can be put in this place, behind the content.
* `target? files path`    — the location that a text under the path is added to.
* `contentAt files l`     — what a file under the location holds.
* `Writable files l`      — a file can be put under the location: its folder is there.

## Results

* `exists_entry_of_resolve` — what a path leads to that leads to no folder.
* `node?_put_of_writable` — a file that is put changes nothing elsewhere.
* `toOption_resolve_put`  — every path leads where it led, but for the file that was put.
* `target?_put`           — every path names the place that it named.
* `append_of_target`      — adding a text under a path that names a place.
* `append_of_no_target`   — adding a text under any other path changes nothing.
-/

namespace OpeningHours

theorem eq_ok_of_toOption {ε α : Type} {x : Except ε α} {v : α} (h : x.toOption = some v) :
    x = .ok v := by
  cases x with
  | ok w => rw [Option.some.inj h]
  | error e => simp [Except.toOption] at h

/-- The location that a text is added to in this place. -/
def Place.target? : Place → Option Location
  | .found l (.file _) => some l
  | .free l => some l
  | .found _ _ => none

/-- The channel of the terminal in this place. -/
def Place.channel? : Place → Option Channel
  | .found _ (.channel c _) => some c
  | _ => none

/-- The place after a file was put under a location. -/
def Place.withFile (l : Location) (content : ByteArray) : Place → Place
  | .found x (.file old) => .found x (.file (if x = l then content else old))
  | .free x => if x = l then .found x (.file content) else .free x
  | place => place

namespace Files

/-- A text can be put in this place, behind the content. -/
inductive Open (l : Location) (content : ByteArray) : Place → Prop
  | file : Open l content (.found l (.file content))
  | free (h : content = ByteArray.empty) : Open l content (.free l)

/-- The path asks for a folder, by a slash at its end. -/
def AsksFolder (path : String) : Prop :=
  path.toList.getLast? = some '/' ∧ dropSlashes path ≠ ""

instance (path : String) : Decidable (AsksFolder path) :=
  inferInstanceAs (Decidable (_ ∧ _))

/-- The location that a text under the path is added to. -/
def target? (files : Files) (path : String) : Option Location :=
  if AsksFolder path then none
  else (files.resolve path).toOption.bind Place.target?

/-- What a file under the location holds, nothing where there is none. -/
def contentAt (files : Files) (l : Location) : ByteArray :=
  match files.node? l with
  | some (.file content) => content
  | _ => ByteArray.empty

/-- The place under the location, which may be free. -/
def placeAt (files : Files) (l : Location) : Place :=
  match files.node? l with
  | some node => .found l node
  | none => .free l

/-- Something stands under every location on the way to this one, this one included. -/
def Known (files : Files) (l : Location) : Prop :=
  ∀ x, x <+: l → files.node? x ≠ none

/-- A file can be put under the location: its folder is there, and nothing but a file is in its
place. -/
structure Writable (files : Files) (l : Location) : Prop where
  folder : ∀ x, x <+: l → x ≠ l → files.node? x ≠ none
  file : ∀ node, files.node? l = some node → ∃ content, node = .file content

-- ---------------------------------------------------------------------------
-- What a name leads to
-- ---------------------------------------------------------------------------

/-- The name stands for an entry of a folder, not for a way to another folder. -/
structure EntryName (name : String) : Prop where
  ne_here : ¬ (name = "" ∨ name = ".")
  ne_parent : name ≠ ".."
  short : ¬ maxName < name.utf8ByteSize

theorem lookUp_of_entryName {name : String} (h : EntryName name) (files : Files)
    (folder : Location) : files.lookUp folder name = .ok (files.placeAt (folder ++ [name])) := by
  rw [lookUp, if_neg h.ne_here, if_neg h.ne_parent, if_neg h.short, placeAt]
  cases files.node? (folder ++ [name]) with
  | none => rfl
  | some node => rfl

/-- Every other name leads to a folder or nowhere, whatever the files are. -/
theorem lookUp_of_not_entryName {name : String} (h : ¬ EntryName name) (files : Files)
    (folder : Location) :
    (∃ x, ∀ files : Files, files.lookUp folder name = .ok (.found x .folder)) ∨
      files.lookUp folder name = .error .nameTooLong := by
  by_cases hhere : name = "" ∨ name = "."
  · exact .inl ⟨folder, fun files => by rw [lookUp, if_pos hhere]⟩
  · by_cases hparent : name = ".."
    · exact .inl ⟨folder.dropLast, fun files => by rw [lookUp, if_neg hhere, if_pos hparent]⟩
    · by_cases hlong : maxName < name.utf8ByteSize
      · exact .inr (by rw [lookUp, if_neg hhere, if_neg hparent, if_pos hlong])
      · exact absurd ⟨hhere, hparent, hlong⟩ h

/-- A name that leads to no folder leads to the entry of that name. -/
theorem place_of_lookUp {files : Files} {folder : Location} {name : String} {place : Place}
    (h : files.lookUp folder name = .ok place) (hplace : ∀ x, place ≠ .found x .folder) :
    place = files.placeAt (folder ++ [name]) := by
  by_cases hname : EntryName name
  · rw [lookUp_of_entryName hname] at h
    exact (Except.ok.inj h).symm
  · rcases lookUp_of_not_entryName hname files folder with ⟨x, hx⟩ | herror
    · exact absurd (Except.ok.inj (h.symm.trans (hx files))) (hplace x)
    · rw [herror] at h
      simp at h

-- ---------------------------------------------------------------------------
-- What a path leads to
-- ---------------------------------------------------------------------------

theorem node?_nil_ne_none (files : Files) : files.node? [] ≠ none := by
  rw [node?]
  split <;> simp

theorem known_nil (files : Files) : files.Known [] := by
  intro x hx
  rw [List.prefix_nil.mp hx]
  exact node?_nil_ne_none files

/-- The working folder is known. -/
theorem known_working (files : Files) : files.Known files.working := by
  intro x hx
  rw [node?]
  split
  · simp
  · simp [List.isPrefixOf_iff_prefix.mpr hx]

theorem Known.dropLast {files : Files} {l : Location} (h : files.Known l) :
    files.Known l.dropLast := by
  intro x hx
  exact h x (hx.trans (List.dropLast_prefix l))

/-- The locations above an entry are those of its folder. -/
theorem prefix_of_prefix_concat {x l : Location} {name : String} (h : x <+: l ++ [name])
    (hne : x ≠ l ++ [name]) : x <+: l := by
  rcases List.prefix_concat_iff.mp h with heq | hprefix
  · exact absurd heq hne
  · exact hprefix

/-- A name that leads from a folder to a folder leads to what is there. -/
theorem Known.lookUp {files : Files} {folder l : Location} {name : String} (h : files.Known folder)
    (hlook : files.lookUp folder name = .ok (.found l .folder)) : files.Known l := by
  unfold Files.lookUp at hlook
  split at hlook
  · obtain ⟨rfl, -⟩ := by simpa using hlook
    exact h
  · split at hlook
    · obtain ⟨rfl, -⟩ := by simpa using hlook
      exact h.dropLast
    · split at hlook
      · simp at hlook
      · split at hlook
        · rename_i node hnode
          obtain ⟨rfl, rfl⟩ := by simpa using hlook
          intro x hx
          by_cases hxl : x = folder ++ [name]
          · simp [hxl, hnode]
          · exact h x (prefix_of_prefix_concat hx hxl)
        · simp at hlook

/-- Only a folder leads on. -/
theorem step_eq_ok {files : Files} {place next : Place} {name : String}
    (h : files.step place name = .ok next) :
    ∃ l, place = .found l .folder ∧ files.lookUp l name = .ok next := by
  cases place with
  | free l => simp [step] at h
  | found l node =>
    cases node with
    | folder => exact ⟨l, rfl, h⟩
    | file c => simp [step] at h
    | sink => simp [step] at h
    | channel c typed => simp [step] at h

/-- A walk from a folder that is there leads to a folder, or under its last name to an entry of one
that is there. -/
theorem exists_entry_of_walk {files : Files} {start : Location} {names : List String}
    {place : Place} (h : files.Known start)
    (hwalk : files.walk (.found start .folder) names = .ok place) :
    (∃ x, place = .found x .folder) ∨
      ∃ folder name, files.Known folder ∧ place = files.placeAt (folder ++ [name]) := by
  induction names generalizing start with
  | nil => exact .inl ⟨start, (Except.ok.inj hwalk).symm⟩
  | cons name names ih =>
    rw [walk] at hwalk
    split at hwalk
    · rename_i next hnext
      have hlook : files.lookUp start name = .ok next := hnext
      by_cases hfolder : ∃ x, next = .found x .folder
      · obtain ⟨x, rfl⟩ := hfolder
        exact ih (h.lookUp hlook) hwalk
      · -- only a folder leads on, so the walk ends here
        have hentry := place_of_lookUp hlook (not_exists.mp hfolder)
        cases names with
        | nil =>
          obtain rfl := Except.ok.inj hwalk
          exact .inr ⟨start, name, h, hentry⟩
        | cons other names =>
          rw [walk] at hwalk
          split at hwalk
          · rename_i hstep
            obtain ⟨x, hx, -⟩ := step_eq_ok hstep
            exact absurd ⟨x, hx⟩ hfolder
          · simp at hwalk
    · simp at hwalk

/-- A path that leads to no folder leads to an entry of a folder that is there. -/
theorem exists_entry_of_resolve {files : Files} {path : String} {place : Place}
    (h : files.resolve path = .ok place) (hplace : ∀ x, place ≠ .found x .folder) :
    ∃ folder name, files.Known folder ∧ place = files.placeAt (folder ++ [name]) := by
  unfold resolve at h
  split at h
  · simp at h
  · split at h
    · simp at h
    · split at h
      · simp at h
      · have hstart : files.Known (if (names path).1 then [] else files.working) := by
          split
          · exact known_nil files
          · exact known_working files
        rcases exists_entry_of_walk hstart h with ⟨x, hx⟩ | hentry
        · exact absurd hx (hplace x)
        · exact hentry

/-- What a path leads to, unless it is a folder, stands where it says. -/
theorem node?_of_resolve {files : Files} {path : String} {x : Location} {n : Node}
    (h : files.resolve path = .ok (.found x n)) (hn : n ≠ .folder) : files.node? x = some n := by
  obtain ⟨folder, name, -, hentry⟩ := exists_entry_of_resolve h (by simp [hn])
  unfold placeAt at hentry
  split at hentry
  · rename_i node hnode
    obtain ⟨rfl, rfl⟩ := by simpa using hentry
    exact hnode
  · simp at hentry

-- ---------------------------------------------------------------------------
-- Places for texts
-- ---------------------------------------------------------------------------

/-- A place names a location for texts if a text can be put in it. -/
theorem target?_eq_some_iff_open {place : Place} {l : Location} :
    place.target? = some l ↔ ∃ content, Open l content place := by
  constructor
  · intro h
    cases place with
    | free x =>
      obtain rfl := Option.some.inj h
      exact ⟨_, .free rfl⟩
    | found x node =>
      cases node with
      | file content =>
        obtain rfl := Option.some.inj h
        exact ⟨content, .file⟩
      | folder => simp [Place.target?] at h
      | sink => simp [Place.target?] at h
      | channel c typed => simp [Place.target?] at h
  · rintro ⟨content, hopen⟩
    cases hopen with
    | file => rfl
    | free _ => rfl

/-- A text is added where the path leads to a file or to a free name. -/
theorem target?_eq_some_iff {files : Files} {path : String} {l : Location} :
    files.target? path = some l ↔ ¬ AsksFolder path ∧
      ∃ place content, files.resolve path = .ok place ∧ Open l content place := by
  rw [target?]
  split
  · rename_i hslash
    simp [hslash]
  · rename_i hslash
    cases hplace : files.resolve path with
    | error fault => simp [Except.toOption]
    | ok place => simpa [Except.toOption, hslash] using target?_eq_some_iff_open

/-- A path to a place for a text leads under the last name of its location, in a folder that is
there, to what stands there: a file with the content, or nothing. -/
theorem Open.entry {files : Files} {path : String} {l : Location} {content : ByteArray}
    {place : Place} (hopen : Open l content place) (h : files.resolve path = .ok place) :
    (∃ folder name, files.Known folder ∧ l = folder ++ [name]) ∧ place = files.placeAt l ∧
      files.contentAt l = content ∧ ∀ node, files.node? l = some node → node = .file content := by
  have hplace : ∀ x, place ≠ .found x .folder := by
    rintro x rfl
    cases hopen
  obtain ⟨folder, name, hfolder, rfl⟩ := exists_entry_of_resolve h hplace
  unfold placeAt at hopen ⊢
  cases hnode : files.node? (folder ++ [name]) with
  | some node =>
    rw [hnode] at hopen
    cases hopen with
    | file => simp [hnode, contentAt, hfolder]
  | none =>
    rw [hnode] at hopen
    cases hopen with
    | free hc => simp [hnode, contentAt, hfolder, hc]

theorem Open.withFile_eq {l : Location} {old : ByteArray} {place : Place} (h : Open l old place)
    (content : ByteArray) : place.withFile l content = .found l (.file content) := by
  cases h with
  | file => rw [Place.withFile, if_pos rfl]
  | free _ => rw [Place.withFile, if_pos rfl]

/-- A file can be put where a path leads to a place for a text. -/
theorem writable_of_open {files : Files} {path : String} {l : Location} {content : ByteArray}
    {place : Place} (h : files.resolve path = .ok place) (hopen : Open l content place) :
    files.Writable l := by
  obtain ⟨⟨folder, name, hfolder, rfl⟩, -, -, hfile⟩ := hopen.entry h
  refine ⟨?_, fun node hnode => ⟨content, hfile node hnode⟩⟩
  intro x hx hne
  exact hfolder x (prefix_of_prefix_concat hx hne)

/-- A place that texts are added to can be written. -/
theorem writable_of_target {files : Files} {path : String} {l : Location}
    (h : files.target? path = some l) : files.Writable l := by
  obtain ⟨-, place, content, hplace, hopen⟩ := target?_eq_some_iff.mp h
  exact writable_of_open hplace hopen

-- ---------------------------------------------------------------------------
-- Putting a file
-- ---------------------------------------------------------------------------

theorem find?_put_of_ne {files : Files} {l x : Location} (h : x ≠ l) (node : Node) :
    ((files.put l node).entries.find? fun e => e.1 = x) =
      files.entries.find? fun e => e.1 = x := by
  have hcond : ∀ e : Location × Node, (e.1 ≠ l ∧ e.1 = x) ↔ e.1 = x :=
    fun e => ⟨And.right, fun he => ⟨he ▸ h, he⟩⟩
  rw [put, List.find?_cons_of_neg (by simpa using Ne.symm h), List.find?_filter]
  simp only [decide_eq_true_eq, hcond]

section

variable {files : Files} {l : Location} (h : files.Writable l) (content : ByteArray)
include h

/-- A file that is put changes nothing elsewhere. -/
theorem node?_put_of_writable {x : Location} (hne : x ≠ l) :
    (files.put l (.file content)).node? x = files.node? x := by
  rw [node?, node?, find?_put_of_ne hne]
  cases hfind : files.entries.find? fun e => e.1 = x with
  | some e => rfl
  | none =>
    -- without an entry of its own it is at most the folder of others
    by_cases habove : x.isPrefixOf l = true
    · -- the new file makes no folder, since every folder above it was there
      have hknown := h.folder x (List.isPrefixOf_iff_prefix.mp habove) hne
      rw [node?, hfind] at hknown
      obtain ⟨node, hnode⟩ := Option.ne_none_iff_exists'.mp hknown
      have hold := Option.ite_none_right_eq_some.mp hnode
      simp [put, habove, hold.1]
    · have hbelow : ((files.put l (.file content)).entries.any fun e => x.isPrefixOf e.1) =
          files.entries.any fun e => x.isPrefixOf e.1 := by
        have hentry : ∀ e : Location × Node,
            (decide (e.1 ≠ l) && x.isPrefixOf e.1) = x.isPrefixOf e.1 := by
          intro e
          by_cases he : e.1 = l
          · simp [he, habove]
          · simp [he]
        rw [put, List.any_cons, List.any_filter, List.any_congr rfl hentry]
        simp [habove]
      rw [hbelow]
      rfl

/-- The place under a location is what it was, but for the file that was put. -/
theorem placeAt_put (x : Location) :
    (files.put l (.file content)).placeAt x = (files.placeAt x).withFile l content := by
  by_cases hx : x = l
  · subst hx
    rw [placeAt, placeAt, node?_put]
    cases hnode : files.node? x with
    | none => simp [Place.withFile]
    | some node =>
      obtain ⟨old, rfl⟩ := h.file node hnode
      simp [Place.withFile]
  · rw [placeAt, placeAt, node?_put_of_writable h content hx]
    cases files.node? x with
    | none => simp [Place.withFile, hx]
    | some node => cases node <;> simp [Place.withFile, hx]

theorem lookUp_put (folder : Location) (name : String) :
    (files.put l (.file content)).lookUp folder name =
      (files.lookUp folder name).map (Place.withFile l content) := by
  by_cases hname : EntryName name
  · rw [lookUp_of_entryName hname, lookUp_of_entryName hname, placeAt_put h]
    rfl
  · rcases lookUp_of_not_entryName hname files folder with ⟨x, hx⟩ | herror
    · rw [hx, hx]
      rfl
    · rcases lookUp_of_not_entryName hname (files.put l (.file content)) folder with ⟨x, hx⟩ | hput
      · simp [hx files] at herror
      · rw [herror, hput]
        rfl

/-- A walk goes on to what it went on to; where it could not go on it still cannot, though perhaps
for another reason. -/
theorem toOption_step_put (place : Place) (name : String) :
    ((files.put l (.file content)).step (place.withFile l content) name).toOption =
      (files.step place name).toOption.map (Place.withFile l content) := by
  cases place with
  | free x =>
    by_cases hx : x = l
    · simp [Place.withFile, hx, step, Except.toOption]
    · simp [Place.withFile, hx, step, Except.toOption]
  | found x node =>
    cases node with
    | file old => rfl
    | sink => rfl
    | channel c typed => rfl
    | folder =>
      show ((files.put l (.file content)).lookUp x name).toOption =
        (files.lookUp x name).toOption.map _
      rw [lookUp_put h]
      cases files.lookUp x name <;> rfl

omit h in
theorem toOption_walk_cons (files : Files) (place : Place) (name : String) (names : List String) :
    (files.walk place (name :: names)).toOption =
      (files.step place name).toOption.bind fun next => (files.walk next names).toOption := by
  rw [walk]
  cases files.step place name <;> rfl

/-- A walk is the same after a file was put, up to that file. -/
theorem toOption_walk_put (place : Place) (names : List String) :
    ((files.put l (.file content)).walk (place.withFile l content) names).toOption =
      (files.walk place names).toOption.map (Place.withFile l content) := by
  induction names generalizing place with
  | nil => rfl
  | cons name names ih =>
    rw [toOption_walk_cons, toOption_walk_cons, toOption_step_put h]
    cases (files.step place name).toOption with
    | none => rfl
    | some next => exact ih next

/-- Every path leads where it led, but for the file that was put. -/
theorem toOption_resolve_put (path : String) :
    ((files.put l (.file content)).resolve path).toOption =
      (files.resolve path).toOption.map (Place.withFile l content) := by
  unfold resolve
  split
  · rfl
  · split
    · rfl
    · split
      · rfl
      · exact toOption_walk_put h content (.found _ .folder) _

/-- Every path leads to the same place after a file was put, or to the file. -/
theorem resolve_put {path : String} {place : Place} (hplace : files.resolve path = .ok place) :
    (files.put l (.file content)).resolve path = .ok (place.withFile l content) := by
  apply eq_ok_of_toOption
  rw [toOption_resolve_put h, hplace]
  rfl

omit h in
theorem target?_withFile (place : Place) : (place.withFile l content).target? = place.target? := by
  cases place with
  | free x =>
    by_cases hx : x = l
    · simp [Place.withFile, hx, Place.target?]
    · simp [Place.withFile, hx]
  | found x node => cases node <;> rfl

/-- Every path names the place that it named before a file was put. -/
theorem target?_put (path : String) :
    (files.put l (.file content)).target? path = files.target? path := by
  rw [target?, target?, toOption_resolve_put h]
  split
  · rfl
  · cases (files.resolve path).toOption with
    | none => rfl
    | some place => exact target?_withFile content place

omit h in
theorem channel?_withFile (place : Place) :
    (place.withFile l content).channel? = place.channel? := by
  cases place with
  | free x =>
    by_cases hx : x = l
    · simp [Place.withFile, hx, Place.channel?]
    · simp [Place.withFile, hx]
  | found x node => cases node <;> rfl

omit h in
theorem channel?_eq (files : Files) (path : String) :
    files.channel? path = (files.resolve path).toOption.bind Place.channel? := by
  rw [channel?]
  cases files.resolve path with
  | error fault => rfl
  | ok place =>
    cases place with
    | free x => rfl
    | found x node => cases node <;> rfl

/-- Every path leads to the channel of the terminal that it led to before a file was put. -/
theorem channel?_put (path : String) :
    (files.put l (.file content)).channel? path = files.channel? path := by
  rw [channel?_eq, channel?_eq, toOption_resolve_put h]
  cases (files.resolve path).toOption with
  | none => rfl
  | some place => exact channel?_withFile content place

end

-- ---------------------------------------------------------------------------
-- Adding a text
-- ---------------------------------------------------------------------------

/-- Adding a text under a path that names a place puts it behind what stands there. -/
theorem append_of_target {files : Files} {path : String} {l : Location}
    (h : files.target? path = some l) (text : String) :
    files.append path text = .ok (files.put l (.file (files.contentAt l ++ text.toUTF8))) := by
  obtain ⟨hslash, place, content, hplace, hopen⟩ := target?_eq_some_iff.mp h
  obtain ⟨-, -, hcontent, -⟩ := hopen.entry hplace
  unfold AsksFolder at hslash
  rw [append, if_neg hslash, hplace, hcontent]
  cases hopen with
  | file => rfl
  | free hc => simp [hc]

/-- Adding a text under any other path changes nothing. -/
theorem append_of_no_target {files files' : Files} {path text : String}
    (h : files.target? path = none) (happend : files.append path text = .ok files') :
    files' = files := by
  rw [append] at happend
  split at happend
  · split at happend <;> simp at happend
  · rename_i hslash
    have hasks : ¬ AsksFolder path := hslash
    rw [target?, if_neg hasks] at h
    split at happend
    · rename_i hplace
      simp [hplace, Except.toOption, Place.target?] at h
    · rename_i hplace
      simp [hplace, Except.toOption, Place.target?] at h
    · exact (Except.ok.inj happend).symm
    · exact (Except.ok.inj happend).symm
    · simp at happend
    · simp at happend

/-- Adding a text leads no path to another channel of the terminal. -/
theorem channel?_append {files files' : Files} {path text : String}
    (h : files.append path text = .ok files') (other : String) :
    files'.channel? other = files.channel? other := by
  rcases Option.eq_none_or_eq_some (files.target? path) with hnone | ⟨l, htarget⟩
  · rw [append_of_no_target hnone h]
  · obtain rfl := Except.ok.inj ((append_of_target htarget text).symm.trans h)
    exact channel?_put (writable_of_target htarget) _ other

end Files

end OpeningHours
