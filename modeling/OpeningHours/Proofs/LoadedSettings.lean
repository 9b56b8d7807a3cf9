import OpeningHours.Proofs.RunOutcome

/-!
# OpeningHours — the settings of a run

Settings come from three places: the defaults, the file, and a variable for the address of the feed.
Only what a file gives is checked, and that is enough: the defaults name a zone and a level that are
known, and the address has no part in either. So no run ends for its zone or level once its settings
are there, and a file with an unknown zone or level never gives settings.

* `Settings.item? s name`   — what a file would have to say for a setting.
* `Settings.Gives`          — the entries that the file under a path gives, none if there is no
  file.
* `Command.Readdressed`     — the address is taken from the variable if that is set and not blank.

## Results

* `Settings.item?_of_ofEntries?` — a setting is what the entries say, or else its default.
* `Settings.ofFile_eq_ok_iff`    — when a file gives settings.
* `Settings.ofFile_of_gives`     — what becomes of a file's entries, the zone being looked at first.
* `Command.settings_usable`      — the settings of every run.
-/

namespace OpeningHours

namespace Settings

-- ---------------------------------------------------------------------------
-- Entries
-- ---------------------------------------------------------------------------

/-- The names of the settings. -/
def names : List String :=
  ["api_url", "timezone", "request_timeout_secs", "log_level", "log_file", "console_timestamps"]

/-- What a file would have to say under a name for the settings to be these; nothing where there is
no file for the journal. -/
def item? (s : Settings) : String → Option Toml.Item
  | "api_url" => some (.string s.address)
  | "timezone" => some (.string s.timeZone)
  | "request_timeout_secs" => some (.integer s.timeoutSeconds)
  | "log_level" => some (.string s.level)
  | "log_file" => s.journalFile.map .string
  | "console_timestamps" => some (.boolean s.stamped)
  | _ => none

/-- A setting is the item under its name, or else its default. -/
theorem write_of_entry {α : Type} {entries : Toml.Entries} {name : String}
    {kind : Toml.Item → Option α} {default value : α} (write : α → Option Toml.Item)
    (hkind : ∀ item a, kind item = some a → write a = some item)
    (h : entry entries name kind default = some value) :
    write value = (entries.lookup name).or (write default) := by
  rw [entry] at h
  cases hitem : entries.lookup name with
  | none =>
    simp only [hitem, Option.some.injEq] at h
    rw [Option.none_or, h]
  | some item =>
    simp only [hitem] at h
    rw [Option.some_or, hkind item value h]

/-- Only a string is a text. -/
theorem eq_of_textOf? {item : Toml.Item} {s : String} (h : textOf? item = some s) :
    item = .string s := by
  cases item <;> simp_all [textOf?]

/-- Only an integer is a count. -/
theorem eq_of_countOf? {item : Toml.Item} {n : Nat} (h : countOf? item = some n) :
    item = .integer n := by
  cases item with
  | integer m =>
    rw [countOf?] at h
    split at h
    · rename_i hm
      rw [← Option.some.inj h, Int.toNat_of_nonneg hm]
    · simp at h
  | _ => simp [countOf?] at h

/-- Only a truth value is one. -/
theorem eq_of_boolOf? {item : Toml.Item} {b : Bool} (h : boolOf? item = some b) :
    item = .boolean b := by
  cases item <;> simp_all [boolOf?]

/-- The settings of entries are what the entries say, and the defaults for all that they leave
out. -/
theorem item?_of_ofEntries? {entries : Toml.Entries} {s : Settings}
    (h : ofEntries? entries = some s) (name : String) (hname : name ∈ names) :
    s.item? name = (entries.lookup name).or (default.item? name) := by
  simp only [ofEntries?, Option.bind_eq_bind, Option.bind_eq_some_iff, Option.some.injEq] at h
  obtain ⟨address, haddress, timeZone, htimeZone, timeout, htimeout, level, hlevel, journal,
    hjournal, stamped, hstamped, rfl⟩ := h
  have htext : ∀ item text, textOf? item = some text → some (Toml.Item.string text) = some item :=
    fun item text h => congrArg some (eq_of_textOf? h).symm
  simp only [names, List.mem_cons, List.not_mem_nil, or_false] at hname
  rcases hname with rfl | rfl | rfl | rfl | rfl | rfl
  · exact write_of_entry (fun a => some (.string a)) htext haddress
  · exact write_of_entry (fun a => some (.string a)) htext htimeZone
  · exact write_of_entry (fun n : Nat => some (.integer n))
      (fun item n h => congrArg some (eq_of_countOf? h).symm) htimeout
  · exact write_of_entry (fun a => some (.string a)) htext hlevel
  · refine write_of_entry (fun a : Option String => a.map Toml.Item.string) ?_ hjournal
    intro item a h
    obtain ⟨text, htextOf, rfl⟩ := Option.map_eq_some_iff.mp h
    exact htext item text htextOf
  · exact write_of_entry (fun b => some (.boolean b))
      (fun item b h => congrArg some (eq_of_boolOf? h).symm) hstamped

-- ---------------------------------------------------------------------------
-- Files
-- ---------------------------------------------------------------------------

/-- The entries that the file under a path gives, none if there is no file. -/
inductive Gives (files : Files) (path : String) : Toml.Entries → Prop
  | absent (hfile : files.contains path = false) : Gives files path []
  | file {text : String} {entries : Toml.Entries} (hfile : files.contains path = true)
      (hread : files.readText path = .ok text)
      (hentries : Toml.entriesOfText? text = some entries) : Gives files path entries

/-- Without entries all settings have their defaults. -/
theorem ofEntries?_nil : ofEntries? [] = some default := rfl

section

variable {lib : Libraries} {files : Files} {path : String}

/-- Usable settings pass the check. -/
theorem check_of_usable {zones : ZoneTable} {s : Settings} (hzone : (s.zone? zones).isSome)
    (hlevel : s.level?.isSome) : s.check zones = .ok s := by
  rw [check, if_neg (by simpa using Option.isSome_iff_ne_none.mp hzone),
    if_neg (by simpa using Option.isSome_iff_ne_none.mp hlevel)]

/-- The settings that entries give are checked, whether or not there is a file. -/
theorem ofFile_of_gives {entries : Toml.Entries} {s : Settings} (h : Gives files path entries)
    (hs : ofEntries? entries = some s) : ofFile lib files path = s.check lib.zones := by
  cases h with
  | absent hfile =>
    obtain rfl : default = s := Option.some.inj (ofEntries?_nil.symm.trans hs)
    have husable := usable_default lib.zones
    rw [ofFile, hfile, check_of_usable husable.1 husable.2]
    rfl
  | file hfile hread hentries =>
    simp only [ofFile, hfile, if_true, hread, ofText, hentries, Option.bind_some, hs]

/-- Settings of a file come from the entries that the file gives. -/
theorem exists_gives {s : Settings} (h : ofFile lib files path = .ok s) :
    ∃ entries, Gives files path entries ∧ ofEntries? entries = some s := by
  rw [ofFile] at h
  split at h
  · rename_i hfile
    split at h
    · rename_i text hread
      rw [ofText] at h
      split at h
      · rename_i t ht
        obtain ⟨entries, hentries, hof⟩ := Option.bind_eq_some_iff.mp ht
        obtain ⟨rfl, -, -⟩ := usable_of_check h
        exact ⟨entries, .file hfile hread hentries, hof⟩
      · simp at h
    · simp at h
  · rename_i hfile
    obtain rfl := Except.ok.inj h
    exact ⟨[], .absent (by simpa using hfile), ofEntries?_nil⟩

/-- A file gives settings exactly if its entries do and name a zone and a level that are known. -/
theorem ofFile_eq_ok_iff {s : Settings} :
    ofFile lib files path = .ok s ↔
      (∃ entries, Gives files path entries ∧ ofEntries? entries = some s) ∧
        (s.zone? lib.zones).isSome ∧ s.level?.isSome := by
  constructor
  · exact fun h => ⟨exists_gives h, usable_of_ofFile h⟩
  · rintro ⟨⟨entries, hgives, hs⟩, hzone, hlevel⟩
    rw [ofFile_of_gives hgives hs, check_of_usable hzone hlevel]

/-- The entries under a path are the same for all that is said of them. -/
theorem Gives.unique {entries entries' : Toml.Entries}
    (h : Gives files path entries) (h' : Gives files path entries') : entries = entries' := by
  cases h with
  | absent hfile =>
    cases h' with
    | absent => rfl
    | file hfile' => simp [hfile] at hfile'
  | file hfile hread hentries =>
    cases h' with
    | absent hfile' => simp [hfile] at hfile'
    | file hfile' hread' hentries' =>
      obtain rfl := Except.ok.inj (hread.symm.trans hread')
      exact Option.some.inj (hentries.symm.trans hentries')

end

end Settings

namespace Command

-- ---------------------------------------------------------------------------
-- The address of the feed
-- ---------------------------------------------------------------------------

/-- The settings with the address that a variable gives, if it is set and not blank. -/
inductive Readdressed (environment : Environment) (t : Settings) : Settings → Prop
  | given {v : String} (hset : environment.lookup addressVariable = some v)
      (hne : Text.trim v.toList ≠ []) :
      Readdressed environment t { t with address := String.ofList (Text.trim v.toList) }
  | kept (hblank : ∀ v, environment.lookup addressVariable = some v → Text.trim v.toList = []) :
      Readdressed environment t t

/-- The rules for the address say what is computed. -/
theorem readdressed_iff {env : Environment} {s t : Settings} :
    Readdressed env t s ↔ s = { t with address := (givenAddress env).getD t.address } := by
  rw [givenAddress]
  cases hset : env.lookup addressVariable with
  | none =>
    constructor
    · rintro (⟨hset', -⟩ | -)
      · simp [hset] at hset'
      · rfl
    · rintro rfl
      exact .kept fun v hv => by simp [hset] at hv
  | some v =>
    by_cases hblank : Text.trim v.toList = []
    · constructor
      · rintro (⟨hset', hne⟩ | -)
        · obtain rfl := Option.some.inj (hset.symm.trans hset')
          exact absurd hblank hne
        · simp [hblank]
      · rintro rfl
        simp only [hblank, List.isEmpty_nil, if_true, Option.getD_none]
        refine .kept fun w hw => ?_
        obtain rfl := Option.some.inj (hset.symm.trans hw)
        exact hblank
    · constructor
      · rintro (⟨hset', hne⟩ | hkept)
        · obtain rfl := Option.some.inj (hset.symm.trans hset')
          simp [hblank]
        · exact absurd (hkept v hset) hblank
      · rintro rfl
        have hempty : (Text.trim v.toList).isEmpty = false := by simpa using hblank
        simp only [hempty, Bool.false_eq_true, if_false, Option.getD_some]
        exact .given hset hblank

section

variable {lib : Libraries} {host : Host}

/-- A run has settings exactly if its variables are set and their file has settings. -/
theorem settings_eq_ok_iff {s : Settings} :
    host.settings lib = .ok s ↔ ∃ env t, Environment.load host.exported host.files = .ok env ∧
      Settings.ofFile lib host.files (settingsFile env) = .ok t ∧ Readdressed env t s := by
  rw [Host.settings]
  cases Environment.load host.exported host.files with
  | error bad => simp
  | ok env =>
    cases hfile : Settings.ofFile lib host.files (settingsFile env) with
    | error e => simp [hfile]
    | ok t => simp [hfile, readdressed_iff, eq_comm]

-- ---------------------------------------------------------------------------
-- Settings that are refused
-- ---------------------------------------------------------------------------

variable {env : Environment} (hload : Environment.load host.exported host.files = .ok env)
include hload

/-- Settings are refused for what is wrong with their file. -/
theorem settings_of_file_error {e : SettingsError}
    (h : Settings.ofFile lib host.files (settingsFile env) = .error e) :
    host.settings lib = .error (.noSettings e) :=
  Host.settings_eq_error_iff.mpr (.inr ⟨env, e, hload, h, rfl⟩)

variable {entries : Toml.Entries}
  (hgives : Settings.Gives host.files (settingsFile env) entries)
include hgives

/-- A zone that is not known is what is wrong with settings, whatever their level is. -/
theorem settings_of_unknownZone {s : Settings} (hs : Settings.ofEntries? entries = some s)
    (hzone : s.zone? lib.zones = none) :
    host.settings lib = .error (.noSettings (.unknownZone s.timeZone)) := by
  refine settings_of_file_error hload ?_
  rw [Settings.ofFile_of_gives hgives hs, Settings.check, if_pos (by simp [hzone])]

/-- A level that is not known is what is wrong with settings whose zone is known. -/
theorem settings_of_unknownLevel {s : Settings} (hs : Settings.ofEntries? entries = some s)
    (hzone : s.zone? lib.zones ≠ none) (hlevel : s.level? = none) :
    host.settings lib = .error (.noSettings (.unknownLevel s.level)) := by
  refine settings_of_file_error hload ?_
  rw [Settings.ofFile_of_gives hgives hs, Settings.check, if_neg (by simpa using hzone),
    if_pos (by simp [hlevel])]

/-- The zone and the level of a file's settings are those that it gives. -/
theorem known_of_settings {s : Settings} (h : host.settings lib = .ok s) :
    (∀ zone, entries.lookup "timezone" = some (.string zone) → lib.zones.zone? zone ≠ none) ∧
      ∀ level, entries.lookup "log_level" = some (.string level) →
        Journal.Level.ofName? level ≠ none := by
  obtain ⟨env', t, hload', hfile, -⟩ := settings_eq_ok_iff.mp h
  obtain rfl := Except.ok.inj (hload.symm.trans hload')
  obtain ⟨⟨entries', hgives', ht⟩, hzone, hlevel⟩ := Settings.ofFile_eq_ok_iff.mp hfile
  obtain rfl := hgives.unique hgives'
  have htimeZone := Settings.item?_of_ofEntries? ht "timezone" (by simp [Settings.names])
  have hlogLevel := Settings.item?_of_ofEntries? ht "log_level" (by simp [Settings.names])
  constructor
  · intro zone hgiven
    rw [hgiven] at htimeZone
    obtain rfl : t.timeZone = zone := by simpa [Settings.item?] using htimeZone
    exact Option.isSome_iff_ne_none.mp hzone
  · intro level hgiven
    rw [hgiven] at hlogLevel
    obtain rfl : t.level = level := by simpa [Settings.item?] using hlogLevel
    exact Option.isSome_iff_ne_none.mp hlevel

end

/-- **The settings of every run can be used.** Once they are there, their zone and level are known,
so a run goes on to read the feed. They are those of the file but for the address, which is that of
the variable if it is set and not blank. What the file leaves out has its default. A file with an
unknown zone or level gives no settings, and the zone is what is reported if both are unknown. -/
theorem settings_usable (lib : Libraries) (host : Host) :
    (∀ s, host.settings lib = .ok s → ∃ zone least,
      s.zone? lib.zones = some zone ∧ s.level? = some least ∧
      ∀ arguments a, Arguments.parse arguments = .ok a →
        run lib arguments host = runWith lib.feed a s zone (s.writer least) host) ∧
    (∀ s, host.settings lib = .ok s ↔ ∃ env t,
      Environment.load host.exported host.files = .ok env ∧
      Settings.ofFile lib host.files (settingsFile env) = .ok t ∧ Readdressed env t s) ∧
    (∀ path t, Settings.ofFile lib host.files path = .ok t → ∃ entries,
      Settings.Gives host.files path entries ∧ ∀ name ∈ Settings.names,
        t.item? name = (entries.lookup name).or (Settings.default.item? name)) ∧
    ∀ env entries, Environment.load host.exported host.files = .ok env →
      Settings.Gives host.files (settingsFile env) entries →
      (∀ s, host.settings lib = .ok s →
        (∀ zone, entries.lookup "timezone" = some (.string zone) →
          lib.zones.zone? zone ≠ none) ∧
        ∀ level, entries.lookup "log_level" = some (.string level) →
          Journal.Level.ofName? level ≠ none) ∧
      ∀ t, Settings.ofEntries? entries = some t →
        (t.zone? lib.zones = none →
          host.settings lib = .error (.noSettings (.unknownZone t.timeZone))) ∧
        (t.zone? lib.zones ≠ none → t.level? = none →
          host.settings lib = .error (.noSettings (.unknownLevel t.level))) := by
  refine ⟨?_, fun s => settings_eq_ok_iff, ?_, ?_⟩
  · intro s hs
    obtain ⟨hzone, hlevel⟩ := Host.usable_of_settings hs
    obtain ⟨zone, hzone⟩ := Option.isSome_iff_exists.mp hzone
    obtain ⟨least, hlevel⟩ := Option.isSome_iff_exists.mp hlevel
    refine ⟨zone, least, hzone, hlevel, fun arguments a ha => ?_⟩
    obtain ⟨zone', least', hzone', hlevel', hrun⟩ := run_of_settings ha hs
    obtain rfl := Option.some.inj (hzone.symm.trans hzone')
    obtain rfl := Option.some.inj (hlevel.symm.trans hlevel')
    exact hrun
  · intro path t ht
    obtain ⟨⟨entries, hgives, hof⟩, -⟩ := Settings.ofFile_eq_ok_iff.mp ht
    exact ⟨entries, hgives, Settings.item?_of_ofEntries? hof⟩
  · intro env entries hload hgives
    refine ⟨fun s hs => known_of_settings hload hgives hs, fun t ht => ⟨?_, ?_⟩⟩
    · exact settings_of_unknownZone hload hgives ht
    · exact settings_of_unknownLevel hload hgives ht

end Command

end OpeningHours
