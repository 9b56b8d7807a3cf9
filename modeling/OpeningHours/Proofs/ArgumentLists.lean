import OpeningHours.Command.Arguments

/-!
# OpeningHours — argument lists one behind the other

A command line is a row of items, each an option with its values or a search word, and each says
something on its own. What the row asks for is what its items say, put together: an option counts if
one item gives it, of two values the later one counts, and search words follow one another. So two
command lines that can be taken can be written one behind the other.

A row ends early where no item begins. An option whose values are missing may still get them from
the arguments behind it; a call for help and a moment that cannot be read are final.

* `Says item a`     — the item asks for this.
* `Reads args a`    — the arguments are a row of items that ask for this.
* `Stops args e`    — no item begins here, with the reason.
* `Fails args e`    — behind some items the arguments stop.

## Results

* `parse_eq_ok_iff`, `parse_eq_error_iff` — the parser takes exactly the rows of items.
* `parse_append` — the meaning of two argument lists one behind the other.
-/

namespace OpeningHours

namespace Arguments

-- ---------------------------------------------------------------------------
-- Putting two command lines together
-- ---------------------------------------------------------------------------

/-- What two command lines ask for together, the second one written behind the first. -/
def followedBy (a b : Arguments) : Arguments where
  json := a.json || b.json
  audit := a.audit || b.audit
  fixture := b.fixture.or a.fixture
  pinned := b.pinned.or a.pinned
  search := a.search ++ b.search

theorem followedBy_none (a : Arguments) : a.followedBy none = a := by
  simp [followedBy, none]

theorem none_followedBy (a : Arguments) : none.followedBy a = a := by
  simp [followedBy, none]

/-- Joining parsed arguments is associative. -/
theorem followedBy_assoc (a b c : Arguments) :
    (a.followedBy b).followedBy c = a.followedBy (b.followedBy c) := by
  simp [followedBy, Bool.or_assoc, Option.or_assoc]

-- ---------------------------------------------------------------------------
-- Items
-- ---------------------------------------------------------------------------

/-- The words that are no search words. -/
def optionNames : List String :=
  ["--json", "--verify", "--fixture", "--at", "-h", "--help"]

/-- The item asks for this: an option with its values, or a search word. -/
inductive Says : List String → Arguments → Prop where
  | json : Says ["--json"] { none with json := true }
  | audit : Says ["--verify"] { none with audit := true }
  | fixture (path : String) : Says ["--fixture", path] { none with fixture := some path }
  | pinned {day time : String} {m : Moment} (h : Moment.ofWords? day time = some m) :
      Says ["--at", day, time] { none with pinned := some m }
  | word {w : String} (h : w ∉ optionNames) : Says [w] { none with search := [w] }

/-- No item begins here. -/
inductive Stops : List String → ArgumentError → Prop where
  | noPath : Stops ["--fixture"] .noPath
  | noDay : Stops ["--at"] .noDay
  | noTime (day : String) : Stops ["--at", day] .noTime
  | noMoment {day time : String} (rest : List String) (h : Moment.ofWords? day time = .none) :
      Stops ("--at" :: day :: time :: rest) (.noMoment day time)
  | help {w : String} (rest : List String) (h : w = "-h" ∨ w = "--help") : Stops (w :: rest) .usage

/-- The arguments are a row of items that together ask for this. -/
inductive Reads : List String → Arguments → Prop where
  | done : Reads [] none
  | item {item rest : List String} {a b : Arguments} (hitem : Says item a) (hrest : Reads rest b) :
      Reads (item ++ rest) (a.followedBy b)

/-- Behind some items the arguments stop. -/
inductive Fails : List String → ArgumentError → Prop where
  | stop {args : List String} {e : ArgumentError} (h : Stops args e) : Fails args e
  | item {item rest : List String} {a : Arguments} {e : ArgumentError} (hitem : Says item a)
      (hrest : Fails rest e) : Fails (item ++ rest) e

/-- No argument behind it changes this error. -/
inductive Final : ArgumentError → Prop where
  | usage : Final .usage
  | noMoment (day time : String) : Final (.noMoment day time)

-- ---------------------------------------------------------------------------
-- The parser
-- ---------------------------------------------------------------------------

/-- The parser takes an item off the front. -/
theorem parseAfter_item {item : List String} {b : Arguments} (h : Says item b) (a : Arguments)
    (rest : List String) : parseAfter a (item ++ rest) = parseAfter (a.followedBy b) rest := by
  cases h with
  | json => simp [parseAfter, followedBy, none]
  | audit => simp [parseAfter, followedBy, none]
  | fixture path => simp [parseAfter, followedBy, none]
  | pinned h => simp [parseAfter, followedBy, none, h]
  | word h =>
    simp only [optionNames, List.mem_cons, List.not_mem_nil, or_false, not_or] at h
    rw [List.singleton_append, parseAfter] <;> simp [followedBy, none, h]

/-- Whatever was read before, the reading stops with the same error. -/
theorem parseAfter_stops {args : List String} {e : ArgumentError} (h : Stops args e)
    (a : Arguments) : parseAfter a args = .error e := by
  cases h with
  | noPath => rfl
  | noDay => rfl
  | noTime day => rfl
  | noMoment rest h => simp [parseAfter, h]
  | help rest h =>
    rcases h with rfl | rfl
    · rfl
    · rfl

/-- What is read behind other arguments is added to them. -/
theorem parseAfter_reads {args : List String} {b : Arguments} (h : Reads args b) (a : Arguments) :
    parseAfter a args = .ok (a.followedBy b) := by
  induction h generalizing a with
  | done => rw [followedBy_none, parseAfter]
  | item hitem _ ih => rw [parseAfter_item hitem, ih, followedBy_assoc]

/-- Whatever was read before, the reading fails with the same error. -/
theorem parseAfter_fails {args : List String} {e : ArgumentError} (h : Fails args e)
    (a : Arguments) : parseAfter a args = .error e := by
  induction h generalizing a with
  | stop h => exact parseAfter_stops h a
  | item hitem _ ih => rw [parseAfter_item hitem, ih]

/-- Behind an item that begins the arguments they are read on. -/
theorem reads_or_fails_append {item rest : List String} {a : Arguments} (hitem : Says item a)
    (h : (∃ b, Reads rest b) ∨ ∃ e, Fails rest e) :
    (∃ b, Reads (item ++ rest) b) ∨ ∃ e, Fails (item ++ rest) e := by
  rcases h with ⟨b, hb⟩ | ⟨e, he⟩
  · exact .inl ⟨_, .item hitem hb⟩
  · exact .inr ⟨e, .item hitem he⟩

/-- Arguments are a row of items, or they stop behind some. -/
theorem reads_or_fails (args : List String) :
    (∃ a, Reads args a) ∨ ∃ e, Fails args e := by
  -- the induction follows the parser, whatever it has taken before
  refine parseAfter.induct (motive := fun _ args => (∃ a, Reads args a) ∨ ∃ e, Fails args e)
    ?done ?json ?audit ?noPath ?fixture ?noDay ?noTime ?pinned ?noMoment ?short ?long ?word
      none args
  case done =>
    intro _
    exact .inl ⟨none, .done⟩
  case json =>
    intro _ _ ih
    exact reads_or_fails_append .json ih
  case audit =>
    intro _ _ ih
    exact reads_or_fails_append .audit ih
  case noPath =>
    intro _
    exact .inr ⟨_, .stop .noPath⟩
  case fixture =>
    intro _ path _ ih
    exact reads_or_fails_append (.fixture path) ih
  case noDay =>
    intro _
    exact .inr ⟨_, .stop .noDay⟩
  case noTime =>
    intro _ day
    exact .inr ⟨_, .stop (.noTime day)⟩
  case pinned =>
    intro _ _ _ _ _ hm ih
    exact reads_or_fails_append (.pinned hm) ih
  case noMoment =>
    intro _ _ _ rest hm
    exact .inr ⟨_, .stop (.noMoment rest hm)⟩
  case short =>
    intro _ rest
    exact .inr ⟨_, .stop (.help rest (.inl rfl))⟩
  case long =>
    intro _ rest
    exact .inr ⟨_, .stop (.help rest (.inr rfl))⟩
  case word =>
    intro _ w rest hjson haudit hnoPath hfixture hnoDay hnoTime hat hshort hlong ih
    refine reads_or_fails_append (.word ?_) ih
    -- an option that takes values is told from a word whatever stands behind it
    have hfixture : w ≠ "--fixture" := by
      rintro rfl
      cases rest with
      | nil => exact hnoPath rfl rfl
      | cons path rest => exact hfixture path rest rfl rfl
    have hat : w ≠ "--at" := by
      rintro rfl
      match rest with
      | [] => exact hnoDay rfl rfl
      | [day] => exact hnoTime day rfl rfl
      | day :: time :: rest => exact hat day time rest rfl rfl
    simp only [optionNames, List.mem_cons, List.not_mem_nil, or_false, not_or]
    exact ⟨hjson, haudit, hfixture, hat, hshort, hlong⟩

/-- The parser takes the rows of items, with what they ask for together. -/
theorem parse_eq_ok_iff {args : List String} {a : Arguments} :
    parse args = .ok a ↔ Reads args a := by
  constructor
  · intro h
    rcases reads_or_fails args with ⟨b, hb⟩ | ⟨e, he⟩
    · rw [parse, parseAfter_reads hb, none_followedBy] at h
      rwa [← Except.ok.inj h]
    · rw [parse, parseAfter_fails he] at h
      simp at h
  · intro h
    rw [parse, parseAfter_reads h, none_followedBy]

/-- Otherwise it says why the row of items stops. -/
theorem parse_eq_error_iff {args : List String} {e : ArgumentError} :
    parse args = .error e ↔ Fails args e := by
  constructor
  · intro h
    rcases reads_or_fails args with ⟨b, hb⟩ | ⟨e', he⟩
    · rw [parse, parseAfter_reads hb] at h
      simp at h
    · rw [parse, parseAfter_fails he] at h
      rwa [← Except.error.inj h]
  · intro h
    exact parseAfter_fails h none

-- ---------------------------------------------------------------------------
-- One behind the other
-- ---------------------------------------------------------------------------

/-- Two rows of items are one row, which asks for both. -/
theorem Reads.append {xs ys : List String} {a b : Arguments} (hxs : Reads xs a)
    (hys : Reads ys b) : Reads (xs ++ ys) (a.followedBy b) := by
  induction hxs with
  | done => rwa [List.nil_append, none_followedBy]
  | item hitem _ ih =>
    rw [List.append_assoc, followedBy_assoc]
    exact .item hitem ih

/-- Behind a row of items the arguments stop where they stop on their own. -/
theorem Reads.append_fails {xs ys : List String} {a : Arguments} {e : ArgumentError}
    (hxs : Reads xs a) (hys : Fails ys e) : Fails (xs ++ ys) e := by
  induction hxs with
  | done => exact hys
  | item hitem _ ih =>
    rw [List.append_assoc]
    exact .item hitem ih

/-- What stands behind the arguments does not change a final error. -/
theorem Stops.append {xs : List String} {e : ArgumentError} (h : Stops xs e) (he : Final e)
    (ys : List String) : Stops (xs ++ ys) e := by
  cases h with
  | noPath => cases he
  | noDay => cases he
  | noTime day => cases he
  | noMoment rest h => exact .noMoment (rest ++ ys) h
  | help rest h => exact .help (rest ++ ys) h

/-- A final error is not undone by what follows. -/
theorem Fails.append {xs : List String} {e : ArgumentError} (h : Fails xs e) (he : Final e)
    (ys : List String) : Fails (xs ++ ys) e := by
  induction h with
  | stop h => exact .stop (h.append he ys)
  | item hitem _ ih =>
    rw [List.append_assoc]
    exact .item hitem (ih he)

/-- **Argument lists one behind the other.** Behind arguments that can be taken others fail as they
fail on their own, and otherwise the two ask for what they ask for together. Behind a call for help
or a moment that cannot be read no argument changes the error. -/
theorem parse_append (xs ys : List String) :
    (∀ a, parse xs = .ok a →
      (∀ e, parse ys = .error e → parse (xs ++ ys) = .error e) ∧
      ∀ b, parse ys = .ok b → parse (xs ++ ys) = .ok (a.followedBy b)) ∧
    ∀ e, parse xs = .error e → Final e → parse (xs ++ ys) = .error e := by
  simp only [parse_eq_ok_iff, parse_eq_error_iff]
  refine ⟨?_, ?_⟩
  · intro a hxs
    exact ⟨fun e hys => hxs.append_fails hys, fun b hys => hxs.append hys⟩
  · intro e hxs he
    exact hxs.append he ys

/-- Of two moments the second one counts, and what looks like a call for help is the path of a saved
feed; a moment that cannot be read is reported although help is called for behind it. -/
theorem parse_append_two_moments :
    parse (["--at", "LU", "10:00", "--json", "centre"] ++
        ["--fixture", "-h", "--at", "ma", "9:30"]) =
      .ok ⟨true, false, some "-h", some ⟨.tuesday, ⟨570, by decide⟩⟩, ["centre"]⟩ ∧
    parse (["--at", "LU", "25:00"] ++ ["--help"]) = .error (.noMoment "LU" "25:00") := by
  have hfirst : parse ["--at", "LU", "10:00", "--json", "centre"] =
      .ok ⟨true, false, .none, some ⟨.monday, ⟨600, by decide⟩⟩, ["centre"]⟩ := rfl
  have hsecond : parse ["--fixture", "-h", "--at", "ma", "9:30"] =
      .ok ⟨false, false, some "-h", some ⟨.tuesday, ⟨570, by decide⟩⟩, []⟩ := rfl
  obtain ⟨hboth, -⟩ := parse_append ["--at", "LU", "10:00", "--json", "centre"]
    ["--fixture", "-h", "--at", "ma", "9:30"]
  obtain ⟨-, hfinal⟩ := parse_append ["--at", "LU", "25:00"] ["--help"]
  exact ⟨(hboth _ hfirst).2 _ hsecond, hfinal _ rfl (.noMoment _ _)⟩

end Arguments

end OpeningHours
