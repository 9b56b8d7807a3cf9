import OpeningHours.Feed.Exchange
import OpeningHours.Proofs.JsonReading
import OpeningHours.Proofs.TreeValue

/-!
# OpeningHours — what a feed's text gives

The feed is read from its characters in one go, and every flaw ends the reading. On a text of the
JSON grammar the result depends on the tree alone: `featuresOf` says it without characters, fuel or
blanks, and the reader agrees with it.

From this follows when a feed with one list of features is read at all. Every feature must have a
value, since the list is given as values, and every key must write a text, since it is compared with
the one that is looked for. So one feature without a value takes the whole feed with it.

* `featuresOf t` — the features that a tree gives, or its flaw.

## Results

* `featuresOfText_of_document` — a text gives what its tree gives.
* `parse_of_oneList`           — when a feed with one list of features is read, and what it gives.
* `parse_loneHalf`             — half of a pair in one feature is enough for the feed not to be
  read.
-/

namespace OpeningHours.Feed

open Json

-- ---------------------------------------------------------------------------
-- The features of a tree
-- ---------------------------------------------------------------------------

/-- The flaw of a string that stands in place of features. -/
def flawOf (ps : List Piece) : Flaw :=
  match textOf? ps with
  | some found => .textInstead found
  | none => .broken

/-- The values of a list of features, all of them or none. -/
def valuesOf (items : List Tree) : Except Flaw (List Value) :=
  match items.mapM (Tree.value? maxFeatureDepth) with
  | some values => .ok values
  | none => .error .broken

/-- The features of a tree that stands where their list should be. -/
def listOf : Tree → Except Flaw (List Value)
  | .array items => valuesOf items
  | .string ps => .error (flawOf ps)
  | _ => .error .otherInstead

/-- The features that are known behind a member with this name. -/
def memberOf (found : Option (List Value)) (name : String) (t : Tree) :
    Except Flaw (Option (List Value)) :=
  if name = "features" then
    if found.isSome then .error .repeatedFeatures else (listOf t).map some
  else .ok found

/-- The features of members, behind others that gave some already or none. -/
def membersOf : Option (List Value) → List (List Piece × Tree) → Except Flaw (List Value)
  | some values, [] => .ok values
  | none, [] => .error .noFeatures
  | found, (key, t) :: ms =>
    match textOf? key with
    | none => .error .broken
    | some name =>
      match memberOf found name t with
      | .error flaw => .error flaw
      | .ok found => membersOf found ms

/-- The features of the items of a record that is written as an array. -/
def itemsOf : List Tree → Except Flaw (List Value)
  | [] => .error .noFeatures
  | [t] => listOf t
  | t :: _ =>
    match listOf t with
    | .error flaw => .error flaw
    | .ok _ => .error .broken

/-- The features of a feed's tree. -/
def featuresOf : Tree → Except Flaw (List Value)
  | .object members => membersOf none members
  | .array items => itemsOf items
  | .string ps => .error (flawOf ps)
  | _ => .error .otherInstead

-- ---------------------------------------------------------------------------
-- Reading a list of features
-- ---------------------------------------------------------------------------

/-- A text that stands in a wrong place is the flaw, or the text is broken. -/
theorem readUnwantedText_append {ps : List Piece} (h : ∀ p ∈ ps, p.Lawful) (rest : List Char) :
    readUnwantedText (ps.flatMap Piece.text ++ '"' :: rest) = flawOf ps := by
  rw [readUnwantedText, readPieces_append h]
  rfl

theorem readFeatures_close {ws : List Char} (h : AllSpace ws) (fuel : Nat) (rest : List Char) :
    readFeatures fuel (ws ++ ']' :: rest) = .ok ([], rest) := by
  have hskip := skipSpace_append_cons (c := ']') h (by decide) rest
  simp only [readFeatures, hskip]

/-- Written items are read as the values of the features. -/
theorem readFeatures_items {cs : List Char} {items : List Tree} (h : WritesItems cs items)
    {fuel : Nat} (hlen : cs.length < fuel) (rest : List Char) :
    readFeatures fuel (cs ++ ']' :: rest) = (valuesOf items).map fun vs => (vs, rest) := by
  obtain ⟨c, tail, hskip, hc⟩ := h.skipSpace_eq (']' :: rest)
  have hitems : readItems fuel (c :: tail) = some (items, rest) := by
    rw [← hskip, readItems_skipSpace, (reads fuel).items h hlen]
  rw [readFeatures, hskip]
  split
  · rename_i heq
    exact absurd (List.cons.inj heq).1 (hc.ne (by decide) (by decide))
  · simp only [hitems, valuesOf]
    cases items.mapM (Tree.value? maxFeatureDepth) <;> rfl

/-- What is no list and no text is a flaw of its own. -/
theorem readList_other {ws tail : List Char} {c : Char} (hb : AllSpace ws) (hc : isSpace c = false)
    (hbracket : c ≠ '[') (hquote : c ≠ '"') (fuel : Nat) :
    readList fuel (ws ++ c :: tail) = .error .otherInstead := by
  rw [readList, skipSpace_append_cons hb hc]
  split
  · rename_i heq
    exact absurd (List.cons.inj heq).1 hbracket
  · rename_i heq
    exact absurd (List.cons.inj heq).1 hquote
  · rename_i heq
    simp at heq
  · rfl

/-- A written tree is read as the list that it is, or with its flaw. -/
theorem readList_append {ws cs : List Char} {t : Tree} (hb : AllSpace ws) (h : Writes cs t)
    {fuel : Nat} (hlen : cs.length ≤ fuel + 1) (rest : List Char) :
    readList fuel (ws ++ (cs ++ rest)) = (listOf t).map fun vs => (vs, rest) := by
  cases h with
  | null => exact readList_other hb (by decide) (by decide) (by decide) fuel
  | true => exact readList_other hb (by decide) (by decide) (by decide) fuel
  | false => exact readList_other hb (by decide) (by decide) (by decide) fuel
  | number h =>
    obtain ⟨c, tail, rfl, hc⟩ := h.exists_cons
    exact readList_other hb hc.opens.not_space (hc.ne (by decide) (by decide))
      (hc.ne (by decide) (by decide)) fuel
  | string h =>
    rw [readList, quoted, List.cons_append, List.cons_append,
      skipSpace_append_cons hb (by decide), List.append_assoc]
    exact congrArg Except.error (readUnwantedText_append h rest)
  | emptyArray h =>
    rw [readList, List.cons_append, skipSpace_append_cons hb (by decide), List.append_assoc]
    exact readFeatures_close h fuel rest
  | array h =>
    simp only [List.length_cons, List.length_append, List.length_nil] at hlen
    rw [readList, List.cons_append, skipSpace_append_cons hb (by decide), List.append_assoc]
    exact readFeatures_items h (by omega) rest
  | emptyObject h => exact readList_other hb (by decide) (by decide) (by decide) fuel
  | object h => exact readList_other hb (by decide) (by decide) (by decide) fuel

-- ---------------------------------------------------------------------------
-- Reading members
-- ---------------------------------------------------------------------------

/-- A written key is read with the colon behind it. -/
theorem readKey_append {start gap : List Char} {key : List Piece} (hs : AllSpace start)
    (hkey : ∀ p ∈ key, p.Lawful) (hg : AllSpace gap) (rest : List Char) :
    readKey (start ++ (quoted key ++ (gap ++ ':' :: rest))) =
      (textOf? key).map fun name => (name, rest) := by
  have hcolon := expect_append_cons (c := ':') hg (by decide) rest
  rw [readKey, expect_quoted hs]
  simp only [Option.bind_eq_bind, Option.bind_some, readPieces_append hkey, hcolon]
  cases textOf? key <;> rfl

/-- A written member is read as the features, or passed over. -/
theorem readMember_append {before cs rest : List Char} {t : Tree} (hb : AllSpace before)
    (h : Writes cs t) {fuel : Nat} (hlen : cs.length ≤ fuel) (hrest : Follows rest)
    (found : Option (List Value)) (name : String) :
    readMember fuel found name (before ++ (cs ++ rest)) =
      (memberOf found name t).map fun found => (found, rest) := by
  rw [readMember, memberOf]
  by_cases hname : name = "features"
  · rw [if_pos hname, if_pos hname]
    by_cases hfound : found.isSome = true
    · rw [if_pos hfound, if_pos hfound]
      rfl
    · rw [if_neg hfound, if_neg hfound, readList_append hb h (by omega)]
      cases listOf t <;> rfl
  · rw [if_neg hname, if_neg hname, readValue_append_space hb, (reads fuel).value h hlen hrest]
    rfl

/-- Written members are read one by one, with the features found so far. -/
theorem readMembers_append {cs : List Char} {ms : List (List Piece × Tree)}
    (h : WritesMembers cs ms) {fuel : Nat} (hlen : cs.length < fuel)
    (found : Option (List Value)) (rest : List Char) :
    readMembers fuel found (cs ++ '\x7d' :: rest) =
      (membersOf found ms).map fun values => (values, rest) := by
  induction ms generalizing cs fuel found with
  | nil => cases h
  | cons m ms ih =>
    obtain ⟨fuel, rfl⟩ := Nat.exists_eq_add_one_of_ne_zero (Nat.ne_zero_of_lt hlen)
    cases h with
    | @one start gap before cs after key t hs hkey hg hb h ha =>
      have hend := skipSpace_append_cons (c := '\x7d') ha (by decide) rest
      simp only [List.length_append, List.length_cons] at hlen
      have hmember := readMember_append hb h (by omega : cs.length ≤ fuel)
        (follows_append_cons ha (.inr (.inr rfl)) rest) found
      simp only [List.append_assoc, List.cons_append]
      rw [readMembers, readKey_append hs hkey hg, membersOf]
      cases textOf? key with
      | none => rfl
      | some name =>
        simp only [Option.map_some, hmember]
        cases memberOf found name t with
        | error flaw => rfl
        | ok found =>
          simp only [Except.map, hend]
          cases found <;> rfl
    | @more start gap before cs after later key t ms hs hkey hg hb h ha hmore =>
      have hsep := skipSpace_append_cons (c := ',') ha (by decide) (later ++ '\x7d' :: rest)
      simp only [List.length_append, List.length_cons] at hlen
      have hmember := readMember_append hb h (by omega : cs.length ≤ fuel)
        (follows_append_cons ha (.inl rfl) (later ++ '\x7d' :: rest)) found
      simp only [List.append_assoc, List.cons_append]
      rw [readMembers, readKey_append hs hkey hg, membersOf]
      cases textOf? key with
      | none => rfl
      | some name =>
        simp only [Option.map_some, hmember]
        cases memberOf found name t with
        | error flaw => rfl
        | ok found =>
          simp only [Except.map, hsep]
          exact ih hmore (by omega) found

-- ---------------------------------------------------------------------------
-- Reading a feed
-- ---------------------------------------------------------------------------

theorem readList_skipSpace (fuel : Nat) (cs : List Char) :
    readList fuel (skipSpace cs) = readList fuel cs := by
  rw [readList, readList, skipSpace_skipSpace]

theorem readMembers_skipSpace (fuel : Nat) (found : Option (List Value)) (cs : List Char) :
    readMembers fuel found (skipSpace cs) = readMembers fuel found cs := by
  have hkey : readKey (skipSpace cs) = readKey cs := by
    rw [readKey, readKey, skipSpace_skipSpace]
  cases fuel with
  | zero => rfl
  | succ fuel => rw [readMembers, readMembers, hkey]

/-- Written items are read as an array that holds the list. -/
theorem readPositional_items {cs : List Char} {items : List Tree} (h : WritesItems cs items)
    {fuel : Nat} (hlen : cs.length < fuel) (rest : List Char) :
    readPositional fuel (cs ++ ']' :: rest) = (itemsOf items).map fun vs => (vs, rest) := by
  obtain ⟨c, tail, hskip, hc⟩ := h.skipSpace_eq (']' :: rest)
  have hlist : readList fuel (c :: tail) = readList fuel (cs ++ ']' :: rest) := by
    rw [← hskip, readList_skipSpace]
  rw [readPositional, hskip]
  split
  · rename_i heq
    exact absurd (List.cons.inj heq).1 (hc.ne (by decide) (by decide))
  · rw [hlist]
    cases h with
    | @one before cs after t hb h ha =>
      have hend := skipSpace_append_cons (c := ']') ha (by decide) rest
      simp only [List.length_append] at hlen
      rw [List.append_assoc, List.append_assoc, readList_append hb h (by omega), itemsOf]
      cases listOf t with
      | error flaw => rfl
      | ok values => simp only [Except.map, hend]
    | @more before cs after later t ts hb h ha hmore =>
      have hsep := skipSpace_append_cons (c := ',') ha (by decide) (later ++ ']' :: rest)
      simp only [List.length_append, List.length_cons] at hlen
      obtain ⟨u, us, rfl⟩ := List.exists_cons_of_ne_nil hmore.ne_nil
      simp only [List.append_assoc, List.cons_append]
      rw [readList_append hb h (by omega), itemsOf]
      · cases listOf t with
        | error flaw => rfl
        | ok values =>
          simp only [Except.map, hsep]
          rfl
      · simp

theorem readFeed_other {ws tail : List Char} {c : Char} (hb : AllSpace ws) (hc : isSpace c = false)
    (hbracket : c ≠ '[') (hquote : c ≠ '"') (hbrace : c ≠ '\x7b') (fuel : Nat) :
    readFeed fuel (ws ++ c :: tail) = .error .otherInstead := by
  rw [readFeed, skipSpace_append_cons hb hc]
  split
  · rename_i heq
    simp at heq
  · rename_i heq
    exact absurd (List.cons.inj heq).1 hbracket
  · rename_i heq
    exact absurd (List.cons.inj heq).1 hquote
  · rename_i heq
    exact absurd (List.cons.inj heq).1 hbrace
  · rfl

/-- A written tree is read as the features of a feed, or with its flaw. -/
theorem readFeed_append {ws cs : List Char} {t : Tree} (hb : AllSpace ws) (h : Writes cs t)
    {fuel : Nat} (hlen : cs.length ≤ fuel + 1) (rest : List Char) :
    readFeed fuel (ws ++ (cs ++ rest)) = (featuresOf t).map fun vs => (vs, rest) := by
  cases h with
  | null => exact readFeed_other hb (by decide) (by decide) (by decide) (by decide) fuel
  | true => exact readFeed_other hb (by decide) (by decide) (by decide) (by decide) fuel
  | false => exact readFeed_other hb (by decide) (by decide) (by decide) (by decide) fuel
  | number h =>
    obtain ⟨c, tail, rfl, hc⟩ := h.exists_cons
    exact readFeed_other hb hc.opens.not_space (hc.ne (by decide) (by decide))
      (hc.ne (by decide) (by decide)) (hc.ne (by decide) (by decide)) fuel
  | string h =>
    rw [readFeed, quoted, List.cons_append, List.cons_append,
      skipSpace_append_cons hb (by decide), List.append_assoc]
    exact congrArg Except.error (readUnwantedText_append h rest)
  | emptyArray h =>
    have hend := skipSpace_append_cons (c := ']') h (by decide) rest
    rw [readFeed, List.cons_append, skipSpace_append_cons hb (by decide), List.append_assoc]
    simp only [List.singleton_append, readPositional, hend]
    rfl
  | array h =>
    simp only [List.length_cons, List.length_append, List.length_nil] at hlen
    rw [readFeed, List.cons_append, skipSpace_append_cons hb (by decide), List.append_assoc]
    exact readPositional_items h (by omega) rest
  | emptyObject h =>
    have hend := skipSpace_append_cons (c := '\x7d') h (by decide) rest
    rw [readFeed, List.cons_append, skipSpace_append_cons hb (by decide), List.append_assoc]
    simp only [List.singleton_append, hend]
    rfl
  | @object cs members h =>
    obtain ⟨tail, hskip⟩ := h.skipSpace_eq ('\x7d' :: rest)
    simp only [List.length_cons, List.length_append, List.length_nil] at hlen
    have hmembers : readMembers fuel none ('"' :: tail) =
        (membersOf none members).map fun values => (values, rest) := by
      rw [← hskip, readMembers_skipSpace, readMembers_append h (by omega)]
    rw [readFeed, List.cons_append, skipSpace_append_cons hb (by decide), List.append_assoc]
    simp only [List.singleton_append, hskip]
    exact hmembers

/-- **A text of the grammar gives what its tree gives.** -/
theorem featuresOfText_of_document {text : String} {t : Tree} (h : Document text.toList t) :
    featuresOfText text = featuresOf t := by
  rw [featuresOfText]
  generalize text.toList = whole at h ⊢
  cases h with
  | @mk before cs after t hb h ha =>
    have hlen : cs.length ≤ 2 * (before ++ (cs ++ after)).length + 2 + 1 := by
      simp only [List.length_append]
      omega
    rw [readFeed_append hb h hlen]
    cases featuresOf t with
    | error flaw => rfl
    | ok values => simp [Except.map, skipSpace_allSpace ha]

-- ---------------------------------------------------------------------------
-- Feeds with one list of features
-- ---------------------------------------------------------------------------

/-- One of the members is named for the features, and holds a list of these items. -/
def OneList (members : List (List Piece × Tree)) (items : List Tree) : Prop :=
  ∃ front key back, members = front ++ (key, .array items) :: back ∧
    textOf? key = some "features" ∧ ∀ m ∈ front ++ back, textOf? m.1 ≠ some "features"

/-- Every key writes a text, and every item has a value as a feature. -/
structure Readable (members : List (List Piece × Tree)) (items : List Tree) : Prop where
  keys : ∀ m ∈ members, textOf? m.1 ≠ none
  items : ∀ t ∈ items, ¬ Unreadable maxFeatureDepth t

section

variable {front : List (List Piece × Tree)}
  (hname : ∀ m ∈ front, textOf? m.1 ≠ some "features")

include hname

/-- Members under other keys in front make no difference. -/
theorem membersOf_append (htext : ∀ m ∈ front, textOf? m.1 ≠ none) (found : Option (List Value))
    (tail : List (List Piece × Tree)) : membersOf found (front ++ tail) = membersOf found tail := by
  induction front with
  | nil => rfl
  | cons m front ih =>
    obtain ⟨hm, hnames⟩ := List.forall_mem_cons.mp hname
    obtain ⟨hmtext, htexts⟩ := List.forall_mem_cons.mp htext
    obtain ⟨name, hkey⟩ := Option.ne_none_iff_exists'.mp hmtext
    have hne : name ≠ "features" := fun heq => hm (heq ▸ hkey)
    rw [List.cons_append, membersOf, hkey]
    simp only [memberOf, if_neg hne]
    exact ih hnames htexts

/-- A key that writes no text is a flaw, whatever comes behind it. -/
theorem membersOf_append_broken (hnone : ∃ m ∈ front, textOf? m.1 = none)
    (found : Option (List Value)) (tail : List (List Piece × Tree)) :
    membersOf found (front ++ tail) = .error .broken := by
  induction front with
  | nil => simp at hnone
  | cons m front ih =>
    obtain ⟨hm, hnames⟩ := List.forall_mem_cons.mp hname
    rw [List.cons_append, membersOf]
    cases hkey : textOf? m.1 with
    | none => rfl
    | some name =>
      have hne : name ≠ "features" := fun heq => hm (heq ▸ hkey)
      obtain ⟨n, hn, hnkey⟩ := hnone
      -- the bad key is not this one, so it is a later one
      rcases List.mem_cons.mp hn with rfl | hn
      · simp [hkey] at hnkey
      · simp only [memberOf, if_neg hne]
        exact ih hnames ⟨n, hn, hnkey⟩

end

/-- The list of features is found under its key. -/
theorem membersOf_features {key : List Piece} (h : textOf? key = some "features")
    (items : List Tree) (tail : List (List Piece × Tree)) :
    membersOf none ((key, .array items) :: tail) =
      match valuesOf items with
      | .error flaw => .error flaw
      | .ok values => membersOf (some values) tail := by
  rw [membersOf, h]
  simp only [memberOf, Option.isSome_none, listOf]
  cases valuesOf items <;> rfl

/-- The name of the list of features, as it is written. -/
def featuresKey : List Piece :=
  encode "features".toList

theorem textOf?_featuresKey : textOf? featuresKey = some "features" := by
  rw [textOf?, featuresKey, decode?_encode, Option.map_some, String.ofList_toList]

theorem oneList_featuresKey (items : List Tree) : OneList [(featuresKey, .array items)] items :=
  ⟨[], featuresKey, [], rfl, textOf?_featuresKey, List.forall_mem_nil _⟩

/-- An object with nothing but the list of features, written without blanks. -/
theorem document_features {cs : List Char} {items : List Tree} (h : WritesItems cs items) :
    Document ('\x7b' :: (quoted featuresKey ++ ':' :: '[' :: (cs ++ [']']) ++ ['\x7d']))
      (.object [(featuresKey, .array items)]) := by
  have hmember : WritesMembers
      ([] ++ (quoted featuresKey ++ ([] ++ ':' :: ([] ++ ('[' :: (cs ++ [']']) ++ [])))))
      [(featuresKey, .array items)] :=
    .one allSpace_nil (lawful_encode _) allSpace_nil allSpace_nil (.array h) allSpace_nil
  have hdocument := Document.mk allSpace_nil (.object hmember) allSpace_nil
  simpa only [List.nil_append, List.append_nil] using hdocument

theorem writesItems_emptyObject : WritesItems ['\x7b', '\x7d'] [.object []] :=
  .one allSpace_nil (.emptyObject allSpace_nil) allSpace_nil

theorem writesItems_loneHalf : WritesItems "\x7b\x7d,\"\\ud800\"".toList
    [.object [], .string [.unit 'd' '8' '0' '0']] := by
  have hlawful : ∀ p ∈ [Piece.unit 'd' '8' '0' '0'], p.Lawful :=
    List.forall_mem_singleton.mpr (.unit (n := 0xd800) (by decide))
  exact .more allSpace_nil (.emptyObject allSpace_nil) allSpace_nil
    (.one allSpace_nil (.string hlawful) allSpace_nil)

/-- **When a feed with one list of features is read.** It gives one value for each item if every
item has a value and every key writes a text. Otherwise nothing of it is kept. -/
theorem parse_of_oneList {words : Wording} {text : String} {members : List (List Piece × Tree)}
    {items : List Tree} (h : Document text.toList (.object members))
    (hone : OneList members items) :
    (Readable members items → ∃ values, parse words text = .ok values ∧
      List.Forall₂ (fun t v => t.value? maxFeatureDepth = some v) items values) ∧
    (¬ Readable members items →
      parse words text = .error (.notAFeed (words.flaw .broken text))) := by
  obtain ⟨front, key, back, rfl, hkey, hother⟩ := hone
  obtain ⟨hfront, hback⟩ := List.forall_mem_append.mp hother
  rw [parse, featuresOfText_of_document h, featuresOf]
  constructor
  · intro hr
    obtain ⟨htexts, htail⟩ := List.forall_mem_append.mp hr.keys
    obtain ⟨values, hvalues⟩ := exists_values_iff.mpr hr.items
    have hbackOnly := membersOf_append hback (List.forall_mem_cons.mp htail).2 (some values) []
    rw [List.append_nil] at hbackOnly
    refine ⟨values, ?_, mapM_eq_some_iff.mp hvalues⟩
    rw [membersOf_append hfront htexts, membersOf_features hkey, valuesOf, hvalues]
    simp only [hbackOnly, membersOf]
  · intro hr
    have hbroken : membersOf none (front ++ (key, .array items) :: back) = .error .broken := by
      by_cases htexts : ∀ m ∈ front, textOf? m.1 ≠ none
      · rw [membersOf_append hfront htexts, membersOf_features hkey, valuesOf]
        cases hvalues : items.mapM (Tree.value? maxFeatureDepth) with
        | none => rfl
        | some values =>
          -- nothing is wrong up to the end of the list, so there is a bad key behind it
          have hnone : ∃ m ∈ back, textOf? m.1 = none := by
            refine Decidable.by_contra fun hall => hr ⟨?_, exists_values_iff.mp ⟨values, hvalues⟩⟩
            have htail : ∀ m ∈ (key, Tree.array items) :: back, textOf? m.1 ≠ none :=
              List.forall_mem_cons.mpr ⟨by simp [hkey], fun m hm hnone => hall ⟨m, hm, hnone⟩⟩
            exact List.forall_mem_append.mpr ⟨htexts, htail⟩
          have hbackOnly := membersOf_append_broken hback hnone (some values) []
          rwa [List.append_nil] at hbackOnly
      · refine membersOf_append_broken hfront ?_ none _
        simpa using htexts
    rw [hbroken]

/-- A feature without members is a value and breaks nothing. -/
theorem parse_emptyObject : ∃ (words : Wording) (values : List Value),
    parse words "\x7b\"features\":[\x7b\x7d]\x7d" = .ok values ∧
      List.Forall₂ (fun (t : Tree) v => t.value? maxFeatureDepth = some v) [.object []] values := by
  have htext : "\x7b\"features\":[\x7b\x7d]\x7d".toList =
      '\x7b' :: (quoted featuresKey ++ ':' :: '[' :: (['\x7b', '\x7d'] ++ [']']) ++ ['\x7d']) := by
    decide
  have hdocument := document_features writesItems_emptyObject
  rw [← htext] at hdocument
  let words : Wording := ⟨fun _ _ => "expected value", fun _ => "expected struct Feature"⟩
  refine ⟨words, (parse_of_oneList hdocument (oneList_featuresKey _)).1 ⟨?_, ?_⟩⟩
  · rintro m hm
    obtain rfl := List.mem_singleton.mp hm
    simp [textOf?_featuresKey]
  · rintro t ht
    obtain rfl := List.mem_singleton.mp ht
    rw [← value?_eq_none_iff]
    exact Option.some_ne_none _

/-- One feature without a value is enough for a feed not to be read. -/
theorem parse_loneHalf : ¬ ∃ words : Wording, ∀ (text : String)
    (members : List (List Piece × Tree)) (items : List Tree),
      Document text.toList (.object members) → OneList members items →
        ∃ values, parse words text = .ok values ∧ values.length = items.length := by
  rintro ⟨words, hall⟩
  have htext : "\x7b\"features\":[\x7b\x7d,\"\\ud800\"]\x7d".toList =
      '\x7b' :: (quoted featuresKey ++ ':' :: '[' :: ("\x7b\x7d,\"\\ud800\"".toList ++ [']']) ++
        ['\x7d']) := by
    decide
  have hdocument := document_features writesItems_loneHalf
  rw [← htext] at hdocument
  obtain ⟨values, hvalues, -⟩ := hall _ _ _ hdocument (oneList_featuresKey _)
  have hbroken : membersOf none
      [(featuresKey, .array [.object [], .string [.unit 'd' '8' '0' '0']])] = .error .broken := by
    rw [membersOf_features textOf?_featuresKey]
    rfl
  rw [parse, featuresOfText_of_document hdocument, featuresOf, hbroken] at hvalues
  simp at hvalues

end OpeningHours.Feed
