import OpeningHours.Json.Reader
import OpeningHours.Json.Value

/-!
# OpeningHours — reading the feed

The feed is a JSON object whose one member `features` is a list of values; of its other members only
the syntax is checked. An array with that list as its only item is also taken. Reading goes from
front to back and stops at the first flaw. How a flaw is put into words is left to the reader that
is used, and so is why a value is no feature.

* `featuresOfText` — the values of the features of a feed, or its flaw.
* `Wording`        — the words of the reader.
-/

namespace OpeningHours.Feed

open Json (Value Tree skipSpace)

/-- What is wrong with a text that is no feed. -/
inductive Flaw where
  /-- The text is no JSON text, or a feature has no value. -/
  | broken
  /-- A text stands where the feed or its list of features should be. -/
  | textInstead (found : String)
  /-- Something else stands there. -/
  | otherInstead
  | noFeatures
  | repeatedFeatures
deriving DecidableEq

/-- The words of the reader of texts and values. They decide nothing here, but messages quote
them. -/
structure Wording where
  /-- What is said of a flaw of a text. -/
  flaw : Flaw → String → String
  /-- What is said of a value that is no feature. -/
  badFeature : Value → String

/-- The levels of arrays and objects that a feature may have, which is two levels deep itself. -/
def maxFeatureDepth : Nat := Json.maxDepth - 2

/-- Reads the text behind an opening quote, which is not wanted. -/
def readUnwantedText (cs : List Char) : Flaw :=
  match Json.readPieces cs with
  | some (pieces, _) =>
    match Json.textOf? pieces with
    | some found => .textInstead found
    | none => .broken
  | none => .broken

/-- Reads the items of a list of features up to its closing bracket. -/
def readFeatures (fuel : Nat) (cs : List Char) : Except Flaw (List Value × List Char) :=
  match skipSpace cs with
  | ']' :: rest => .ok ([], rest)
  | rest =>
    match Json.readItems fuel rest with
    | some (trees, rest) =>
      match trees.mapM (Tree.value? maxFeatureDepth) with
      | some values => .ok (values, rest)
      | none => .error .broken
    | none => .error .broken

/-- Reads a list of features. -/
def readList (fuel : Nat) (cs : List Char) : Except Flaw (List Value × List Char) :=
  match skipSpace cs with
  | '[' :: rest => readFeatures fuel rest
  | '"' :: rest => .error (readUnwantedText rest)
  | [] => .error .broken
  | _ => .error .otherInstead

/-- Reads the key of a member and the colon behind it. -/
def readKey (cs : List Char) : Option (String × List Char) := do
  let rest ← Text.expect '"' (skipSpace cs)
  let (pieces, rest) ← Json.readPieces rest
  let key ← Json.textOf? pieces
  let rest ← Text.expect ':' (skipSpace rest)
  some (key, rest)

/-- Reads the value of a member, which is the list of features under its key. -/
def readMember (fuel : Nat) (found : Option (List Value)) (key : String) (cs : List Char) :
    Except Flaw (Option (List Value) × List Char) :=
  if key = "features" then
    if found.isSome then .error .repeatedFeatures
    else
      match readList fuel cs with
      | .ok (values, rest) => .ok (some values, rest)
      | .error flaw => .error flaw
  else
    match Json.readValue fuel cs with
    | some (_, rest) => .ok (found, rest)
    | none => .error .broken

/-- Reads the members of the feed up to its closing brace, with the features found so far. -/
def readMembers : Nat → Option (List Value) → List Char → Except Flaw (List Value × List Char)
  | 0, _, _ => .error .broken
  | fuel + 1, found, cs =>
    match readKey cs with
    | none => .error .broken
    | some (key, rest) =>
      match readMember fuel found key rest with
      | .error flaw => .error flaw
      | .ok (found, rest) =>
        match skipSpace rest, found with
        | ',' :: rest, found => readMembers fuel found rest
        | '}' :: rest, some values => .ok (values, rest)
        | '}' :: _, none => .error .noFeatures
        | _, _ => .error .broken

/-- Reads an array that holds only the list of features. -/
def readPositional (fuel : Nat) (cs : List Char) : Except Flaw (List Value × List Char) :=
  match skipSpace cs with
  | ']' :: _ => .error .noFeatures
  | rest =>
    match readList fuel rest with
    | .error flaw => .error flaw
    | .ok (values, rest) =>
      match skipSpace rest with
      | ']' :: rest => .ok (values, rest)
      | _ => .error .broken

def readFeed (fuel : Nat) (cs : List Char) : Except Flaw (List Value × List Char) :=
  match skipSpace cs with
  | [] => .error .broken
  | '[' :: rest => readPositional fuel rest
  | '"' :: rest => .error (readUnwantedText rest)
  | '{' :: rest =>
    match skipSpace rest with
    | '}' :: _ => .error .noFeatures
    | rest => readMembers fuel none rest
  | _ => .error .otherInstead

/-- The values of the features of a feed. -/
def featuresOfText (text : String) : Except Flaw (List Value) :=
  match readFeed (2 * text.toList.length + 2) text.toList with
  | .ok (values, rest) => if (skipSpace rest).isEmpty then .ok values else .error .broken
  | .error flaw => .error flaw

end OpeningHours.Feed
