import OpeningHours.Feed.Collection
import OpeningHours.Journal
import OpeningHours.Text
import OpeningHours.Text.Quoted

/-!
# OpeningHours — asking a server for the feed

A request names the feed's address, and is answered, completely or not, or never answered. Only a
complete answer with a status of success is read; one without content is empty.

Why the feed could not be had is put into words, and a failure is classed by these words, wherever
in the message they stand.

* `FeedError.text`   — the wording of a failure.
* `FeedError.report` — the kind of a failure with what it concerns.
* `classOf`          — the class of a message.
* `failureEntry`     — the journal's entry about a failure.
* `fetch`            — the features that the answer to a request gives.
-/

namespace OpeningHours.Feed

-- ---------------------------------------------------------------------------
-- Failures
-- ---------------------------------------------------------------------------

/-- Why the feed could not be had. -/
inductive FeedError where
  /-- The server answered with a status that is no success. -/
  | httpStatus (code : Nat)
  /-- There was no complete answer. -/
  | requestFailed (reason : String)
  /-- The answer is no feed. -/
  | notAFeed (reason : String)
  /-- A saved feed cannot be read. -/
  | unreadable (reason : String)
deriving DecidableEq

/-- The wording of a failure. -/
def FeedError.text : FeedError → String
  | httpStatus code => "HTTP error: " ++ Text.decimal code
  | requestFailed reason => "Request failed: " ++ reason
  | notAFeed reason => "Parse error: " ++ reason
  | unreadable reason => "I/O error: " ++ reason

/-- The kind of a failure with what it concerns, as the command line reports it. -/
def FeedError.report : FeedError → String
  | httpStatus code => "HttpError(" ++ Text.decimal code ++ ")"
  | requestFailed reason => "RequestFailed(" ++ Text.quoted reason ++ ")"
  | notAFeed reason => "ParseError(" ++ Text.quoted reason ++ ")"
  | unreadable reason => "Io(" ++ Text.quoted reason ++ ")"

/-- How a failure is to be taken. -/
inductive FailureClass where
  /-- Maintenance or a limit on requests, which pass. -/
  | expected
  /-- A change of the provider, or a wrong configuration. -/
  | unexpected
  | unknown
deriving DecidableEq

/-- The word for a class. -/
def FailureClass.label : FailureClass → String
  | expected => "EXPECTED"
  | unexpected => "UNEXPECTED"
  | unknown => "UNKNOWN"

/-- The message holds one of these texts. -/
def mentions (message : String) (texts : List String) : Bool :=
  texts.any fun t => Text.occursIn t.toList message.toList

/-- The class of a message, by the texts it holds. -/
def classOf (message : String) : FailureClass :=
  if mentions message ["HTTP error: 429", "HTTP error: 503"] then .expected
  else if mentions message ["HTTP error", "Parse error"] then .unexpected
  else .unknown

/-- The level at which a failure of a class is reported. -/
def FailureClass.level : FailureClass → Journal.Level
  | unexpected => .error
  | _ => .warning

def FeedError.failureClass (e : FeedError) : FailureClass :=
  classOf e.text

/-- The journal's entry about a failed operation. -/
def failureEntry (operation : String) (e : FeedError) : Journal.Entry where
  level := e.failureClass.level
  source := .feed
  subject := none
  message := operation ++ " failed [" ++ e.failureClass.label ++ "]: " ++ e.text

-- ---------------------------------------------------------------------------
-- Requests and answers
-- ---------------------------------------------------------------------------

open Json (Value)

/-- A request: the address that is asked, the kinds of answers that are taken, and the longest time
to wait for one. -/
structure Request where
  address : String
  accept : String
  seconds : Nat
deriving DecidableEq

/-- The kinds of answers that are taken. -/
def acceptedKinds : String := "application/geo+json, application/json"

/-- What a server sends for a request. -/
structure Answer where
  status : Nat
  /-- The content, or why it could not be had completely. -/
  body : Except String String

/-- What becomes of a request. -/
inductive Outcome where
  | answered (answer : Answer)
  | failed (reason : String)

/-- The status of an answer without content. -/
def noContent : Nat := 204

/-- The status is one of success. -/
def isSuccess (status : Nat) : Bool :=
  200 ≤ status && status < 300

/-- The text without the mark for byte order at its start. -/
def dropOrderMark (s : String) : String :=
  match s.toList with
  | '\ufeff' :: rest => String.ofList rest
  | _ => s

section

variable (words : Wording)

/-- The features of a feed's text. -/
def parse (text : String) : Except FeedError (List Value) :=
  match featuresOfText text with
  | .ok features => .ok features
  | .error flaw => .error (.notAFeed (words.flaw flaw text))

/-- The features that the outcome of a request gives. -/
def fetch : Outcome → Except FeedError (List Value)
  | .failed reason => .error (.requestFailed reason)
  | .answered a =>
    -- the status is known before the content is there
    if !isSuccess a.status then .error (.httpStatus a.status)
    else if a.status = noContent then parse words ""
    else
      match a.body with
      | .ok content => parse words (dropOrderMark content)
      | .error reason => .error (.requestFailed reason)

end

end OpeningHours.Feed
