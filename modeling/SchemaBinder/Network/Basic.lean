/-!
# Networks

What a network answers when the text at a URL is asked for: a response with a status and a body, or
none.  Redirections are followed, names are looked up and connections are made on its side; all that
the program sees is the last response.

A network is taken as it is: any answer to any URL, after any time.  Time is a part of the answer,
so no clock is read.
-/

namespace SchemaBinder

/-- The status of a response. -/
structure Status where
  /-- The number. -/
  code : Nat
  /-- The usual wording of the number. -/
  phrase : String
deriving DecidableEq, Repr

namespace Status

/-- Does a status stand for a success? -/
def isSuccess (s : Status) : Bool := 200 ≤ s.code && s.code < 300

/-- The wording of a status. -/
def message (s : Status) : String := s!"{s.code} {s.phrase}"

end Status

/-- What is answered to a request. -/
inductive Reply where
  /-- There is no response. -/
  | failure (cause : String)
  /-- A response.  Its body is a text, or cannot be read to its end. -/
  | response (status : Status) (body : Except String String)

/-- Why no text came over the network. -/
inductive NetworkFailure where
  /-- There is no response. -/
  | unanswered (cause : String)
  /-- The status of the response is no success. -/
  | refused (status : Status)
  /-- The body of the response cannot be read to its end. -/
  | brokenOff (cause : String)
deriving DecidableEq, Repr

/-- The wording of a failure, after that of what was asked for and of what was to be read. -/
def NetworkFailure.message (asked answer : String) : NetworkFailure → String
  | unanswered cause => s!"Failed to fetch {asked}: {cause}"
  | refused status => s!"Failed to fetch {asked}: HTTP " ++ status.message
  | brokenOff cause => s!"Failed to read {answer}: {cause}"

/-- The text that came over the network.  The body of a response that is no success is not read. -/
def Reply.text : Reply → Except NetworkFailure String
  | failure cause => .error (.unanswered cause)
  | response status body =>
    if status.isSuccess then body.mapError .brokenOff else .error (.refused status)

/-- What is answered to a request, and when. -/
structure Exchange where
  /-- The answer. -/
  reply : Reply
  /-- The number of milliseconds until it is there as far as it is read. -/
  duration : Nat

/-- What is answered to the request for each URL. -/
structure Network where
  /-- The answer for a URL, and when it is there. -/
  exchange : String → Exchange

namespace Network

/-- The answer to the request for a URL. -/
def reply (network : Network) (url : String) : Reply := (network.exchange url).reply

/-- The answer that is there within a number of seconds. -/
def replyWithin (network : Network) (seconds : UInt64) (url : String) : Option Reply :=
  if (network.exchange url).duration ≤ 1000 * seconds.toNat then some (network.reply url) else none

/-- No network: nothing answers, which shows at once. -/
def offline : Network := ⟨fun _ => ⟨.failure "network is unreachable", 0⟩⟩

end Network

end SchemaBinder
