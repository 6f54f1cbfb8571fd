import GraphQuery.Address
import GraphQuery.Text.Utf8

/-!
# HTTP links

A link sends the text of a query to a valid address as the body of a POST request and gives back the
body of the answer. The client that carries the requests is not part of this library. It is asked to
make a request, to send it and to be closed, and it may behave in any way: what comes of a demand
may depend on all demands before. A link that was given a client never closes it; a client of its
own it does.

A fault is reported by where it happens: while the request is made, a fault in what it is made of is
a malformed request; while the request is on its way, a failed exchange is a failed request, and so
is an answer whose status is an error. All other faults pass through, and so does what keeps the
text of such an answer from being read.
-/

namespace GraphQuery

/-- A request as it is sent. -/
structure Request where
  method : String
  url : String
  contentType : String
  body : List UInt8
deriving DecidableEq, Repr

/-- An answer as a client gives it back. -/
structure Response where
  status : Int
  body : List UInt8
  /-- The text of the body, or what keeps it from being read. -/
  text : Except Fault String

/-- What is asked of a client. -/
inductive Demand
  /-- To make a request. -/
  | make (request : Request)
  /-- To send a request that was made. -/
  | send (request : Request)
  /-- To be closed. -/
  | close
deriving DecidableEq, Repr

/-- How a client behaves, given all that was asked of it before, oldest first. -/
structure Behaviour where
  /-- What keeps a request from being made, if anything does. -/
  make : List Demand → Request → Option Fault
  /-- What comes of sending a request. -/
  send : List Demand → Request → Except Fault Response

/-- An HTTP client. -/
structure Client where
  behaviour : Behaviour
  /-- What was asked of the client, oldest first. -/
  demands : List Demand

namespace Client

/-- A client that nothing was asked of. -/
def new (behaviour : Behaviour) : Client := ⟨behaviour, []⟩

/-- A client after a further demand. -/
def ask (c : Client) (d : Demand) : Client := { c with demands := c.demands ++ [d] }

/-- The requests that the client was to send, oldest first. -/
def sent (c : Client) : List Request :=
  c.demands.filterMap fun d ↦
    match d with
    | .send r => some r
    | _ => none

/-- Whether the client was closed. -/
def closed (c : Client) : Bool := c.demands.contains .close

end Client

/-- The outcome of sending a query, the sender after it, and what was logged. -/
structure Exchanged (σ α : Type) where
  outcome : Except Error α
  after : σ
  log : List LogEntry

/-- The body of an answer without rows. -/
def emptyAnswer : List UInt8 := Text.Utf8.encode "\x7b\"result\": null\x7d".toList

/-- A valid address and the client that serves it. -/
structure Link where
  url : Address
  client : Client
  /-- Whether the client is the link's own. -/
  owned : Bool

namespace Link

/-- Whether a status is an error. -/
def isErrorStatus (status : Int) : Bool := 400 ≤ status && status ≤ 599

/-- How much of the text of an error is reported. -/
def excerptLength : Nat := 200

/-- What is said of an answer whose status is an error. -/
def statusReason (status : Int) (text : String) : String :=
  "HTTP " ++ toString status ++ ": " ++ String.ofList (text.toList.take excerptLength)

/-- The request for a query. -/
def request (l : Link) (query : String) : Request :=
  ⟨"POST", l.url.text, "text/plain; charset=utf-8", Text.Utf8.encode query.toList⟩

/-- What is logged of a request that was made. -/
def requestEntry (r : Request) : LogEntry :=
  ⟨.debug, "POST " ++ r.url ++ " (" ++ toString r.body.length ++ " bytes)"⟩

/-- The outcome of a request that could not be made. -/
def unmadeOutcome (l : Link) (f : Fault) : Error :=
  if f.kind.isConstruction then .malformedRequest (.text l.url.text) f.message else .fault f

/-- The outcome of a request that was answered. -/
def answerOutcome (query : String) (r : Response) : Except Error (List UInt8) :=
  if isErrorStatus r.status then
    match r.text with
    | .ok text => .error (.requestFailed (.text query) (statusReason r.status text))
    | .error f => .error (.fault f)
  else .ok r.body

/-- The outcome of a request that was sent. -/
def sentOutcome (query : String) : Except Fault Response → Except Error (List UInt8)
  | .ok r => answerOutcome query r
  | .error f =>
    .error (if f.kind.isExchange then .requestFailed (.text query) f.message else .fault f)

/-- A link after a further demand on its client. -/
def ask (l : Link) (d : Demand) : Link := { l with client := l.client.ask d }

/-- Sends a query. -/
def send (l : Link) (query : String) : Exchanged Link (List UInt8) :=
  let r := l.request query
  let made := l.ask (.make r)
  match l.client.behaviour.make l.client.demands r with
  | some f => ⟨.error (l.unmadeOutcome f), made, []⟩
  | none =>
    ⟨sentOutcome query (made.client.behaviour.send made.client.demands r), made.ask (.send r),
      [requestEntry r]⟩

/-- The error of sending what is no text, given the error of encoding it. A call that does not fit
keeps the request from being made. -/
def refusal (l : Link) (e : Error) : Error :=
  match e with
  | .notCallable _ => .malformedRequest (.text l.url.text) e.message
  | e => e

/-- Closes the client if it is the link's own. -/
def close (l : Link) : Link := if l.owned then l.ask .close else l

/-- A link to an address over a client that behaves in a given way: one that was given, or a new one
of its own. -/
def connect (read : Reader) (address : Plain) (behaviour : Behaviour) (owned : Bool) :
    Except Error Link := do
  return ⟨← Address.validate read address, .new behaviour, owned⟩

end Link

/-! ### Clients that follow a script -/

/-- What a script has for one request. -/
inductive HttpReply
  /-- It is answered. -/
  | answer (status : Int) (body : List UInt8)
  /-- It cannot be sent. -/
  | fails (fault : Fault)
  /-- It cannot be made. -/
  | unmade (fault : Fault)
deriving DecidableEq, Repr

namespace HttpReply

/-- The reply to the request that is made after so many others. After the last one every answer is
empty. -/
def nth (replies : List HttpReply) (n : Nat) : HttpReply :=
  replies[n]?.getD (.answer 200 emptyAnswer)

/-- What comes of sending a request that has a reply. The text of an answer is in UTF-8. -/
def outcome : HttpReply → Except Fault Response
  | answer status body => .ok ⟨status, body, .ok (String.ofList (Text.Utf8.decodeLossy body))⟩
  | fails f | unmade f => .error f

end HttpReply

/-- How many requests were to be made. -/
def Demand.attempts (demands : List Demand) : Nat :=
  demands.countP fun d ↦
    match d with
    | make _ => true
    | _ => false

/-- The behaviour of a client that has a reply for each request, and sends nothing any more once it
was closed. -/
def Behaviour.scripted (replies : List HttpReply) : Behaviour where
  make demands _ :=
    match HttpReply.nth replies (Demand.attempts demands) with
    | .unmade f => some f
    | _ => none
  send demands _ :=
    if demands.contains .close then
      .error ⟨.runtime, "Cannot send a request, as the client has been closed."⟩
    else (HttpReply.nth replies (Demand.attempts demands - 1)).outcome

end GraphQuery
