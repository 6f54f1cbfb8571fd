import GraphQuery.Endpoint
import GraphQuery.Result.Envelope
import GraphQuery.Transport.Http
import GraphQuery.Value

/-!
# Transports and stores

A transport takes the text of a query and gives back a reply. Besides a link it may be a recorder,
which remembers what it was given, be it a text or not, and replies by a script. A store is an
address and the transport that leads there.
-/

namespace GraphQuery

/-- What a recorder does with one query. -/
inductive Reply
  | source (source : Source)
  | fails (error : Error)

/-- A transport that replies by a script. -/
structure Recorder where
  /-- The replies to the queries to come; after the last of them every answer is empty. -/
  replies : List Reply
  /-- What was sent, oldest first. -/
  sent : List Value
  /-- Whether it can be closed at all. -/
  closable : Bool
  closed : Bool

namespace Recorder

/-- A recorder that is open and was given nothing. -/
def new (replies : List Reply) (closable : Bool) : Recorder := ⟨replies, [], closable, false⟩

/-- The reply to the next query. -/
def nextReply (r : Recorder) : Reply := r.replies.head?.getD (.source (.bytes emptyAnswer))

/-- The outcome of a reply. -/
def outcome : Reply → Except Error Source
  | .source s => .ok s
  | .fails e => .error e

/-- Takes whatever is sent. -/
def send (r : Recorder) (query : Value) : Exchanged Recorder Source :=
  ⟨outcome r.nextReply, { r with replies := r.replies.tail, sent := r.sent ++ [query] }, []⟩

/-- Closes a recorder that can be closed. -/
def close (r : Recorder) : Recorder := if r.closable then { r with closed := true } else r

end Recorder

/-- The fault of writing a text of code points in UTF-8: it names the first surrogates in a row. -/
def Fault.unencodable (t : CodePoints) : Fault :=
  let isCharacter (p : CodePoint) : Bool := (CodePoint.char? p).isSome
  let start := (t.toList.takeWhile isCharacter).length
  let surrogates := (t.toList.drop start).takeWhile fun p ↦ !isCharacter p
  let place :=
    match surrogates with
    | [p] => "character '\\u" ++ String.ofList (Text.hex4 p.val) ++ "' in position " ++
      toString start
    | _ => "characters in position " ++ toString start ++ "-" ++
      toString (start + surrogates.length - 1)
  ⟨.encoding, "'utf-8' codec can't encode " ++ place ++ ": surrogates not allowed"⟩

/-- Sends a text over a link, and nothing else. The error of encoding what is no text is given. -/
def Link.sendValue (l : Link) (query : Value) (unencodable : Error) :
    Exchanged Link (List UInt8) :=
  match query with
  | .plain (.text s) => l.send s
  | .plain (.broken t) => ⟨.error (l.unmadeOutcome (.unencodable t)), l, []⟩
  | _ => ⟨.error (l.refusal unencodable), l, []⟩

@[simp] theorem Link.sendValue_text (l : Link) (query : String) (unencodable : Error) :
    l.sendValue (.text query) unencodable = l.send query := rfl

/-- What carries queries to a store. -/
inductive Transport
  | recorder (recorder : Recorder)
  | link (link : Link)

namespace Transport

/-- Sends whatever is taken as a query: a recorder takes everything, a link only texts. The error of
encoding what is no text is given. -/
def send (t : Transport) (query : Value) (unencodable : Error) : Exchanged Transport Source :=
  match t with
  | recorder r =>
    let x := r.send query
    ⟨x.outcome, recorder x.after, x.log⟩
  | link l =>
    let x := l.sendValue query unencodable
    ⟨x.outcome.map .bytes, link x.after, x.log⟩

/-- Closes what can be closed. -/
def close : Transport → Transport
  | recorder r => recorder r.close
  | link l => link l.close

/-- Whether the far end was closed. -/
def isClosed : Transport → Bool
  | recorder r => r.closed
  | link l => l.client.closed

end Transport

/-- An address and the transport that leads there. -/
structure Store where
  address : String
  transport : Transport
  /-- What the transport was given to send, oldest first. -/
  given : List Value

/-- The ways to reach a store. -/
inductive Route
  /-- Over a recorder. -/
  | recorder (replies : List Reply) (closable : Bool)
  /-- Over HTTP, given what reads the address and how the client behaves, which is one of the
  store's own or not. -/
  | http (read : Reader) (behaviour : Behaviour) (owned : Bool)

/-- A store at an endpoint. Only over HTTP its address must be valid. -/
def Store.connect (endpoint : Endpoint) (route : Route) : Except Error Store := do
  let address ← endpoint.address
  match route with
  | .recorder replies closable => return ⟨address, .recorder (.new replies closable), []⟩
  | .http read behaviour owned =>
    return ⟨address, .link (← Link.connect read (.text address) behaviour owned), []⟩

end GraphQuery
