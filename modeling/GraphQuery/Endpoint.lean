import GraphQuery.Error
import GraphQuery.Signature

/-!
# Query endpoints

The address of a store is composed of plain data by position alone: nothing in it is checked but the
version of the interface, of which there is one. Only integers with too many digits are never
written out.
-/

namespace GraphQuery

/-- Where queries are sent to. -/
structure Endpoint where
  host : Plain
  port : Plain
  version : Plain
  scheme : Plain
  dialect : Plain

namespace Endpoint

/-- The version of the interface. -/
def latestVersion : String := "v1"

/-- The endpoint of a store on the same machine. -/
def default : Endpoint :=
  ⟨.text "localhost", .int 64210, .text latestVersion, .text "http", .text "gremlin"⟩

/-- What composing an address takes. -/
def signature : Signature := ⟨"build_url", none, ["host", "port"], ["version", "scheme", "dialect"]⟩

/-- The endpoint with the given parts, and by default with those of the one on the same machine. -/
def ofParts (parts : List (String × Plain)) : Endpoint :=
  let part (name : String) (default : Plain) : Plain := (parts.lookup name).getD default
  ⟨part "host" default.host, part "port" default.port, part "version" default.version,
    part "scheme" default.scheme, part "dialect" default.dialect⟩

/-- The endpoint that arguments stand for. -/
def ofArguments (positional : List Plain) (named : List (String × Plain)) :
    Except Error Endpoint :=
  match signature.bind positional named with
  | .ok parts => .ok (ofParts parts)
  | .error f => .error (.fault f)

/-- The parts of an endpoint in a row, whatever they are. -/
def text (e : Endpoint) : String :=
  e.scheme.inText ++ "://" ++ e.host.inText ++ ":" ++ e.port.inText ++ "/api/" ++
    e.version.inText ++ "/query/" ++ e.dialect.inText

/-- Whether the version is known. -/
def isKnown (e : Endpoint) : Bool :=
  match e.version with
  | .text v => v = latestVersion
  | _ => false

/-- The parts of an endpoint. -/
def parts (e : Endpoint) : List Plain := [e.scheme, e.host, e.port, e.version, e.dialect]

/-- The address of an endpoint. -/
def address (e : Endpoint) : Except Error String :=
  if Plain.anyOverlong e.parts then .error (.fault .overlong)
  else if e.isKnown then .ok e.text
  else .error (.invalidUrl (.text e.text) ("unknown API version " ++ e.version.display))

end Endpoint

end GraphQuery
