import GraphQuery.Error
import GraphQuery.Json.Value
import GraphQuery.Result.Row
import GraphQuery.Text.Utf8

/-!
# The envelope of an answer

A store answers with an object whose member `result` is missing, null or a list of rows. A reply is
looked at from the outside in: its bytes must be text, the text must be JSON, the value must be an
object, its result a list, and every row an object of texts. The first thing that does not hold is
the error.
-/

namespace GraphQuery

/-- A reply as a transport hands it over. A text is one of characters: surrogates by themselves are
only in the texts that its escapes stand for. -/
inductive Source
  | bytes (bytes : List UInt8)
  | text (s : String)
deriving DecidableEq, Repr

/-- The text of a reply. -/
def Source.read : Source → Except Error String
  | text s => .ok s
  | bytes bs =>
    match Text.Utf8.decode bs with
    | .ok cs => .ok (String.ofList cs)
    | .error f =>
      .error (.unreadable ("response is not valid UTF-8 (" ++ f.reason.text ++ " at byte " ++
        toString (bs.length - f.rest.length) ++ ")"))

namespace Envelope

/-- The JSON value of a text. -/
def readJson (s : String) : Except Error Json :=
  match Json.read s.toList with
  | .ok v => .ok v
  | .error (.malformed fault rest) =>
    let (line, column) := Json.place s.toList rest
    .error (.undecodable ("JSON error: " ++ fault.text ++ " at line " ++ toString line ++
      ", column " ++ toString column) (.text s) (some .notJson))
  | .error (.integerTooLong digits) => .error (.integerTooLong digits)

/-- One member of a row, which must be a text. -/
def readColumn (index : Nat) (member : CodePoints × Json) :
    Except String (CodePoints × CodePoints) :=
  match member.2 with
  | .text s => .ok (member.1, s)
  | v =>
    .error ("result[" ++ toString index ++ "][" ++ Text.displayCodePoints member.1 ++ "] is " ++
      v.typeName ++ ", expected string")

/-- One row of a result. -/
def readRow (index : Nat) : Json → Except String Row
  | .object members => members.mapM (readColumn index)
  | _ => .error ("result[" ++ toString index ++ "] is not an object")

/-- The rows of a result from a given position on. -/
def readRows (index : Nat) : List Json → Except String (List Row)
  | [] => .ok []
  | v :: vs => do
    let row ← readRow index v
    let rows ← readRows (index + 1) vs
    return row :: rows

/-- The rows of an envelope. -/
def readEnvelope : Json → Except String (List Row)
  | .object members =>
    match members.lookup (.ofString "result") with
    | none | some .null => .ok []
    | some (.array items) => readRows 0 items
    | some v => .error ("'result' must be a list or null, got " ++ v.typeName)
  | v => .error ("expected a JSON object, got " ++ v.typeName)

end Envelope

/-- The result set that a reply is written for. -/
def ResultSet.decode (source : Source) : Except Error ResultSet := do
  let s ← source.read
  let v ← Envelope.readJson s
  match Envelope.readEnvelope v with
  | .ok rows => return ⟨rows⟩
  | .error reason => throw (.undecodable reason (.text s) none)

end GraphQuery
