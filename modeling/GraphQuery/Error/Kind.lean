import GraphQuery.Error
import GraphQuery.Signature

/-!
# Kinds of errors

The errors of this library come in kinds, which others may make too: a transport that fails says so
with an error of one of these kinds. Making one is a call like any other, which may be given too
few arguments or too many, and takes whatever plain data it is given.
-/

namespace GraphQuery

/-- The kinds of errors of this library. -/
inductive ErrorKind
  | general | invalidUrl | malformedRequest | requestFailed | unreadable | undecodable
  | unserializable | notFinalized | compilation | finalized | unsavable | unsaved
deriving DecidableEq, Repr

namespace ErrorKind

/-- All kinds of errors. -/
def all : List ErrorKind := [
  general, invalidUrl, malformedRequest, requestFailed, unreadable, undecodable, unserializable,
  notFinalized, compilation, finalized, unsavable, unsaved]

/-- A kind of errors by name. -/
def title : ErrorKind → String
  | general => "CayleyError"
  | invalidUrl => "InvalidUrlError"
  | malformedRequest => "MalformedRequestError"
  | requestFailed => "RequestFailedError"
  | unreadable => "ResponseParseError"
  | undecodable => "DecodingError"
  | unserializable => "SerializationError"
  | notFinalized => "QueryNotFinalizedError"
  | compilation => "QueryCompilationError"
  | finalized => "PathFinalizedError"
  | unsavable => "ReusableCannotBeSavedError"
  | unsaved => "MorphismNotSavedError"

/-- The kind of errors that has a given name. -/
def ofTitle? (title : String) : Option ErrorKind := all.find? (·.title = title)

/-- What an error of a kind is made of: what must be given, and what may be left out. -/
def parts : ErrorKind → List String × List String
  | general | unreadable | unserializable | compilation => (["message"], [])
  | invalidUrl | malformedRequest => (["url", "reason"], [])
  | requestFailed => (["query", "reason"], [])
  | undecodable => (["message", "text"], ["cause"])
  | notFinalized => ([], ["message"])
  | finalized => (["segment"], [])
  | unsavable => (["name", "reason"], [])
  | unsaved => (["name"], [])

/-- What making an error of a kind takes. -/
def signature (kind : ErrorKind) : Signature :=
  ⟨kind.title ++ ".__init__", some "self", kind.parts.1, kind.parts.2⟩

/-- The error of a kind with the given parts. -/
def error (first second third : Plain) : ErrorKind → Error
  | general => .general first
  | invalidUrl => .invalidUrl first second.inText
  | malformedRequest => .malformedRequest first second.inText
  | requestFailed => .requestFailed first second.inText
  | unreadable => .unreadable first.inText
  | undecodable =>
    .undecodable first.inText second (match third with
      | .none => none
      | cause => some (.named cause.typeName))
  | unserializable => .unserializable first.inText
  | notFinalized => .notFinalized first.inText
  | compilation => .compilation first.inText
  | finalized => .finalized first
  | unsavable => .unsavable first second.inText
  | unsaved => .unsaved first

/-- Makes an error of a kind. -/
def make (kind : ErrorKind) (args : List Plain) : Except Fault Error :=
  let part (position : Nat) : Plain := args[position]?.getD .none
  match kind.signature.fault? args.length [], kind, args with
  | some f, _, _ => .error f
  | none, notFinalized, [] => .ok .notFinalizedByDefault
  | none, kind, _ => .ok (kind.error (part 0) (part 1) (part 2))

end ErrorKind

/-- The kind of an error, if it is one of these. -/
def Error.kind? : Error → Option ErrorKind
  | .general _ => some .general
  | .invalidUrl _ _ => some .invalidUrl
  | .malformedRequest _ _ => some .malformedRequest
  | .requestFailed _ _ => some .requestFailed
  | .unreadable _ => some .unreadable
  | .undecodable _ _ _ => some .undecodable
  | .unserializable _ => some .unserializable
  | .notFinalized _ => some .notFinalized
  | .compilation _ => some .compilation
  | .finalized _ => some .finalized
  | .unsavable _ _ => some .unsavable
  | .unsaved _ => some .unsaved
  | _ => none

end GraphQuery
