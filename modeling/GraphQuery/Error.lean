import GraphQuery.Choice
import GraphQuery.Fault
import GraphQuery.Plain
import GraphQuery.Series
import GraphQuery.Settings.Fault

/-!
# Errors and log entries

What can go wrong, and what the library tells about its work while it goes on, failing or not.

One constructor per cause. The wording of every error is `Error.message`, which has room for so many
bytes of the name of a sort only; what a caller may want to read off an error beside its wording is
a field of the constructor. Fields that others may fill in,
who make such an error themselves, are plain data; this library puts texts there.
-/

namespace GraphQuery

/-- How much an entry matters. -/
inductive Level
  | debug | warning
deriving DecidableEq, Repr

/-- One line of the log. -/
structure LogEntry where
  level : Level
  text : String
deriving DecidableEq, Repr

/-- What is behind a text that is not a result. -/
inductive Cause
  /-- The text is not even JSON. -/
  | notJson
  /-- Something of the given sort that a transport named. -/
  | named (typeName : String)
deriving DecidableEq, Repr

/-- What can go wrong. -/
inductive Error
  -- Arguments of calls
  /-- A selector of the given axis was expected. -/
  | notSelector (axis : Axis) (got : String)
  /-- A selector of nodes or tags was expected. -/
  | notNames (got : String)
  /-- A path was expected. -/
  | notPath (got : String)
  /-- A morphism was expected. -/
  | notMorphism (got : String)
  /-- A limit is not a natural number. -/
  | badLimit (got : String)
  /-- A morphism name is not an identifier. -/
  | badName (got : String)
  /-- A morphism name has a meaning of its own in the query language. -/
  | reservedName (name : String)
  -- Paths
  /-- A path cannot be written as a query. -/
  | compilation (reason : String)
  /-- A finalized path was to be extended by a segment. -/
  | finalized (segment : Plain)
  /-- A path that is not finalized was to be executed. -/
  | notFinalized (reason : String)
  /-- The body of a morphism cannot be written as a query. -/
  | unsavable (name : Plain) (reason : String)
  /-- A morphism is followed that was never saved. -/
  | unsaved (name : Plain)
  -- Transport
  /-- An address is not an HTTP address with a host. -/
  | invalidUrl (url : Plain) (reason : String)
  /-- A request could not be made for a valid address. -/
  | malformedRequest (url : Plain) (reason : String)
  /-- A query could not be sent, or its answer could not be read. -/
  | requestFailed (query : Plain) (reason : String)
  -- Replies
  /-- The bytes of a reply are not text. -/
  | unreadable (reason : String)
  /-- The text of a reply is not a result. -/
  | undecodable (reason : String) (text : Plain) (cause : Option Cause)
  /-- An integer of a reply has more digits than are read. -/
  | integerTooLong (digits : Nat)
  /-- A row does not fit the record it is to be turned into. -/
  | unserializable (reason : String)
  -- Settings
  /-- Settings are refused, each for its own reason. -/
  | settings (errors : List SettingError)
  -- Use of objects
  /-- An index is beyond the items of a series. -/
  | outOfRange (series : Series)
  /-- An index is beyond all positions that there can be. -/
  | unindexable
  /-- Something other than an integer is used as an index of a series. -/
  | badIndex (series : Series) (typeName : String)
  /-- A row has no such column. -/
  | noColumn (got : String)
  /-- Something is looked for by what it is equal to, but it may change. -/
  | changeable (typeName : String)
  /-- Something without items is counted. -/
  | uncountable (typeName : String)
  /-- An item of something without items is asked for. -/
  | itemless (typeName : String)
  /-- An item of a sort of objects is asked for, which has none. -/
  | itemlessType (typeName : String)
  /-- The items of something without items are asked for one by one. -/
  | unlisted (typeName : String)
  /-- Something that is never open is used for a block at whose end it is closed. -/
  | unclosable (typeName : String)
  /-- The same of something that can be entered but not left. -/
  | unleavable (typeName : String)
  /-- Something other than a number is compared with the bounds of an index. -/
  | unordered (typeName : String)
  /-- An object has no operation of that name. -/
  | noAttribute (typeName operation : String)
  /-- A sort of objects has no operation of that name. -/
  | noTypeAttribute (typeName operation : String)
  /-- Something that is no operation is called. -/
  | notCallable (typeName : String)
  /-- There is no such object. -/
  | noObject
  /-- No object was ever put into a register. -/
  | noRegister (name : String)
  /-- Any other error of this library. -/
  | general (message : Plain)
  /-- A fault of another party that passes through. -/
  | fault (fault : Fault)

/-- The wording of an error. -/
def Error.message : Error → String
  | notSelector axis got => "Expected a " ++ axis.word ++ " selector, got " ++ got
  | notNames got => "Expected a node or tag selector, got " ++ got
  | notPath got => "Expected a path, got " ++ got
  | notMorphism got => "Expected a morphism, got " ++ got
  | badLimit got => "limit must be a non-negative integer, got " ++ got
  | badName got => "morphism name must be an identifier, got " ++ got
  | reservedName name => "morphism name " ++ Text.display name ++ " is reserved"
  | compilation reason => "Query compilation failed: " ++ reason
  | finalized segment => "Path already finalized, cannot append " ++ segment.inText
  | notFinalized reason => "Query not finalized: " ++ reason
  | unsavable name reason => "Morphism " ++ name.display ++ " cannot be saved: " ++ reason
  | unsaved name => "Morphism " ++ name.display ++ " is followed but was never saved"
  | invalidUrl url reason => "Invalid URL " ++ url.display ++ ": " ++ reason
  | malformedRequest url reason => "Malformed request to " ++ url.display ++ ": " ++ reason
  | requestFailed query reason => "Request failed: " ++ reason ++ " (query: " ++ query.inText ++ ")"
  | unreadable reason => "Response parse error: " ++ reason
  | undecodable reason _ _ => "Decoding error: " ++ reason
  | integerTooLong digits =>
    "Exceeds the limit (4300 digits) for integer string conversion: value has " ++
      toString digits ++ " digits; use sys.set_int_max_str_digits() to increase the limit"
  | unserializable reason => "Serialization error: " ++ reason
  | settings errors => ", ".intercalate (errors.map fun e ↦ e.field ++ ": " ++ e.fault.message)
  | outOfRange series => series.outOfRange
  | unindexable => "cannot fit 'int' into an index-sized integer"
  | badIndex series typeName => series.badIndex (Text.clip 200 typeName)
  | noColumn got => got
  | changeable typeName => "unhashable type: '" ++ Text.clip 200 typeName ++ "'"
  | uncountable typeName => "object of type '" ++ Text.clip 200 typeName ++ "' has no len()"
  | itemless typeName => "'" ++ Text.clip 200 typeName ++ "' object is not subscriptable"
  | itemlessType typeName => "type '" ++ Text.clip 200 typeName ++ "' is not subscriptable"
  | unlisted typeName => "'" ++ Text.clip 200 typeName ++ "' object is not iterable"
  | unclosable typeName =>
    "'" ++ Text.clip 200 typeName ++ "' object does not support the context manager protocol"
  | unleavable typeName =>
    "'" ++ Text.clip 200 typeName ++
      "' object does not support the context manager protocol (missed __exit__ method)"
  | unordered typeName =>
    "'<=' not supported between instances of 'int' and '" ++ Text.clip 100 typeName ++ "'"
  | noAttribute typeName operation =>
    "'" ++ Text.clip 50 typeName ++ "' object has no attribute '" ++ operation ++ "'"
  | noTypeAttribute typeName operation =>
    "type object '" ++ Text.clip 50 typeName ++ "' has no attribute '" ++ operation ++ "'"
  | notCallable typeName => "'" ++ Text.clip 200 typeName ++ "' object is not callable"
  | noObject => "no such object"
  | noRegister name => name
  | general message => message.inText
  | fault f => f.message

/-- What is said of a path that is not finalized when nothing else is said. -/
def Error.notFinalizedByDefault : Error := .notFinalized "query must be finalized before execution"

end GraphQuery
