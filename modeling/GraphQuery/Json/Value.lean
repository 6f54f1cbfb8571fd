import GraphQuery.Json.Token
import GraphQuery.Number.IntegerText
import GraphQuery.Series

/-!
# JSON values

Values are read from tokens one at a time. Between two tokens the reader is in a `Mode`: it knows
which token may come next, and holds the containers that are still open, innermost first. Reading a
text is a fold over its tokens, so reading a text in two parts is reading one part after the other.

An object keeps its members in order. A member that is written again keeps its first place and takes
the later value.
-/

namespace GraphQuery

/-- A JSON value. -/
inductive Json
  | null
  | bool (b : Bool)
  | integer (n : Int)
  /-- A number with a fraction or an exponent, or one of the words for what is no number. -/
  | decimal (literal : String)
  | text (s : CodePoints)
  | array (items : List Json)
  | object (members : List (CodePoints × Json))

namespace Json

/-- The name of the sort of a value. -/
def typeName : Json → String
  | null => "NoneType"
  | bool _ => "bool"
  | integer _ => "int"
  | decimal _ => "float"
  | text _ => "str"
  | array _ => "list"
  | object _ => "dict"

/-- Why a text is no value that can be read. -/
inductive ReadError
  /-- The text is not JSON; the rest starts where it is at fault. -/
  | malformed (fault : Fault) (rest : List Char)
  /-- An integer has more digits than are read. -/
  | integerTooLong (digits : Nat)
deriving DecidableEq, Repr

/-- A container that is still open. -/
inductive Frame
  /-- An array and its items so far, latest first. -/
  | array (items : List Json)
  /-- An object, its members so far, and the name of the member that is being read. -/
  | object (members : List (CodePoints × Json)) (key : CodePoints)

/-- What may come next, and the containers that are open around it. -/
inductive Mode
  /-- A value. -/
  | value (stack : List Frame)
  /-- The first item of an array, or its end. -/
  | arrayStart (stack : List Frame)
  /-- The first name of an object, or its end. -/
  | objectStart (stack : List Frame)
  /-- A further name of an object. -/
  | name (members : List (CodePoints × Json)) (stack : List Frame)
  /-- The colon behind a name. -/
  | colon (members : List (CodePoints × Json)) (key : CodePoints) (stack : List Frame)
  /-- What may follow a value that was read. -/
  | complete (value : Json) (stack : List Frame)

/-- Reads the first token of a value. -/
def startValue (stack : List Frame) (l : Lexeme) : Except ReadError Mode :=
  match l.token with
  | .openObject => .ok (.objectStart stack)
  | .openArray => .ok (.arrayStart stack)
  | .null => .ok (.complete .null stack)
  | .bool b => .ok (.complete (.bool b) stack)
  | .integer negative digits =>
    if Number.digitLimit < digits.length then .error (.integerTooLong digits.length)
    else
      let n : Int := Number.ofDigits (digits.map fun d ↦ d.toNat - 48)
      .ok (.complete (.integer (if negative then -n else n)) stack)
  | .decimal literal => .ok (.complete (.decimal (String.ofList literal)) stack)
  | .text s => .ok (.complete (.text s) stack)
  | .brokenText fault rest => .error (.malformed fault rest)
  | .closeObject | .closeArray | .colon | .comma | .unknown => .error (.malformed .value l.start)

/-- Reads the name of a member. -/
def startMember (members : List (CodePoints × Json)) (stack : List Frame) (l : Lexeme) :
    Except ReadError Mode :=
  match l.token with
  | .text key => .ok (.colon members key stack)
  | .brokenText fault rest => .error (.malformed fault rest)
  | _ => .error (.malformed .name l.start)

/-- Reads one token. -/
def step : Mode → Lexeme → Except ReadError Mode
  | .value stack, l => startValue stack l
  | .arrayStart stack, l =>
    if l.token = .closeArray then .ok (.complete (.array []) stack)
    else startValue (.array [] :: stack) l
  | .objectStart stack, l =>
    if l.token = .closeObject then .ok (.complete (.object []) stack)
    else startMember [] stack l
  | .name members stack, l => startMember members stack l
  | .colon members key stack, l =>
    if l.token = .colon then .ok (.value (.object members key :: stack))
    else .error (.malformed .colon l.start)
  | .complete _ [], l => .error (.malformed .extra l.start)
  | .complete v (.array items :: stack), l =>
    if l.token = .comma then .ok (.value (.array (v :: items) :: stack))
    else if l.token = .closeArray then .ok (.complete (.array (v :: items).reverse) stack)
    else .error (.malformed .comma l.start)
  | .complete v (.object members key :: stack), l =>
    if l.token = .comma then .ok (.name (setMember key v members) stack)
    else if l.token = .closeObject then .ok (.complete (.object (setMember key v members)) stack)
    else .error (.malformed .comma l.start)

/-- The value that was read when the tokens end; the fault is at the end of the text otherwise. -/
def finish : Mode → Except ReadError Json
  | .complete v [] => .ok v
  | .complete _ (_ :: _) => .error (.malformed .comma [])
  | .value _ | .arrayStart _ => .error (.malformed .value [])
  | .objectStart _ | .name _ _ => .error (.malformed .name [])
  | .colon _ _ _ => .error (.malformed .colon [])

/-- Reads the tokens of a text from a given mode on. -/
def readFrom (mode : Mode) (tokens : List Lexeme) : Except ReadError Mode :=
  tokens.foldlM step mode

/-- The value that a text is written for. -/
def read (cs : List Char) : Except ReadError Json :=
  if cs.head? = some '\ufeff' then .error (.malformed .byteOrderMark cs)
  else do finish (← readFrom (.value []) (lexemes cs))

/-- The line and the column, both from one, of the place in a text where `rest` starts. -/
def place (cs rest : List Char) : Nat × Nat :=
  let before := cs.take (cs.length - rest.length)
  (before.count '\n' + 1, (before.reverse.takeWhile (· ≠ '\n')).length + 1)

theorem readFrom_append (mode : Mode) (l₁ l₂ : List Lexeme) :
    readFrom mode (l₁ ++ l₂) = readFrom mode l₁ >>= fun mode' ↦ readFrom mode' l₂ := by
  simp [readFrom, List.foldlM_append]

@[simp] theorem readFrom_nil (mode : Mode) : readFrom mode [] = .ok mode := rfl

@[simp] theorem readFrom_cons (mode : Mode) (l : Lexeme) (ls : List Lexeme) :
    readFrom mode (l :: ls) = step mode l >>= fun mode' ↦ readFrom mode' ls := by
  simp [readFrom, List.foldlM_cons]

end Json

end GraphQuery
