import GraphQuery.Number.DecimalText
import GraphQuery.Settings.Fault

/-!
# Numbers in settings

A setting that is a number may be written as a text. An integer in plain notation is read as it is.
Otherwise the text is cleaned first: of blanks around it, of a plus sign, of zeros in front, of a
fraction that is zero and of single underscores between digits. A floating-point number is read
without the blanks around it or, failing that, without the underscores in it, but never without
both.
-/

namespace GraphQuery.Settings

/-- A text without the underscores between its characters; none where one stands at an end or next
to another. -/
def dropUnderscores? (cs : List Char) : Option (List Char) :=
  if cs.head? = some '_' || cs.getLast? = some '_' || (cs.zip cs.tail).contains ('_', '_') then none
  else some (cs.filter (· ≠ '_'))

/-- Whether a character is a zero or an underscore. -/
def isFiller (c : Char) : Bool := c = '0' || c = '_'

/-- A number without the zeros in front, among which underscores may stand. The last of them is kept
where no digit and no minus sign follows. -/
def dropZeros? (cs : List Char) : Option (List Char) :=
  let last := (cs.takeWhile isFiller).getLast?.toList
  if cs.head? = some '_' then none
  else match cs.dropWhile isFiller with
    | [] => if cs.isEmpty then none else some last
    | '.' :: rest => if last.isEmpty then none else some (last ++ '.' :: rest)
    | c :: rest => if c.isDigit || c = '-' then some (c :: rest) else none

/-- A number without its fraction, if that is nothing but zeros. -/
def dropZeroFraction (cs : List Char) : List Char :=
  match cs.dropWhile (· ≠ '.') with
  | '.' :: fraction =>
    if !fraction.isEmpty && fraction.all (· = '0') then cs.takeWhile (· ≠ '.') else cs
  | _ => cs

/-- The magnitude of a number without what is needless in it. -/
def cleanMagnitude? (cs : List Char) : Option (List Char) :=
  (dropZeros? cs).map fun rest ↦
    let whole := dropZeroFraction rest
    (dropUnderscores? whole).getD whole

/-- A number without what is needless in it. -/
def clean? (cs : List Char) : Option (List Char) :=
  match Number.trimBlanks cs with
  | '+' :: '-' :: _ => none
  | '+' :: rest => cleanMagnitude? rest
  | '-' :: rest => (cleanMagnitude? rest).map ('-' :: ·)
  | rest => cleanMagnitude? rest

/-- A minus sign at the front of a text, and what follows it. -/
def splitMinus : List Char → Bool × List Char
  | '-' :: cs => (true, cs)
  | cs => (false, cs)

/-- Whether a text is a natural number in plain notation. -/
def isNumeral (cs : List Char) : Bool :=
  !cs.isEmpty && cs.all Char.isDigit && (cs = ['0'] || cs.head? ≠ some '0')

/-- The integer that a text is the plain notation of. -/
def readPlain? (cs : List Char) : Option Int :=
  let (negative, digits) := splitMinus cs
  if isNumeral digits && digits.length ≤ Number.digitLimit then
    let n : Int := Number.ofDigits (digits.map fun d ↦ d.toNat - 48)
    some (if negative then -n else n)
  else none

/-- Whether a text starts like an integer in plain notation and has too many digits. -/
def isOverlong (cs : List Char) : Bool :=
  let digits := (splitMinus cs).2.takeWhile Char.isDigit
  digits.head? ≠ some '0' && Number.digitLimit < digits.length

/-- The integer that a text is written for. -/
def readInteger (cs : List Char) : Except SettingFault Int :=
  if isOverlong cs then .error .integerSize
  else match (readPlain? cs).or ((clean? cs).bind readPlain?) with
    | some n => .ok n
    | none => .error .integerParsing

/-- The double that a text is written for. -/
def readFloat (cs : List Char) : Except SettingFault Float :=
  match (Number.readFloat? (Number.trimBlanks cs)).or
      ((dropUnderscores? cs).bind Number.readFloat?) with
  | some x => .ok x
  | none => .error .floatParsing

end GraphQuery.Settings
