import GraphQuery.Text.Display
import GraphQuery.Text.Mark
import GraphQuery.Text.NormalForm
import GraphQuery.Url.Direction
import GraphQuery.Url.Joining
import GraphQuery.Url.LabelChar
import GraphQuery.Url.Percent
import GraphQuery.Url.Punycode
import GraphQuery.Url.Script

/-!
# Labels of host names

A host name consists of labels with points between them. A label with characters beyond ASCII is
written in ASCII behind a mark of its own. Such a label is well-formed only if every character may
stand where it stands, and if no character is written in a direction that would make it unclear
where the label ends.
-/

namespace GraphQuery.Url

/-- What is wrong with a label or with a host name made of labels. -/
inductive LabelFault
  /-- The host name is too long. -/
  | tooLong
  /-- A label is too long. -/
  | longLabel
  /-- The mark of encoded labels stands alone. -/
  | nothingEncoded
  /-- An encoded label ends with a hyphen. -/
  | openEncoding
  /-- An encoded label cannot be decoded. -/
  | badEncoding
  | empty
  /-- The label is not in canonical form. -/
  | uncanonical
  /-- The third and the fourth character are hyphens, as in an encoded label. -/
  | innerHyphens
  | outerHyphen
  | startsWithMark
  /-- A character may not stand in a label. -/
  | character (n position : Nat) (label : List Nat)
  /-- A joiner may not stand where it stands. -/
  | joiner (n position : Nat) (label : List Nat)
  /-- A joiner follows a character without a name. -/
  | unnamed (n position : Nat) (label : List Nat)
  /-- A character other than a joiner may not stand where it stands. -/
  | context (n position : Nat) (label : List Nat)
  /-- The direction of a character is not known. -/
  | noDirection (position : Nat) (label : List Nat)
  /-- A label with a part from right to left starts with something that has no direction. -/
  | firstDirection (label : List Nat)
  /-- A character does not fit into a label from right to left. -/
  | rightToLeft (position : Nat)
  /-- A character does not fit into a label from left to right. -/
  | leftToRight (position : Nat)
  /-- There are digits of two kinds in a label from right to left. -/
  | mixedNumbers
  /-- The last character leaves it unclear where the label ends. -/
  | lastDirection
deriving DecidableEq, Repr

/-- A code point in messages. -/
def codePointText (n : Nat) : String :=
  let digits := (Nat.toDigits 16 n).map Char.toUpper
  "U+" ++ String.ofList (List.replicate (4 - digits.length) '0' ++ digits)

/-- A label in messages. -/
def labelText (label : List Nat) : String := Text.displayCodePoints ⟨label.map .ofNat⟩

/-- The wording of a fault. -/
def LabelFault.message : LabelFault → String
  | tooLong => "Domain too long"
  | longLabel => "Label too long"
  | nothingEncoded => "Malformed A-label, no Punycode eligible content found"
  | openEncoding => "A-label must not end with a hyphen"
  | badEncoding => "Invalid A-label"
  | empty => "Empty Label"
  | uncanonical => "Label must be in Normalization Form C"
  | innerHyphens => "Label has disallowed hyphens in 3rd and 4th position"
  | outerHyphen => "Label must not start or end with a hyphen"
  | startsWithMark => "Label begins with an illegal combining character"
  | character n position label =>
    "Codepoint " ++ codePointText n ++ " at position " ++ toString position ++ " of " ++
      labelText label ++ " not allowed"
  | joiner n position label =>
    "Joiner " ++ codePointText n ++ " not allowed at position " ++ toString position ++ " in " ++
      labelText label
  | unnamed n position label =>
    "Unknown codepoint adjacent to joiner " ++ codePointText n ++ " at position " ++
      toString position ++ " in " ++ labelText label
  | context n position label =>
    "Codepoint " ++ codePointText n ++ " not allowed at position " ++ toString position ++ " in " ++
      labelText label
  | noDirection position label =>
    "Unknown directionality in label " ++ labelText label ++ " at position " ++
      toString position
  | firstDirection label =>
    "First codepoint in label " ++ labelText label ++
      " must be directionality L, R or AL"
  | rightToLeft position =>
    "Invalid direction for codepoint at position " ++ toString position ++
      " in a right-to-left label"
  | leftToRight position =>
    "Invalid direction for codepoint at position " ++ toString position ++
      " in a left-to-right label"
  | mixedNumbers => "Can not mix numeral types in a right-to-left label"
  | lastDirection => "Label ends with illegal codepoint directionality"

namespace Label

/-- What is wrong with the hyphens of a label. -/
def hyphenFault? (label : List Nat) : Option LabelFault :=
  if (label.drop 2).take 2 = [0x2d, 0x2d] then some .innerHyphens
  else if label.head? = some 0x2d || label.getLast? = some 0x2d then some .outerHyphen
  else none

/-- Whether a joiner without width may stand between what is before it, last first, and what is
after it: after a mark that takes away a vowel, or between two letters that join but for what is
transparent. -/
def admitsNonJoiner (before after : List Nat) : Bool :=
  before.head?.any isVirama ||
    ((before.dropWhile isTransparent).head?.any joinsForward &&
      (after.dropWhile isTransparent).head?.any joinsBackward)

/-- What is wrong with a joiner, given what is before it, last first, and what is after it. None may
stand after a character without a name. -/
def joinerFault? (label before after : List Nat) (n : Nat) : Option LabelFault :=
  let position := before.length + 1
  if before.head?.any isUnnamed then some (.unnamed n position label)
  else
    let isAdmitted :=
      if n = 0x200c then admitsNonJoiner before after else before.head?.any isVirama
    if isAdmitted then none else some (.joiner n position label)

/-- Whether a character that needs certain others may stand in a label, given what is before it,
last first, and what is after it; `none` if it is no such character. -/
def contextAdmits? (label before after : List Nat) (n : Nat) : Option Bool :=
  if n = 0xb7 then some (before.head? = some 0x6c && after.head? = some 0x6c)
  else if n = 0x375 then some (after.head?.any Script.greek.admits)
  else if n = 0x5f3 || n = 0x5f4 then some (before.head?.any Script.hebrew.admits)
  else if n = 0x30fb then
    some (label.any fun m ↦
      m ≠ 0x30fb && [Script.hiragana, .katakana, .han].any (Script.admits · m))
  else if 0x660 ≤ n && n ≤ 0x669 then some (!label.any fun m ↦ 0x6f0 ≤ m && m ≤ 0x6f9)
  else if 0x6f0 ≤ n && n ≤ 0x6f9 then some (!label.any fun m ↦ 0x660 ≤ m && m ≤ 0x669)
  else none

/-- What is wrong with a character, given what is before it, last first, and what is after it. -/
def characterFault? (label before after : List Nat) (n : Nat) : Option LabelFault :=
  let position := before.length + 1
  if isLabelChar n then none
  else if n = 0x200c || n = 0x200d then joinerFault? label before after n
  else match contextAdmits? label before after n with
    | some true => none
    | some false => some (.context n position label)
    | none => some (.character n position label)

/-- What is wrong with the characters of a label, given what is before them, last first. -/
def charactersFault? (label before : List Nat) : List Nat → Option LabelFault
  | [] => none
  | n :: after =>
    (characterFault? label before after n).or (charactersFault? label (n :: before) after)

/-- What is wrong with the directions in a label from right to left, given the position of the first
one, the kind of the digits so far, and whether the label may end before it. -/
def rightToLeftFault? (position : Nat) (digits : Option Direction) (mayEnd : Bool) :
    List Direction → Option LabelFault
  | [] => if mayEnd then none else some .lastDirection
  | d :: ds =>
    match d with
    | .leftToRight => some (.rightToLeft position)
    | .rightToLeft => rightToLeftFault? (position + 1) digits true ds
    | .arabicNumber | .europeanNumber =>
      if digits.any (· ≠ d) then some .mixedNumbers
      else rightToLeftFault? (position + 1) (some d) true ds
    | .nonspacing => rightToLeftFault? (position + 1) digits mayEnd ds
    | .neutral => rightToLeftFault? (position + 1) digits false ds

/-- What is wrong with the directions in a label from left to right, given the position of the first
one and whether the label may end before it. -/
def leftToRightFault? (position : Nat) (mayEnd : Bool) : List Direction → Option LabelFault
  | [] => if mayEnd then none else some .lastDirection
  | d :: ds =>
    match d with
    | .rightToLeft | .arabicNumber => some (.leftToRight position)
    | .leftToRight | .europeanNumber => leftToRightFault? (position + 1) true ds
    | .nonspacing => leftToRightFault? (position + 1) mayEnd ds
    | .neutral => leftToRightFault? (position + 1) false ds

/-- What is wrong with the directions of the characters of a label. Nothing is unless a part of it
is written from right to left. -/
def directionFault? (label : List Nat) : Option LabelFault :=
  let directions := label.map Direction.of?
  if directions.contains none then
    some (.noDirection ((directions.takeWhile (·.isSome)).length + 1) label)
  else
    let known := directions.filterMap id
    if !known.any fun d ↦ d = .rightToLeft || d = .arabicNumber then none
    else match known.head? with
      | some .rightToLeft => rightToLeftFault? 1 none false known
      | some .leftToRight => leftToRightFault? 1 false known
      | _ => some (.firstDirection label)

/-- What is wrong with a label. -/
def fault? (label : List Nat) : Option LabelFault :=
  if label.isEmpty then some .empty
  else if Text.canonicalForm label ≠ label then some .uncanonical
  else (hyphenFault? label).or <|
    if label.head?.any Text.isMark then some .startsWithMark
    else (charactersFault? label [] label).or (directionFault? label)

/-- The mark in front of an encoded label. -/
def encodingMark : List Char := ['x', 'n', '-', '-']

/-- Accepts a label that is well-formed. -/
def accept (label : List Nat) : Except LabelFault (List Nat) :=
  match fault? label with
  | some f => .error f
  | none => .ok label

/-- The characters of a label that is written in ASCII. -/
def decode (written : List Char) : Except LabelFault (List Nat) :=
  let cs := written.map Char.toLower
  if cs.take 4 = encodingMark then
    if (cs.drop 4).isEmpty then .error .nothingEncoded
    else if cs.getLast? = some '-' then .error .openEncoding
    else match Punycode.decode? (cs.drop 4) with
      | some label => accept label
      | none => .error .badEncoding
  else accept (cs.map Char.toNat)

/-- How many characters a label in ASCII may have. -/
def mostLabelCharacters : Nat := 63

/-- What stands for a label in ASCII. A label of ASCII characters stands for itself if it can be
decoded. -/
def encode (label : List Nat) : Except LabelFault (List Char) := do
  let written ←
    if label.all (· < 0x80) then
      let written := label.map Char.ofNat
      let _ ← decode written
      pure written
    else
      let _ ← accept label
      pure (encodingMark ++ Punycode.encode label)
  if mostLabelCharacters < written.length then throw .longLabel
  return written

/-- How many characters a host name with a point after its last label may have. -/
def mostCharacters : Nat := 254

/-- Labels as they are written, and whether a point follows the last one. -/
def closing {α : Type} (written : List (List α)) : List (List α) × Bool :=
  match written.getLast? with
  | some [] => (written.dropLast, true)
  | _ => (written, false)

/-- Labels with points between them, and one after the last label if it is to be. -/
def join {α : Type} (point : α) (labels : List (List α)) (isClosed : Bool) : List α :=
  [point].intercalate (labels ++ if isClosed then [[]] else [])

/-- The characters of a host name that is written in ASCII. -/
def decodeAll (host : List Char) : Except LabelFault (List Nat) := do
  if mostCharacters < host.length then throw .tooLong
  let (written, isClosed) := closing (pieces (· = '.') host)
  return join 0x2e (← written.mapM decode) isClosed

/-- Whether a character separates labels. -/
def isPoint (n : Nat) : Bool := [0x2e, 0x3002, 0xff0e, 0xff61].contains n

/-- What stands for a host name in ASCII. -/
def encodeAll (host : List Nat) : Except LabelFault (List Char) := do
  if mostCharacters < host.length then throw .tooLong
  let (labels, isClosed) := closing (pieces isPoint host)
  let written := join '.' (← labels.mapM encode) isClosed
  if (if isClosed then mostCharacters else mostCharacters - 1) < written.length then throw .tooLong
  return written

end Label

end GraphQuery.Url
