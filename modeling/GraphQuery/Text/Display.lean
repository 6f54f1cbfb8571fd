import GraphQuery.Text.CodePoint
import GraphQuery.Text.Printable
import GraphQuery.Text.Quote
import GraphQuery.Text.Utf8

/-!
# Displayed texts

Messages show a text between single quotes, or between double quotes when it holds a single quote
and no double one. The backslash, the quote in use and every unprintable character are escaped, so
that a message stays on one line and the text can be told from what surrounds it.

Some messages have room for so many bytes of a name only. A name that is longer is cut off there; if
this cuts a character, U+FFFD stands for what is left of it.
-/

namespace GraphQuery.Text

/-- The quote in use around a displayed text. -/
def displayMark (s : List Char) : Char :=
  if s.contains '\x27' && !s.contains '"' then '"' else '\x27'

/-- The numeric escape of a character, as short as its code point allows. -/
def numericEscape (c : Char) : List Char :=
  if c.toNat < 0x100 then
    ['\\', 'x', Nat.digitChar (c.toNat / 16), Nat.digitChar (c.toNat % 16)]
  else if c.toNat < 0x10000 then '\\' :: 'u' :: hex4 c.toNat
  else '\\' :: 'U' :: (hex4 (c.toNat / 0x10000) ++ hex4 (c.toNat % 0x10000))

/-- The text of one character between the given quotes. -/
def displayChar (mark c : Char) : List Char :=
  if c = mark || c = '\\' then ['\\', c]
  else if c = '\n' then ['\\', 'n']
  else if c = '\r' then ['\\', 'r']
  else if c = '\t' then ['\\', 't']
  else if isPrintable c then [c]
  else numericEscape c

/-- A text as messages show it. -/
def display (s : String) : String :=
  let mark := displayMark s.toList
  String.ofList (mark :: (s.toList.flatMap (displayChar mark) ++ [mark]))

/-- A text of code points as messages show it. Surrogates are escaped, too. -/
def displayCodePoints (t : CodePoints) : String :=
  let mark := displayMark (t.toList.map CodePoint.charOrMark)
  String.ofList (mark :: (t.toList.flatMap fun p ↦
    (CodePoint.char? p).elim ('\\' :: 'u' :: hex4 p.val) (displayChar mark)) ++ [mark])

/-- A tuple as messages show it, given its items. -/
def displayTuple : List String → String
  | [item] => "(" ++ item ++ ",)"
  | items => "(" ++ ", ".intercalate items ++ ")"

/-- The front of a name that has so many bytes at most. -/
def clip (room : Nat) (name : String) : String :=
  if name.utf8ByteSize ≤ room then name
  else String.ofList (Utf8.decodeLossy ((Utf8.encode name.toList).take room))

example : display "it's" = "\"it's\"" := by decide +kernel

end GraphQuery.Text
