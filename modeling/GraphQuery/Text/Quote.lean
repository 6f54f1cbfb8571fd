/-!
# Quoted literals

A raw name travels inside a query as a double-quoted literal of printable ASCII. One encoder per
character decides everything, so that every fact about a literal is a fact about one character:
the two marks and five control characters have a short escape, the other characters from the space
to the tilde stand for themselves, and all the rest is written by its UTF-16 code units.
-/

namespace GraphQuery.Text

/-- Four lower-case hexadecimal digits. -/
def hex4 (n : Nat) : List Char :=
  [Nat.digitChar (n / 4096 % 16), Nat.digitChar (n / 256 % 16), Nat.digitChar (n / 16 % 16),
    Nat.digitChar (n % 16)]

/-- The UTF-16 code units of a character: one, or a surrogate pair above U+FFFF. -/
def codeUnits (c : Char) : List Nat :=
  if c.toNat < 0x10000 then [c.toNat]
  else [0xD800 + (c.toNat - 0x10000) / 0x400, 0xDC00 + (c.toNat - 0x10000) % 0x400]

/-- What follows the backslash in the short escape of a character that has one. -/
def shortEscape? (c : Char) : Option Char :=
  if c = '"' then some '"'
  else if c = '\\' then some '\\'
  else if c = '\n' then some 'n'
  else if c = '\r' then some 'r'
  else if c = '\t' then some 't'
  else if c = '\x08' then some 'b'
  else if c = '\x0c' then some 'f'
  else none

/-- Whether a character may stand for itself inside a literal, the two marks apart. -/
def isPlain (c : Char) : Bool := 0x20 ≤ c.toNat && c.toNat ≤ 0x7e

/-- The text of one character inside a literal. -/
def escape (c : Char) : List Char :=
  match shortEscape? c with
  | some e => ['\\', e]
  | none => if isPlain c then [c] else (codeUnits c).flatMap fun u ↦ '\\' :: 'u' :: hex4 u

/-- The characters of the literal of a name, both marks included. -/
def quoteChars (name : List Char) : List Char :=
  '"' :: (name.flatMap escape ++ ['"'])

/-- The literal of a name. -/
def quote (name : String) : String := String.ofList (quoteChars name.toList)

/-- The literals of several names in order, joined by commas. -/
def quoteList (names : List String) : String := ",".intercalate (names.map quote)

@[simp] theorem toList_quote (name : String) : (quote name).toList = quoteChars name.toList := by
  simp [quote]

@[simp] theorem quoteList_nil : quoteList [] = "" := rfl

@[simp] theorem quoteList_singleton (name : String) : quoteList [name] = quote name := by
  simp [quoteList]

end GraphQuery.Text
