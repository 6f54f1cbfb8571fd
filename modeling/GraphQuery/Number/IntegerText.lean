/-!
# Integers written in text

The liberal notation for integers: blanks around, an optional sign, decimal digits of any script,
and single underscores between digits. At most 4300 digits are read, and as many are written. The
blanks and digits are those of Unicode 14.0.
-/

namespace GraphQuery.Number

/-- The code points of the digit zero in the scripts that have decimal digits. -/
def scriptZeros : List Nat := [
  0x30, 0x660, 0x6f0, 0x7c0, 0x966, 0x9e6, 0xa66, 0xae6, 0xb66, 0xbe6, 0xc66, 0xce6, 0xd66, 0xde6,
  0xe50, 0xed0, 0xf20, 0x1040, 0x1090, 0x17e0, 0x1810, 0x1946, 0x19d0, 0x1a80, 0x1a90, 0x1b50,
  0x1bb0, 0x1c40, 0x1c50, 0xa620, 0xa8d0, 0xa900, 0xa9d0, 0xa9f0, 0xaa50, 0xabf0, 0xff10, 0x104a0,
  0x10d30, 0x11066, 0x110f0, 0x11136, 0x111d0, 0x112f0, 0x11450, 0x114d0, 0x11650, 0x116c0,
  0x11730, 0x118e0, 0x11950, 0x11c50, 0x11d50, 0x11da0, 0x16a60, 0x16ac0, 0x16b50, 0x1d7ce,
  0x1d7d8, 0x1d7e2, 0x1d7ec, 0x1d7f6, 0x1e140, 0x1e2f0, 0x1e950, 0x1fbf0]

/-- The value of a decimal digit of any script. -/
def digitValue? (c : Char) : Option Nat :=
  (scriptZeros.find? fun z ↦ z ≤ c.toNat && c.toNat < z + 10).map (c.toNat - ·)

/-- Whether a character may stand around a number. -/
def isBlank (c : Char) : Bool :=
  let n := c.toNat
  (0x9 ≤ n && n ≤ 0xd) || n = 0x20 || n = 0x85 || n = 0xa0 || n = 0x1680 ||
    (0x2000 ≤ n && n ≤ 0x200a) || n = 0x2028 || n = 0x2029 || n = 0x202f || n = 0x205f || n = 0x3000

/-- A text without the blanks at its two ends. -/
def trimBlanks (cs : List Char) : List Char :=
  ((cs.dropWhile isBlank).reverse.dropWhile isBlank).reverse

/-- The sign at the front of a text, and what follows it. -/
def splitSign : List Char → Bool × List Char
  | '-' :: cs => (true, cs)
  | '+' :: cs => (false, cs)
  | cs => (false, cs)

/-- The values of a run of digits in which single underscores may separate two digits. -/
def readDigits? : List Char → Option (List Nat)
  | [] => none
  | [c] => (digitValue? c).map ([·])
  | c :: '_' :: cs => do
    let d ← digitValue? c
    let ds ← readDigits? cs
    return d :: ds
  | c :: d :: cs => do
    let v ← digitValue? c
    let vs ← readDigits? (d :: cs)
    return v :: vs

/-- The number that digit values stand for in base ten, most significant first. -/
def ofDigits (ds : List Nat) : Nat := ds.foldl (fun n d ↦ 10 * n + d) 0

/-- The most digits that an integer may be written with. -/
def digitLimit : Nat := 4300

/-- Whether an integer has more digits than are written out. -/
def isOverlong (n : Int) : Bool := digitLimit < (Nat.toDigits 10 n.natAbs).length

/-- The integer that a text is a liberal notation of. -/
def readInteger? (cs : List Char) : Option Int := do
  let (negative, body) := splitSign (trimBlanks cs)
  let ds ← readDigits? body
  guard (ds.length ≤ digitLimit)
  return if negative then -(ofDigits ds : Int) else ofDigits ds

end GraphQuery.Number
