import GraphQuery.Text.Utf8

/-!
# Percent-encoding

Each part of an address has characters that stand for themselves in it; all others are written as
the bytes of their UTF-8, each as a percent sign and two upper-case hexadecimal digits. The percent
sign stands for itself everywhere, so what is encoded already stays as it is.
-/

namespace GraphQuery.Url

/-- The parts of an address. -/
inductive Part
  | userinfo | host | path | query | fragment
deriving DecidableEq, Repr

/-- The characters from the space to the tilde. -/
def isVisible (c : Char) : Bool := 0x20 ≤ c.toNat && c.toNat ≤ 0x7e

/-- Whether a character stands for itself in a part of an address. -/
def Part.isSafe (part : Part) (c : Char) : Bool :=
  match part with
  | fragment => isVisible c && !" \"<>\x60".toList.contains c
  | query => isVisible c && !" \"#<>".toList.contains c
  | path => isVisible c && !" \"#<>?\x60\x7b\x7d".toList.contains c
  | userinfo => isVisible c && !" \"#<>?\x60\x7b\x7d/;=@[\\]^|".toList.contains c
  | host => c.isAlphanum || "-._~!$&'()*+,;=\"\x60\x7b\x7d%|\\".toList.contains c

/-- An upper-case hexadecimal digit. -/
def upperHexDigit (n : Nat) : Char := (Nat.digitChar n).toUpper

/-- The bytes of a character, percent-encoded. -/
def percent (c : Char) : List Char :=
  (Text.Utf8.encode [c]).flatMap fun b ↦
    ['%', upperHexDigit (b.toNat / 16), upperHexDigit (b.toNat % 16)]

/-- A part of an address with every unsafe character percent-encoded. -/
def Part.encode (part : Part) (cs : List Char) : List Char :=
  cs.flatMap fun c ↦ if part.isSafe c then [c] else percent c

/-- The pieces of a text between its separators; one more than there are separators. -/
def pieces {α : Type} (isSeparator : α → Bool) : List α → List (List α)
  | [] => [[]]
  | c :: cs =>
    if isSeparator c then [] :: pieces isSeparator cs
    else match pieces isSeparator cs with
      | [] => [[c]]
      | p :: ps => (c :: p) :: ps

end GraphQuery.Url
