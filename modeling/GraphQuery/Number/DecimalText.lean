import GraphQuery.Number.IntegerText

/-!
# Floating-point numbers written in text

An optional sign, then digits with an optional point among or around them and an optional exponent,
or one of the words `inf`, `infinity` and `nan` in any case. The double nearest to the written value
is taken; a value beyond the largest double is infinite.
-/

namespace GraphQuery.Number

/-- Digits before the point, digits after it, and the rest of the text. -/
def splitFraction (cs : List Char) : List Char × List Char × List Char :=
  let whole := cs.takeWhile Char.isDigit
  match cs.dropWhile Char.isDigit with
  | '.' :: rest => (whole, rest.takeWhile Char.isDigit, rest.dropWhile Char.isDigit)
  | rest => (whole, [], rest)

/-- The value of an exponent part, which may be missing altogether. -/
def readExponent? : List Char → Option Int
  | [] => some 0
  | c :: cs =>
    let (negative, ds) := splitSign cs
    if (c = 'e' || c = 'E') && !ds.isEmpty && ds.all Char.isDigit then
      let n : Int := ofDigits (ds.map fun d ↦ d.toNat - 48)
      some (if negative then -n else n)
    else none

/-- The double nearest to `digits * 10 ^ exponent`. Beyond 400 digits on either side of the point
the answer is infinity or zero, whatever the digits. -/
def nearest (digits : Nat) (exponent : Int) : Float :=
  let width := ((Nat.toDigits 10 digits).length : Int)
  if digits = 0 || width + exponent < -400 then 0.0
  else if 400 < width + exponent then 1.0 / 0.0
  else Float.ofScientific digits (exponent < 0) exponent.natAbs

/-- The magnitude that a text without sign stands for. -/
def readMagnitude? (cs : List Char) : Option Float :=
  let word := String.ofList (cs.map Char.toLower)
  if word = "inf" || word = "infinity" then some (1.0 / 0.0)
  else if word = "nan" then some (0.0 / 0.0)
  else do
    let (whole, fraction, rest) := splitFraction cs
    guard !(whole.isEmpty && fraction.isEmpty)
    let e ← readExponent? rest
    let digits := ofDigits ((whole ++ fraction).map fun d ↦ d.toNat - 48)
    return nearest digits (e - (fraction.length : Int))

/-- The double that a text stands for. -/
def readFloat? (cs : List Char) : Option Float :=
  let (negative, body) := splitSign cs
  (readMagnitude? body).map fun x ↦ if negative then -x else x

end GraphQuery.Number
