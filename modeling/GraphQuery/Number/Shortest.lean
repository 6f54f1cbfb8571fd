/-!
# Shortest decimals of binary floating-point numbers

A finite double is `mantissa * 2 ^ exponent`, and every real number in an interval around it rounds
to it, the ends included when the mantissa is even. The shortest decimal is looked for on grids of
one, two, up to seventeen digits: if a point of a grid lies in the interval, so does one of the two
neighbours of the number on that grid. All comparisons are between natural numbers.
-/

namespace GraphQuery.Number

/-- A power of two. -/
def twoPow (n : Nat) : Nat := Nat.pow 2 n

/-- A power of ten. -/
def tenPow (n : Nat) : Nat := Nat.pow 10 n

/-- The magnitude `mantissa * 2 ^ exponent` of a finite double. -/
structure Binary where
  mantissa : Nat
  exponent : Int

/-- The value `digits * 10 ^ exponent`. -/
structure Decimal where
  digits : Nat
  exponent : Int

/-- The magnitude that the exponent and fraction fields of a finite double stand for. -/
def Binary.ofBits (bits : UInt64) : Binary :=
  let field : Nat := bits.toNat / twoPow 52 % twoPow 11
  let fraction : Nat := bits.toNat % twoPow 52
  if field = 0 then ⟨fraction, -1074⟩ else ⟨twoPow 52 + fraction, (field : Int) - 1075⟩

namespace Binary

/-- The natural number that the magnitude is, if it is one. -/
def natural? (b : Binary) : Option Nat :=
  let numerator := b.mantissa * twoPow b.exponent.toNat
  let denominator := twoPow (-b.exponent).toNat
  if numerator % denominator = 0 then some (numerator / denominator) else none

/-- Four times the mantissa, which leaves room for the ends of the interval. -/
def quarters (b : Binary) : Nat := 4 * b.mantissa

/-- The lower end of the interval in quarters: half a step, a quarter below a power of two. -/
def lower (b : Binary) : Nat :=
  b.quarters - if b.mantissa = twoPow 52 && b.exponent ≠ -1074 then 1 else 2

/-- The upper end of the interval in quarters. -/
def upper (b : Binary) : Nat := b.quarters + 2

/-- Numerator of one quarter of the unit in the last place. -/
def numerator (b : Binary) : Nat := twoPow (b.exponent - 2).toNat

/-- Denominator of one quarter of the unit in the last place. -/
def denominator (b : Binary) : Nat := twoPow (2 - b.exponent).toNat

/-- The integer part of the magnitude divided by `10 ^ unit`. -/
def floorAt (b : Binary) (unit : Int) : Nat :=
  b.quarters * b.numerator * tenPow (-unit).toNat / (b.denominator * tenPow unit.toNat)

/-- How many digits stand before the decimal point; zero or less below one. -/
def magnitude (b : Binary) : Int :=
  match b.floorAt 0 with
  | 0 => match (List.range 400).find? fun t : Nat ↦ 0 < b.floorAt (-(t : Int)) with
    | some t => 1 - (t : Int)
    | none => 0
  | n + 1 => ((Nat.toDigits 10 (n + 1)).length : Int)

/-- Whether the grid point `point * 10 ^ unit` rounds to the number. -/
def hits (b : Binary) (unit : Int) (point : Nat) : Bool :=
  let here := point * tenPow unit.toNat * b.denominator
  let low := b.lower * b.numerator * tenPow (-unit).toNat
  let high := b.upper * b.numerator * tenPow (-unit).toNat
  if b.mantissa % 2 = 0 then low ≤ here && here ≤ high else low < here && here < high

/-- Whether the number is nearer to the grid point than to the next one, or as near and the point
is even. -/
def prefersLower (b : Binary) (unit : Int) (point : Nat) : Bool :=
  let here := 2 * (b.quarters * b.numerator * tenPow (-unit).toNat)
  let middle := (2 * point + 1) * tenPow unit.toNat * b.denominator
  here < middle || (here = middle && point % 2 = 0)

/-- The grid point of the given unit that rounds to the number and is nearest to it. -/
def pointAt? (b : Binary) (unit : Int) : Option Nat :=
  let point := b.floorAt unit
  match b.hits unit point, b.hits unit (point + 1) with
  | true, true => some (if b.prefersLower unit point then point else point + 1)
  | true, false => some point
  | false, true => some (point + 1)
  | false, false => none

/-- The shortest decimal that rounds to the number, the nearest of them if there are several. -/
def shortest (b : Binary) : Decimal :=
  let digits := (List.range 17).findSome? fun k : Nat ↦
    let unit := b.magnitude - ((k : Int) + 1)
    (b.pointAt? unit).map fun point ↦ Decimal.mk point unit
  digits.getD ⟨b.floorAt (b.magnitude - 17), b.magnitude - 17⟩

end Binary

/-- The integer that a double is equal to, if there is one. -/
def integer? (x : Float) : Option Int :=
  if x.isNaN || x.isInf then none
  else (Binary.ofBits x.toBits).natural?.map fun n ↦
    if x.toBits.toNat / twoPow 63 = 1 then -(n : Int) else n

/-- Digits of a decimal with the zeros at the end taken into the exponent. -/
def Decimal.trimmed (d : Decimal) : List Char × Int :=
  let ds := Nat.toDigits 10 d.digits
  let kept := (ds.reverse.dropWhile (· == '0')).reverse
  (kept, d.exponent + ((ds.length - kept.length : Nat) : Int))

/-- An exponent with its sign and at least two digits. -/
def exponentText (e : Int) : List Char :=
  let ds := Nat.toDigits 10 e.natAbs
  (if e < 0 then '-' else '+') :: (if ds.length < 2 then '0' :: ds else ds)

/-- A decimal is written positionally when its first digit stands for `10 ^ e` with `-4 ≤ e < 16`,
with a fraction even if it is zero; otherwise with one digit before the point and an exponent. -/
def Decimal.text (d : Decimal) : List Char :=
  let (ds, unit) := d.trimmed
  let point := (ds.length : Int) + unit
  if point - 1 < -4 || 16 ≤ point - 1 then
    let fraction := if ds.length ≤ 1 then [] else '.' :: ds.tail
    ds.take 1 ++ fraction ++ ['e'] ++ exponentText (point - 1)
  else if point ≤ 0 then
    ['0', '.'] ++ List.replicate (-point).toNat '0' ++ ds
  else if ds.length ≤ point.toNat then
    ds ++ List.replicate (point.toNat - ds.length) '0' ++ ['.', '0']
  else
    ds.take point.toNat ++ ['.'] ++ ds.drop point.toNat

/-- The shortest text that reads back as the given double. -/
def floatText (x : Float) : String :=
  if x.isNaN then "nan"
  else
    let sign := if x.toBits.toNat / twoPow 63 = 1 then ['-'] else []
    let magnitude := Binary.ofBits x.toBits
    let body :=
      if x.isInf then ['i', 'n', 'f']
      else if magnitude.mantissa = 0 then ['0', '.', '0']
      else magnitude.shortest.text
    String.ofList (sign ++ body)

end GraphQuery.Number
