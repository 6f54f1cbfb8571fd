/-!
# Punycode

A label of a host name is written in ASCII by writing its ASCII characters first and then, for each
of the others in the order of their code points, how far it is from the one before. A distance is
counted over code points and over places in the label at once, and is written in digits of varying
weight: a digit below its threshold is the last one of its number. The thresholds adapt to the
distances that were seen.
-/

namespace GraphQuery.Url.Punycode

/-- The value of a digit: letters come first. -/
def digit? (c : Char) : Option Nat :=
  if 'a' ≤ c && c ≤ 'z' then some (c.toNat - 97)
  else if c.isDigit then some (c.toNat - 22)
  else none

/-- The digit of a value. -/
def digit (d : Nat) : Char := Char.ofNat (if d < 26 then d + 97 else d + 22)

/-- The threshold of the digit at a position, which counts in steps of 36. -/
def threshold (position bias : Nat) : Nat := max 1 (min 26 (position - bias))

/-- A distance that is too large is divided until it is not, which moves the bias. -/
def scale (bias distance : Nat) : Nat :=
  if distance ≤ 455 then bias + 36 * distance / (distance + 38)
  else scale (bias + 36) (distance / 35)
termination_by distance
decreasing_by exact Nat.div_lt_self (by omega) (by decide)

/-- The bias after a distance was seen, given how many characters there are by then. -/
def adapt (isFirst : Bool) (distance count : Nat) : Nat :=
  let halved := if isFirst then distance / 700 else distance / 2
  scale 0 (halved + halved / count)

/-- A label that is being read. -/
structure Reader where
  /-- The characters so far. -/
  label : List Nat
  /-- The code point of the last character that was put in. -/
  codePoint : Nat
  /-- The place after it. -/
  place : Nat
  bias : Nat
  /-- Whether nothing was put in yet. -/
  isFirst : Bool
  /-- The number that is being read, as far as it is known. -/
  distance : Nat
  /-- The weight of its next digit. -/
  weight : Nat
  /-- The position of its next digit. -/
  position : Nat

namespace Reader

/-- A reader at the start of the numbers, given the ASCII characters. -/
def start (basic : List Nat) : Reader := ⟨basic, 0x80, 0, 72, true, 0, 1, 36⟩

/-- Puts in the character that a distance leads to. There are no characters beyond U+10FFFF. -/
def insert? (r : Reader) (distance : Nat) : Option Reader :=
  let places := r.label.length + 1
  let target := r.place + distance
  let codePoint := r.codePoint + target / places
  let place := target % places
  if 0x10ffff < codePoint then none
  else some ⟨r.label.take place ++ codePoint :: r.label.drop place, codePoint, place + 1,
    adapt r.isFirst distance places, false, 0, 1, 36⟩

/-- Reads a digit. -/
def read? (r : Reader) (c : Char) : Option Reader := do
  let d ← digit? c
  let distance := r.distance + d * r.weight
  let t := threshold r.position r.bias
  if d < t then r.insert? distance
  else some { r with
    distance := distance, weight := r.weight * (36 - t), position := r.position + 36 }

/-- The label if it is not in the middle of a number. -/
def finish? (r : Reader) : Option (List Nat) := if r.position = 36 then some r.label else none

end Reader

/-- The code points that a text in lower case stands for. The last hyphen, if there is one, ends the
ASCII characters. -/
def decode? (cs : List Char) : Option (List Nat) :=
  let digits := (cs.reverse.takeWhile (· ≠ '-')).reverse
  let basic := (cs.take (cs.length - digits.length)).dropLast
  (digits.foldlM Reader.read? (.start (basic.map Char.toNat))).bind Reader.finish?

/-- A number in digits, given the position of the first one. -/
def numberFrom (bias position distance : Nat) : List Char :=
  let t := threshold position bias
  if distance < t then [digit distance]
  else
    digit (t + (distance - t) % (36 - t)) ::
      numberFrom bias (position + 36) ((distance - t) / (36 - t))
termination_by distance
decreasing_by
  have : 1 ≤ threshold position bias ∧ threshold position bias ≤ 26 := by
    unfold threshold; omega
  exact Nat.lt_of_le_of_lt (Nat.div_le_self ..) (by omega)

/-- The places at which a code point is put in, where a place counts the characters before it that
are there by then. -/
def placesFrom (place n : Nat) : List Nat → List Nat
  | [] => []
  | m :: ms =>
    if m = n then place :: placesFrom (place + 1) n ms
    else placesFrom (if m < n then place + 1 else place) n ms

/-- A number put into an ascending list of different numbers. -/
def insertNew (n : Nat) : List Nat → List Nat
  | [] => [n]
  | m :: ms =>
    if n < m then n :: m :: ms else if n = m then m :: ms else m :: insertNew n ms

/-- The characters to be put in, each with its place, in the order in which that is done. -/
def insertions (label : List Nat) : List (Nat × Nat) :=
  let codePoints := (label.filter (0x80 ≤ ·)).foldr insertNew []
  codePoints.flatMap fun n ↦ (placesFrom 0 n label).map (n, ·)

/-- A label that is being written. -/
structure Writer where
  /-- How many characters there are. -/
  count : Nat
  /-- The code point of the last character that was put in. -/
  codePoint : Nat
  /-- The place after it. -/
  place : Nat
  bias : Nat
  /-- Whether nothing was put in yet. -/
  isFirst : Bool
  written : List Char

/-- Writes the distance to the next character. -/
def Writer.put (w : Writer) (next : Nat × Nat) : Writer :=
  let places := w.count + 1
  let distance := (next.1 - w.codePoint) * places + next.2 - w.place
  ⟨places, next.1, next.2 + 1, adapt w.isFirst distance places, false,
    w.written ++ numberFrom w.bias 36 distance⟩

/-- What stands for some code points in ASCII. -/
def encode (label : List Nat) : List Char :=
  let basic := (label.filter (· < 0x80)).map Char.ofNat
  let numbers := ((insertions label).foldl Writer.put ⟨basic.length, 0x80, 0, 72, true, []⟩).written
  (if basic.isEmpty then [] else basic ++ ['-']) ++ numbers

end GraphQuery.Url.Punycode
