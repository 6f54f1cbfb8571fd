/-!
# Code points

A code point is the number of a character, or a surrogate, of which only two in a row stand for a
character. A text of code points may hold surrogates by themselves; without any it is a text of
characters.

Properties of characters are given by tables over code points: ranges of code points that have a
property, or runs of code points each of which stands for something of its own.
-/

namespace GraphQuery

/-- A code point, be it of a character or a surrogate. -/
abbrev CodePoint := Fin 0x110000

namespace CodePoint

/-- The code point that a number is. -/
def ofNat (n : Nat) : CodePoint := Fin.ofNat 0x110000 n

/-- The code point of a character. -/
def ofChar (c : Char) : CodePoint := ofNat c.toNat

/-- The character that a code point is of, unless it is a surrogate. -/
def char? (p : CodePoint) : Option Char :=
  if p.val.isValidChar then some (Char.ofNat p.val) else none

/-- The character that a code point is of; U+FFFD stands for a surrogate. -/
def charOrMark (p : CodePoint) : Char := (char? p).getD '\ufffd'

@[simp] theorem char?_ofChar (c : Char) : char? (ofChar c) = some c := by
  have hc : c.toNat % 0x110000 = c.toNat := by
    rcases c.valid with h | ⟨_, h⟩
    · exact Nat.mod_eq_of_lt (Nat.lt_trans h (by decide))
    · exact Nat.mod_eq_of_lt h
  have hvalid : c.toNat.isValidChar := c.valid
  simp [char?, ofChar, ofNat, hc, hvalid]

@[simp] theorem charOrMark_ofChar (c : Char) : charOrMark (ofChar c) = c := by
  rw [charOrMark, char?_ofChar, Option.getD_some]

end CodePoint

/-- A text of code points. -/
structure CodePoints where
  toList : List CodePoint
deriving DecidableEq, Repr

namespace CodePoints

/-- The code points of a text of characters. -/
def ofString (s : String) : CodePoints := ⟨s.toList.map CodePoint.ofChar⟩

instance : Coe String CodePoints := ⟨ofString⟩

/-- The text of characters that has the given code points, unless there is a surrogate. -/
def string? (t : CodePoints) : Option String := (t.toList.mapM CodePoint.char?).map String.ofList

/-- The text inside of a text of characters, where U+FFFD stands for a surrogate. -/
def inText (t : CodePoints) : String := String.ofList (t.toList.map CodePoint.charOrMark)

@[simp] theorem string?_ofString (s : String) : (ofString s).string? = some s := by
  have hchars (cs : List Char) : (cs.map CodePoint.ofChar).mapM CodePoint.char? = some cs := by
    induction cs with
    | nil => rfl
    | cons c cs ih => simp [ih]
  simp [string?, ofString, hchars]

/-- Texts of characters have the same code points only if they are the same. -/
@[simp] theorem ofString_inj {s t : String} : ofString s = ofString t ↔ s = t := by
  refine ⟨fun h ↦ ?_, fun h ↦ h ▸ rfl⟩
  have hstring := string?_ofString s
  rw [h, string?_ofString] at hstring
  exact (Option.some.inj hstring).symm

theorem ofString_injective : ofString.Injective := fun _ _ ↦ ofString_inj.1

end CodePoints

namespace Text

/-- Whether a code point lies in one of some ranges, each given by its first and last code point. -/
def isInRanges (ranges : List (Nat × Nat)) (n : Nat) : Bool :=
  ranges.any fun r ↦ r.1 ≤ n && n ≤ r.2

/-- What belongs to a code point in one of some ranges, each given by its first and last code point
and by what belongs to all of it. -/
def inRanges? {α : Type} (ranges : List (Nat × Nat × α)) (n : Nat) : Option α :=
  (ranges.find? fun r ↦ r.1 ≤ n && n ≤ r.2.1).map (·.2.2)

/-- What belongs to a code point in one of some runs, each given by its first code point and by what
belongs to it and to those after it, one by one. -/
def inRuns? {α : Type} (runs : List (Nat × List α)) (n : Nat) : Option α :=
  runs.findSome? fun r ↦ if r.1 ≤ n then r.2[n - r.1]? else none

end Text

end GraphQuery
