import GraphQuery.Text.Composition
import GraphQuery.Text.MarkClass
import GraphQuery.Text.Variant

/-!
# Normal forms

Texts that mean the same have one normal form. To get there every character is replaced by what it
is made of, the marks after a letter are put into the order of their classes, and at last each mark
that can be reached joins the letter before it. A mark is reached if none of the marks between it
and the letter has its class or a higher one.

In the canonical form only equivalent characters are replaced, in the compatible form their variants
are replaced too.
-/

namespace GraphQuery.Text

/-- What a character is made of, given what others stand for. A letter with marks is taken apart so
many times at most. -/
def takeApart (standsFor? : Nat → Option (List Nat)) : Nat → Nat → List Nat
  | 0, c => [c]
  | times + 1, c =>
    match standsFor? c, parts? c with
    | some cs, _ => cs
    | none, some (letter, mark) =>
      takeApart standsFor? times letter ++ takeApart standsFor? times mark
    | none, none => [c]

/-- No letter has more than three marks. -/
def mostMarks : Nat := 3

/-- Puts a character behind what came before it, last first. A mark goes past the marks of higher
classes. -/
def insertMark (c : Nat) : List Nat → List Nat
  | [] => [c]
  | d :: ds =>
    if 0 < markClass c && markClass c < markClass d then d :: insertMark c ds else c :: d :: ds

/-- Characters with the marks of each letter in the order of their classes. -/
def orderMarks (cs : List Nat) : List Nat :=
  (cs.foldl (fun before c ↦ insertMark c before) []).reverse

/-- Joins letters and marks in what follows a letter and the marks that stay apart from it. -/
def joinMarks (letter : Option Nat) (apart : List Nat) : List Nat → List Nat
  | [] => letter.toList ++ apart
  | c :: cs =>
    let isReached := apart.all (markClass · < markClass c)
    match if isReached then letter.bind (composed? · c) else none with
    | some joined => joinMarks (some joined) apart cs
    | none =>
      if markClass c = 0 then letter.toList ++ apart ++ joinMarks (some c) [] cs
      else joinMarks letter (apart ++ [c]) cs

/-- The normal form of characters, given what others stand for. -/
def normalForm (standsFor? : Nat → Option (List Nat)) (cs : List Nat) : List Nat :=
  joinMarks none [] (orderMarks (cs.flatMap (takeApart standsFor? mostMarks)))

/-- The normal form of characters in which equivalent ones are the same. -/
def canonicalForm : List Nat → List Nat := normalForm equivalent?

/-- The normal form of the characters of an identifier in which variants are the same, too. -/
def compatibleForm : List Nat → List Nat := normalForm variant?

/-- The compatible form of an identifier. -/
def compatibleName (name : String) : String :=
  String.ofList ((compatibleForm (name.toList.map Char.toNat)).map Char.ofNat)

end GraphQuery.Text
