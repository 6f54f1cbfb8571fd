import GraphQuery.Proofs.Script.Arguments

/-!
# Where literals end

A scanner that starts behind the mark that opens a literal, and passes over whatever stands behind a
backslash, knows nothing of escapes or of names.  It stops at the last mark of the literal all the
same, whatever comes after it (`closing?_quote_append`): between the two marks there are pairs of a
backslash and one more character, and beside them neither a mark nor a backslash.

So the scanner cuts a literal off a text that begins with one.  Where two such texts are equal they
are cut at the same place, which leaves the same rest, and the same body, which was written for one
name only (`quote_append_inj`).
-/

namespace GraphQuery.Script

open Text

/-- The position of the next quotation mark, apart from marks behind a backslash, in a text that is
read from the given position on. -/
def closingFrom? (position : Nat) : List Char → Option Nat
  | [] => none
  | '"' :: _ => some position
  | '\\' :: _ :: cs => closingFrom? (position + 2) cs
  | _ :: cs => closingFrom? (position + 1) cs

/-- The position of the mark that closes the literal at the front of a text. -/
def closing? (text : String) : Option Nat := closingFrom? 1 (text.toList.drop 1)

section Bodies

variable {body other rest rest' : List Char}

/-- Nothing that may stand between the marks of a literal is taken for its last mark. -/
theorem closingFrom?_of_isBody (hbody : IsBody body) (position : Nat) (rest : List Char) :
    closingFrom? position (body ++ '"' :: rest) = some (position + body.length) := by
  induction hbody generalizing position with
  | nil => rfl
  | plain hquote hback _ ih =>
      rw [List.cons_append, closingFrom?, ih, List.length_cons, Option.some.injEq]
      · omega
      · exact hquote
      · exact fun _ _ h ↦ absurd h hback
  | escaped _ ih =>
      -- the character behind the backslash may be a mark, and is passed over without a look
      rw [List.cons_append, List.cons_append, closingFrom?, ih, List.length_cons, List.length_cons,
        Option.some.injEq]
      omega

/-- Of two bodies with a mark behind them neither goes on where the other one ends. -/
theorem IsBody.append_mark_inj (hbody : IsBody body) (hother : IsBody other) :
    body ++ '"' :: rest = other ++ '"' :: rest' ↔ body = other ∧ rest = rest' := by
  constructor
  · intro h
    have hlength : body.length = other.length := by
      have hclosing := congrArg (closingFrom? 0) h
      rw [closingFrom?_of_isBody hbody, closingFrom?_of_isBody hother] at hclosing
      simpa using hclosing
    obtain ⟨hbodies, hrests⟩ := List.append_inj h hlength
    exact ⟨hbodies, List.tail_eq_of_cons_eq hrests⟩
  · rintro ⟨rfl, rfl⟩
    rfl

end Bodies

/-- The body of a literal is written for one name only. -/
theorem flatMap_escape_inj {name other : List Char} :
    name.flatMap escape = other.flatMap escape ↔ name = other :=
  ⟨fun h ↦ Function.LeftInverse.injective unescape_flatMap_escape h, congrArg _⟩

section Literals

variable {name other rest rest' : String}

/-- A literal and what comes after it: its opening mark, its body, its closing mark and the rest. -/
theorem toList_quote_append (name rest : String) : (quote name ++ rest).toList =
    '"' :: (name.toList.flatMap escape ++ '"' :: rest.toList) := by
  rw [String.toList_append, toList_quote, quoteChars, List.cons_append, List.append_assoc,
    List.singleton_append]

/-- The scanner stops at the last character of a literal, whatever comes after it. -/
theorem closing?_quote_append (name rest : String) :
    closing? (quote name ++ rest) = some ((quote name).length - 1) := by
  have hlength : (quote name).length = 1 + (name.toList.flatMap escape).length + 1 := by
    rw [← String.length_toList, toList_quote, quoteChars, List.length_cons, List.length_append,
      List.length_singleton]
    omega
  rw [closing?, toList_quote_append, List.drop_one, List.tail_cons,
    closingFrom?_of_isBody (.flatMap isBody_escape _), hlength, Nat.add_sub_cancel]

/-- A literal and what comes after it can both be read off the text that they make. -/
theorem quote_append_inj :
    quote name ++ rest = quote other ++ rest' ↔ name = other ∧ rest = rest' := by
  have hbody (n : String) : IsBody (n.toList.flatMap escape) := .flatMap isBody_escape _
  rw [← String.toList_inj, toList_quote_append, toList_quote_append, List.cons_inj_right,
    (hbody name).append_mark_inj (hbody other), flatMap_escape_inj, String.toList_inj,
    String.toList_inj]

/-- Each name has a literal of its own. -/
theorem quote_inj : quote name = quote other ↔ name = other := by
  have hempty : quote name ++ "" = quote other ++ "" ↔ name = other ∧ "" = "" := quote_append_inj
  rwa [String.append_empty, String.append_empty, and_iff_left rfl] at hempty

end Literals

/-- Literals say where they end.  A text that begins with a literal is made of one name and one rest
only; the scanner stops at the last character of the literal, whatever the rest; two names never
have one literal, and two lists of names, of whatever lengths, never have one list of literals. -/
theorem selfDelimiting_quote :
    (∀ name other rest rest' : String,
      quote name ++ rest = quote other ++ rest' ↔ name = other ∧ rest = rest') ∧
    (∀ name rest : String, closing? (quote name ++ rest) = some ((quote name).length - 1)) ∧
    (∀ name other : String, quote name = quote other ↔ name = other) ∧
    ∀ names others : List String, quoteList names = quoteList others ↔ names = others := by
  refine ⟨?_, ?_, ?_, ?_⟩
  · intro name other rest rest'
    exact quote_append_inj
  · exact closing?_quote_append
  · intro name other
    exact quote_inj
  · intro names others
    exact quoteList_inj

/-- No names, one empty name, and one name that looks like the inside of two literals. -/
example : [[], [""], ["a\",\"b"]].map quoteList = ["", "\"\"", "\"a\\\",\\\"b\""] := by
  decide +kernel

end GraphQuery.Script
