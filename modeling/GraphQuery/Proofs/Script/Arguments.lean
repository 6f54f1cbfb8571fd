import GraphQuery.Proofs.Compilation

/-!
# Arguments that are written alike

The names of a list can be read off their literals, so lists of names that are written alike are
equal (`quoteList_inj`).  Of two arguments either one can be cancelled if the other one is the same
(`arguments_left_inj` and `arguments_right_inj`): the word that holds the first place where only the
second argument is there is never what a first argument is written as.
-/

namespace GraphQuery

namespace Script

/-- The name of a literal. -/
def Token.name? : Token → Option String
  | sign _ _ => none
  | literal name => some (String.ofList name)

/-- Between literals there are only signs. -/
theorem filterMap_literals (names : List String) :
    (literals names).filterMap Token.name? = names := by
  induction names with
  | nil => rfl
  | cons name names ih =>
      cases names with
      | nil => simp [literals, Token.name?]
      | cons next names =>
          rw [literals_cons_cons, List.filterMap_cons_some (b := name) (by simp [Token.name?]),
            List.filterMap_cons_none rfl, ih]

theorem quoteList_inj {names others : List String} :
    Text.quoteList names = Text.quoteList others ↔ names = others := by
  refine ⟨fun h ↦ ?_, congrArg Text.quoteList⟩
  have hspelled : (literals names).flatMap Token.spell = (literals others).flatMap Token.spell := by
    rw [flatMap_spell_literals, flatMap_spell_literals, h]
  have htokens : literals names = literals others := by
    rw [← lex_flatMap_spell (isProper_literals names), hspelled,
      lex_flatMap_spell (isProper_literals others)]
  rw [← filterMap_literals names, htokens, filterMap_literals]

/-- A list of names begins with a quotation mark, if with anything. -/
theorem quoteList_ne_null (names : List String) : Text.quoteList names ≠ "null" := by
  intro h
  have hspelled := flatMap_spell_literals names
  rw [h] at hspelled
  cases names with
  | nil => cases hspelled
  | cons name names => cases names <;> cases hspelled

end Script

/-- What stands between brackets can be read off. -/
theorem brackets_inj {a b : String} (opening : String) :
    opening ++ a ++ ")" = opening ++ b ++ ")" ↔ a = b := by
  rw [String.append_left_inj, String.append_right_inj]

section Arguments

variable {first other second : String}

theorem arguments_of_ne_empty (h : second ≠ "") :
    arguments first second = (if first = "" then "null" else first) ++ ", " ++ second := by
  rw [arguments, if_neg h]
  split
  · rfl
  · rfl

/-- The first of two arguments can be read off what is written for both. -/
theorem arguments_left_inj (hfirst : first ≠ "null") (hother : other ≠ "null") :
    arguments first second = arguments other second ↔ first = other := by
  refine ⟨fun h ↦ ?_, fun h ↦ congrArg (arguments · second) h⟩
  by_cases hsecond : second = ""
  · rwa [hsecond] at h
  · rw [arguments_of_ne_empty hsecond, arguments_of_ne_empty hsecond, String.append_left_inj,
      String.append_left_inj] at h
    -- the word that holds the first place is no first argument, so both are held or none is
    split at h
    · rename_i hempty
      split at h
      · rename_i hempty'
        rw [hempty, hempty']
      · exact absurd h.symm hother
    · split at h
      · exact absurd h hfirst
      · exact h

/-- A second argument adds something to what is written for the first one. -/
theorem arguments_ne_of_ne_empty (h : second ≠ "") : arguments first second ≠ first := by
  rw [arguments_of_ne_empty h]
  intro heq
  have hlength := congrArg String.length heq
  rw [String.length_append, String.length_append] at hlength
  split at hlength
  · rename_i hempty
    rw [hempty] at hlength
    exact absurd hlength (by simp)
  · have hcomma : ", ".length = 2 := rfl
    omega

/-- The second of two arguments can be read off what is written for both. -/
theorem arguments_right_inj : arguments first second = arguments first other ↔ second = other := by
  refine ⟨fun h ↦ ?_, congrArg (arguments first)⟩
  have hnone : arguments first "" = first := if_pos rfl
  by_cases hsecond : second = ""
  · by_cases hother : other = ""
    · rw [hsecond, hother]
    · rw [hsecond, hnone] at h
      exact absurd h.symm (arguments_ne_of_ne_empty hother)
  · by_cases hother : other = ""
    · rw [hother, hnone] at h
      exact absurd h (arguments_ne_of_ne_empty hsecond)
    · rw [arguments_of_ne_empty hsecond, arguments_of_ne_empty hother,
        String.append_right_inj] at h
      exact h

end Arguments

/-- A nested path begins with the letter of the graph, or is the word for one that is no query. -/
theorem Traversal.argument_ne_null (t : Traversal) : t.argument ≠ "null" := by
  unfold argument
  split
  · decide
  · intro h
    have hhead := t.head?_toList_text
    rw [h] at hhead
    cases hhead

theorem Choice.text_ne_null (c : Choice) : c.text ≠ "null" := by
  rw [c.text_eq]
  exact Script.quoteList_ne_null _

theorem Predicates.text_ne_null (p : Predicates) : p.text ≠ "null" := by
  cases p with
  | named choice => exact choice.text_ne_null
  | found path => exact path.traversal.argument_ne_null

end GraphQuery
