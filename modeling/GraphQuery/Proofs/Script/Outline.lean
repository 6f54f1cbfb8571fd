import GraphQuery.Proofs.Script.Parser

/-!
# Outlines

The outline of a choice of names has as many names and says none of them, and so do the outlines of
all that choices occur in.  Outlining goes through everything that is done with a traversal: whether
it is a query (`Traversal.isBroken_outline`), what it says (`Traversal.reading_outline`) and the
tokens that it is written with (`Reading.tokens_outline`).

`eraseLiterals` takes the contents of all literals out of a text, knowing nothing of how the text
came about.  What it leaves of the text of a traversal is the text of the outline
(`Traversal.eraseLiterals_text`), so no name can have a say in it.
-/

namespace GraphQuery

/-- As many names, none of them said. -/
def blank (names : List String) : List String := names.map fun _ ↦ ""

@[simp] theorem blank_eq_nil {names : List String} : blank names = [] ↔ names = [] :=
  List.map_eq_nil_iff

/-! ## Outlines of traversals -/

namespace Choice

/-- The outline of a choice. -/
def outline : Choice → Choice
  | any => any
  | one _ => one ""
  | many names => many (blank names)

@[simp] theorem names_outline (c : Choice) : c.outline.names = blank c.names := by
  cases c <;> rfl

@[simp] theorem isOne_outline (c : Choice) : c.outline.isOne = c.isOne := by
  cases c <;> rfl

end Choice

/-- The outline of a root. -/
def Root.outline : Root → Root
  | vertices nodes => vertices nodes.outline
  | fragment => fragment

/-- The outline of a call. -/
def Call.outline : Call → Call
  | edge kind predicates second => edge kind predicates.outline second.outline
  | mark kind names => mark kind names.outline
  | follow direction name => follow direction name
  | finish terminal => finish terminal

/-- The outline of a call around an inner traversal. -/
def NestCall.outline : NestCall → NestCall
  | edge kind second => edge kind second.outline
  | join kind => join kind

/-- The outline of a traversal. -/
def Traversal.outline : Traversal → Traversal
  | start root => start root.outline
  | call before c => before.outline.call c.outline
  | nest before c inner => before.outline.nest c.outline inner.outline

/-- The outline of what a traversal says. -/
def Reading.outline : Reading → Reading
  | vertices names => vertices (blank names)
  | fragment => fragment
  | undefined => undefined
  | edge before kind predicates second =>
    edge before.outline kind (blank predicates) (blank second)
  | found before kind inner second => found before.outline kind inner.outline (blank second)
  | mark before kind names => mark before.outline kind (blank names)
  | join before kind inner => join before.outline kind inner.outline
  | follow before direction name => follow before.outline direction name
  | finish before terminal => finish before.outline terminal

/-- Whether a call has a problem does not depend on what is said by it. -/
theorem Call.problems_outline_eq_nil (c : Call) : c.outline.problems = [] ↔ c.problems = [] := by
  cases c with
  | edge kind predicates second =>
      cases kind with
      | save =>
          simp only [outline, problems, Choice.isOne_outline, List.append_eq_nil_iff]
          cases predicates.isOne <;> cases second.isOne <;> simp
      | _ => exact Iff.rfl
  | _ => exact Iff.rfl

theorem NestCall.problems_outline_eq_nil (c : NestCall) (inner : Traversal) :
    c.outline.problems inner.outline = [] ↔ c.problems inner = [] := by
  cases c with
  | edge kind second =>
      cases kind with
      | save => exact iff_of_false (List.cons_ne_nil _ _) (List.cons_ne_nil _ _)
      | _ => exact Iff.rfl
  | join kind => exact Iff.rfl

namespace Traversal

theorem problems_outline_eq_nil (t : Traversal) : t.outline.problems = [] ↔ t.problems = [] := by
  induction t with
  | start root => exact Iff.rfl
  | call before c ih =>
      simp only [outline, problems_call, List.append_eq_nil_iff, ih, c.problems_outline_eq_nil]
  | nest before c inner ih _ =>
      simp only [outline, problems_nest, List.append_eq_nil_iff, ih,
        c.problems_outline_eq_nil inner]

/-- Whether a traversal is a query does not depend on the names in it. -/
@[simp] theorem isBroken_outline (t : Traversal) : t.outline.isBroken = t.isBroken := by
  rw [isBroken, isBroken, Bool.eq_iff_iff]
  simp [t.problems_outline_eq_nil]

@[simp] theorem isFinalized_outline (t : Traversal) : t.outline.isFinalized = t.isFinalized := by
  cases t with
  | call before c => cases c <;> rfl
  | _ => rfl

/-- What the outline of a traversal says is the outline of what the traversal says. -/
@[simp] theorem reading_outline (t : Traversal) : t.outline.reading = t.reading.outline := by
  induction t with
  | start root =>
      cases root with
      | vertices nodes => simp [outline, Root.outline, reading, Reading.outline]
      | fragment => rfl
  | call before c ih =>
      cases c <;> simp [outline, Call.outline, reading, Reading.outline, ih]
  | nest before c inner ih ihinner =>
      have hinner : inner.outline.innerReading = inner.innerReading.outline := by
        rw [innerReading, innerReading, isBroken_outline, ihinner]
        split <;> rfl
      cases c with
      | edge kind second =>
          rw [outline, NestCall.outline, reading_nest_edge, reading_nest_edge, Reading.outline, ih,
            hinner, Choice.names_outline]
      | join kind =>
          rw [outline, NestCall.outline, reading_nest_join, reading_nest_join, Reading.outline, ih,
            hinner]

end Traversal

/-! ## Outlines of tokens -/

namespace Script

/-- A token with nothing left in it if it is a literal. -/
def Token.outline : Token → Token
  | sign word mark => sign word mark
  | literal _ => literal []

@[simp] theorem outline_sign (word : List Char) (mark : Char) :
    (Token.sign word mark).outline = .sign word mark := rfl

theorem literals_blank (names : List String) :
    literals (blank names) = (literals names).map Token.outline := by
  induction names with
  | nil => rfl
  | cons name names ih =>
      cases names with
      | nil => rfl
      | cons next names =>
          rw [literals_cons_cons, List.map_cons, List.map_cons, ← ih]
          rfl

theorem closing_blank (word : List Char) (second : List String) :
    closing word (blank second) = (closing word second).map Token.outline := by
  unfold closing
  by_cases hsecond : second = []
  · simp [hsecond]
  · simp [hsecond, literals_blank]

theorem placeholder_blank (predicates second : List String) :
    placeholder (blank predicates) (blank second) = placeholder predicates second := by
  simp [placeholder]

theorem map_outline_opening (verb : Verb) : (opening verb).map Token.outline = opening verb := rfl

end Script

namespace Reading

open Script

@[simp] theorem word_outline (r : Reading) : r.outline.word = r.word := by
  cases r <;> rfl

/-- A reading and its outline have the same tokens but for what is in the literals. -/
theorem tokens_outline (r : Reading) : r.outline.tokens = r.tokens.map Token.outline := by
  induction r with
  | vertices names => simp [outline, tokens, literals_blank]
  | fragment => rfl
  | undefined => rfl
  | edge before kind predicates second ih =>
      simp [outline, tokens, literals_blank, closing_blank, placeholder_blank, map_outline_opening,
        ih]
  | found before kind inner second ih ihinner =>
      simp [outline, tokens, closing_blank, map_outline_opening, ih, ihinner]
  | mark before kind names ih =>
      simp [outline, tokens, literals_blank, map_outline_opening, ih]
  | join before kind inner ih ihinner =>
      simp [outline, tokens, map_outline_opening, ih, ihinner]
  | follow before direction name ih => simp [outline, tokens, map_outline_opening, ih]
  | finish before terminal ih => simp [outline, tokens, map_outline_opening, ih]

end Reading

/-! ## Erasing what is in literals -/

namespace Script

/-- Where in a text an eraser is. -/
inductive Side
  | outside
  | inside
  /-- Right behind a backslash inside of a literal. -/
  | escaped

/-- What is left of a text without the contents of its literals.  A literal goes from a mark to the
next mark that is not right behind a backslash. -/
def erase : Side → List Char → List Char
  | _, [] => []
  | .outside, c :: cs => c :: erase (if c = '"' then .inside else .outside) cs
  | .inside, c :: cs =>
    if c = '"' then c :: erase .outside cs
    else erase (if c = '\\' then .escaped else .inside) cs
  | .escaped, _ :: cs => erase .inside cs

/-- A text without the contents of its literals. -/
def eraseLiterals (text : String) : String := String.ofList (erase .outside text.toList)

theorem erase_inside_of_isBody {cs : List Char} (hcs : IsBody cs) (rest : List Char) :
    erase .inside (cs ++ rest) = erase .inside rest := by
  induction hcs with
  | nil => rfl
  | plain hquote hback _ ih => rw [List.cons_append, erase, if_neg hquote, if_neg hback, ih]
  | escaped _ ih =>
      rw [List.cons_append, List.cons_append, erase, if_neg (by decide), if_pos rfl, erase, ih]

/-- Of a literal its marks are left, whatever its name and whatever comes after it. -/
theorem erase_literal (name rest : List Char) :
    erase .outside (Text.quoteChars name ++ rest) = '"' :: '"' :: erase .outside rest := by
  rw [Text.quoteChars, List.cons_append, erase, if_pos rfl, List.append_assoc,
    erase_inside_of_isBody (.flatMap isBody_escape name), List.singleton_append, erase, if_pos rfl]

/-- Of what is outside of all literals everything is left. -/
theorem erase_of_ne {cs : List Char} (hcs : ∀ c ∈ cs, c ≠ '"') (rest : List Char) :
    erase .outside (cs ++ rest) = cs ++ erase .outside rest := by
  induction cs with
  | nil => rfl
  | cons c cs ih =>
      rw [List.cons_append, erase, if_neg (hcs c List.mem_cons_self),
        ih fun d hd ↦ hcs d (List.mem_cons_of_mem _ hd), List.cons_append]

/-- There is no mark in a proper token that is no literal. -/
theorem ne_of_mem_spell_sign {word : List Char} {mark : Char}
    (h : (Token.sign word mark).IsProper) : ∀ c ∈ (Token.sign word mark).spell, c ≠ '"' := by
  rintro c hc rfl
  rcases List.mem_append.1 hc with hword | hmark
  · have hchar := h.1 _ hword
    cases hchar
  · have hsign := h.2
    rw [← List.mem_singleton.1 hmark] at hsign
    cases hsign

/-- What is left of a token is the text of its outline. -/
theorem erase_spell {t : Token} (ht : t.IsProper) (rest : List Char) :
    erase .outside (t.spell ++ rest) = t.outline.spell ++ erase .outside rest := by
  cases t with
  | sign word mark => exact erase_of_ne (ne_of_mem_spell_sign ht) rest
  | literal name => exact erase_literal name rest

theorem erase_flatMap_spell {ts : List Token} (hts : ∀ t ∈ ts, t.IsProper) :
    erase .outside (ts.flatMap Token.spell) = (ts.map Token.outline).flatMap Token.spell := by
  induction ts with
  | nil => rfl
  | cons t ts ih =>
      rw [List.flatMap_cons, erase_spell (hts t List.mem_cons_self),
        ih fun u hu ↦ hts u (List.mem_cons_of_mem _ hu), List.map_cons, List.flatMap_cons]

/-- A text is laid out as a reading says: it is spelled by the tokens of the reading, these are the
tokens that are read off it, and a parser finds each name at its own place. -/
structure LaysOut (text : String) (r : Reading) : Prop where
  spelled : text.toList = r.tokens.flatMap Token.spell
  lexed : lex (.outside []) text.toList = r.tokens
  parsed : parse text = some r

end Script

namespace Traversal

open Script

variable {t : Traversal}

theorem laysOut_text (h : ∀ n ∈ t.reading.references, IsWord n.toList) : LaysOut t.text t.reading :=
  ⟨t.toList_text, t.lex_text h, t.parse_text h⟩

/-- Without the contents of its literals the text of a traversal is the text of its outline. -/
theorem eraseLiterals_text (h : ∀ n ∈ t.reading.references, IsWord n.toList) :
    eraseLiterals t.text = t.outline.text := by
  rw [eraseLiterals, t.toList_text, erase_flatMap_spell (t.reading.isProper_tokens h),
    ← Reading.tokens_outline, ← reading_outline, ← toList_text, String.ofList_toList]

end Traversal

end GraphQuery
