import GraphQuery.Proofs.Script.Token
import GraphQuery.Traversal

/-!
# What the text of a traversal says

The reading of a traversal is what is left of it once all is put alike that is written alike: no
choice and an empty list of names, one name and a list of that name alone, and all inner traversals
that are no query.  Every reading is spelled token by token, and the text of a traversal is the
spelling of its reading (`Traversal.toList_text`).

The references of a reading are the names of the morphisms that it follows, at any depth.
-/

namespace GraphQuery

/-- What the text of a traversal says. -/
inductive Reading
  | vertices (names : List String)
  | fragment
  /-- The inner traversal of a call is no query. -/
  | undefined
  | edge (before : Reading) (kind : Edge) (predicates second : List String)
  /-- The inner traversal finds the predicates. -/
  | found (before : Reading) (kind : Edge) (inner : Reading) (second : List String)
  | mark (before : Reading) (kind : Mark) (names : List String)
  | join (before : Reading) (kind : Join) (inner : Reading)
  | follow (before : Reading) (direction : Direction) (name : String)
  | finish (before : Reading) (terminal : Terminal)
deriving DecidableEq

/-- What the text of a traversal says, were it a query. -/
def Traversal.reading : Traversal → Reading
  | start (.vertices nodes) => .vertices nodes.names
  | start .fragment => .fragment
  | call before (.edge kind predicates second) =>
    .edge before.reading kind predicates.names second.names
  | call before (.mark kind choice) => .mark before.reading kind choice.names
  | call before (.follow direction name) => .follow before.reading direction name
  | call before (.finish terminal) => .finish before.reading terminal
  | nest before (.edge kind second) inner =>
    .found before.reading kind (if inner.isBroken then .undefined else inner.reading) second.names
  | nest before (.join kind) inner =>
    .join before.reading kind (if inner.isBroken then .undefined else inner.reading)

/-- What the text of an inner traversal says. -/
def Traversal.innerReading (t : Traversal) : Reading :=
  if t.isBroken then .undefined else t.reading

/-- The name of a terminal call. -/
def Terminal.word : Terminal → String
  | all => "All"
  | limit _ => "GetLimit"
  | array => "ToArray"
  | value => "ToValue"
  | tagArray => "TagArray"
  | tagValue => "TagValue"

/-- What stands between the brackets of a terminal call. -/
def Terminal.operand : Terminal → List Char
  | limit count => Nat.toDigits 10 count
  | _ => []

namespace Script

/-- The calls by their names. -/
inductive Verb
  | edge (kind : Edge)
  | mark (kind : Mark)
  | join (kind : Join)
  | follow (direction : Direction)
  | finish (terminal : Terminal)

/-- The name of a call. -/
def Verb.word : Verb → String
  | edge kind => kind.word
  | mark kind => kind.word
  | join kind => kind.word
  | follow direction => direction.word
  | finish terminal => terminal.word

/-! ## Spelling -/

/-- The literals of names, with commas between them. -/
def literals : List String → List Token
  | [] => []
  | [name] => [.literal name.toList]
  | name :: names => .literal name.toList :: .sign [] ',' :: literals names

theorem literals_cons_cons (name next : String) (names : List String) :
    literals (name :: next :: names) =
      .literal name.toList :: .sign [] ',' :: literals (next :: names) := rfl

/-- The end of a call with two arguments, from the end of the first one on. -/
def closing (word : List Char) (second : List String) : List Token :=
  if second = [] then [.sign word ')']
  else .sign word ',' :: .sign [] ' ' :: (literals second ++ [.sign [] ')'])

/-- The beginning of a call. -/
def opening (verb : Verb) : List Token := [.sign [] '.', .sign verb.word.toList '(']

/-- What holds the place of predicates that are left out. -/
def placeholder (predicates second : List String) : List Char :=
  if predicates = [] ∧ second ≠ [] then "null".toList else []

end Script

namespace Reading

open Script (Token literals opening closing placeholder)

/-- The word of a reading that is one word and nothing else. -/
def word : Reading → List Char
  | undefined => "undefined".toList
  | _ => []

/-- The tokens of a reading up to its last sign. -/
def tokens : Reading → List Token
  | vertices names => .sign ['g'] '.' :: .sign ['V'] '(' :: (literals names ++ [.sign [] ')'])
  | fragment => [.sign ['g'] '.', .sign ['M'] '(', .sign [] ')']
  | undefined => []
  | edge before kind predicates second =>
    before.tokens ++ opening (.edge kind) ++ literals predicates ++
      closing (placeholder predicates second) second
  | found before kind inner second =>
    before.tokens ++ opening (.edge kind) ++ inner.tokens ++ closing inner.word second
  | mark before kind names =>
    before.tokens ++ opening (.mark kind) ++ literals names ++ [.sign [] ')']
  | join before kind inner =>
    before.tokens ++ opening (.join kind) ++ inner.tokens ++ [.sign inner.word ')']
  | follow before direction name =>
    before.tokens ++ opening (.follow direction) ++ [.sign name.toList ')']
  | finish before terminal =>
    before.tokens ++ opening (.finish terminal) ++ [.sign terminal.operand ')']

/-- The names of the morphisms that are followed, at any depth. -/
def references : Reading → List String
  | vertices _ | fragment | undefined => []
  | edge before _ _ _ | mark before _ _ | finish before _ => before.references
  | found before _ inner _ | join before _ inner => before.references ++ inner.references
  | follow before _ name => before.references ++ [name]

end Reading

namespace Script

/-! ## The text of a traversal is its reading spelled -/

@[simp] theorem spell_sign (word : List Char) (mark : Char) :
    (Token.sign word mark).spell = word ++ [mark] := rfl

@[simp] theorem spell_literal (name : List Char) :
    (Token.literal name).spell = Text.quoteChars name := rfl

theorem flatMap_spell_literals (names : List String) :
    (literals names).flatMap Token.spell = (Text.quoteList names).toList := by
  induction names with
  | nil => rfl
  | cons name names ih =>
      cases names with
      | nil => simp [literals]
      | cons next names =>
          have hcomma : ",".toList = [','] := rfl
          rw [Text.quoteList] at ih ⊢
          simp only [literals, List.map_cons, List.flatMap_cons, spell_literal, spell_sign,
            String.intercalate_cons_cons, String.toList_append, Text.toList_quote, hcomma] at ih ⊢
          rw [ih]
          simp

/-- Only the empty list of names is written as the empty text. -/
theorem quoteList_eq_empty_iff {names : List String} : Text.quoteList names = "" ↔ names = [] := by
  constructor
  · intro h
    have hspelled := flatMap_spell_literals names
    rw [h] at hspelled
    cases names with
    | nil => rfl
    | cons name names => cases names <;> cases hspelled
  · rintro rfl
    rfl

/-- Two arguments and the closing bracket, from the end of the first argument on. -/
theorem spell_closing {first : String} {second : List String} {body word : List Char}
    (h : body ++ word = (if first = "" ∧ second ≠ [] then "null" else first).toList) :
    body ++ (closing word second).flatMap Token.spell =
      (arguments first (Text.quoteList second)).toList ++ [')'] := by
  by_cases hsecond : second = []
  · subst hsecond
    rw [if_neg (by simp)] at h
    simp [closing, arguments, ← h]
  · have hlist : Text.quoteList second ≠ "" := by rwa [Ne, quoteList_eq_empty_iff]
    have hcomma : ", ".toList = [',', ' '] := rfl
    have hnull : "null, ".toList = "null".toList ++ [',', ' '] := rfl
    have hspelled : body ++ (closing word second).flatMap Token.spell =
        body ++ word ++ [',', ' '] ++ (Text.quoteList second).toList ++ [')'] := by
      simp [closing, hsecond, flatMap_spell_literals]
    rw [hspelled, h, arguments, if_neg hlist]
    by_cases hfirst : first = ""
    · simp [hfirst, hsecond, hnull]
    · simp [hfirst, hcomma]

/-- Predicates that are left out are held by a word if there is something after them. -/
theorem spell_predicates (predicates second : List String) :
    (literals predicates).flatMap Token.spell ++ placeholder predicates second =
      (if Text.quoteList predicates = "" ∧ second ≠ [] then "null"
        else Text.quoteList predicates).toList := by
  simp only [flatMap_spell_literals, placeholder, quoteList_eq_empty_iff]
  split
  · rename_i h
    rw [h.1]
    rfl
  · exact List.append_nil _

end Script

namespace Traversal

open Script

theorem reading_nest_edge (t inner : Traversal) (kind : Edge) (second : Choice) :
    (t.nest (.edge kind second) inner).reading =
      .found t.reading kind inner.innerReading second.names := rfl

theorem reading_nest_join (t inner : Traversal) (kind : Join) :
    (t.nest (.join kind) inner).reading = .join t.reading kind inner.innerReading := rfl

/-- The text of a terminal call. -/
theorem toList_terminal (terminal : Terminal) :
    terminal.text.toList = terminal.word.toList ++ '(' :: (terminal.operand ++ [')']) := by
  cases terminal with
  | limit count =>
      have hopen : "GetLimit(".toList = "GetLimit".toList ++ ['('] := rfl
      have hclose : ")".toList = [')'] := rfl
      rw [Terminal.text, String.toList_append, String.toList_append, hopen, hclose]
      simp [Terminal.word, Terminal.operand]
  | _ => rfl

theorem text_ne_empty (t : Traversal) : t.text ≠ "" := by
  intro h
  have hlist := congrArg String.toList h
  cases t with
  | start root =>
      cases root with
      | vertices nodes => simp [Root.text] at hlist
      | fragment => cases hlist
  | call before call => simp at hlist
  | nest before call inner => simp at hlist

theorem argument_ne_empty (t : Traversal) : t.argument ≠ "" := by
  unfold argument
  split
  · decide
  · exact t.text_ne_empty

/-- The beginning of a call. -/
theorem spell_opening (verb : Verb) :
    (opening verb).flatMap Token.spell = '.' :: (verb.word.toList ++ ['(']) := by
  simp [opening]

theorem word_reading (t : Traversal) : t.reading.word = [] := by
  cases t with
  | start root => cases root <;> rfl
  | call before call => cases call <;> rfl
  | nest before call inner => cases call <;> rfl

/-- The text of an inner traversal is its reading spelled token by token. -/
theorem toList_argument {t : Traversal} (h : t.text.toList = t.reading.tokens.flatMap Token.spell) :
    t.argument.toList = t.innerReading.tokens.flatMap Token.spell ++ t.innerReading.word := by
  unfold argument innerReading
  split
  · rfl
  · rw [h, word_reading, List.append_nil]

/-- The text of a traversal is its reading spelled token by token. -/
theorem toList_text (t : Traversal) : t.text.toList = t.reading.tokens.flatMap Token.spell := by
  have hdot : ".".toList = ['.'] := rfl
  have hopen : "(".toList = ['('] := rfl
  have hclose : ")".toList = [')'] := rfl
  induction t with
  | start root =>
      cases root with
      | vertices nodes =>
          have hroot : "g.V(".toList = ['g', '.', 'V', '('] := rfl
          simp [Root.text, reading, Reading.tokens, hroot, hclose, flatMap_spell_literals,
            Choice.text_eq]
      | fragment => rfl
  | call before call ih =>
      rw [text_call, String.toList_append, String.toList_append, ih, hdot]
      cases call with
      | edge kind predicates second =>
          have hclosing := spell_closing (spell_predicates predicates.names second.names)
          simp [Call.text, reading, Reading.tokens, spell_opening, Verb.word, hopen, hclose,
            hclosing, Choice.text_eq]
      | mark kind choice =>
          simp [Call.text, reading, Reading.tokens, spell_opening, Verb.word, hopen, hclose,
            flatMap_spell_literals, Choice.text_eq]
      | follow direction name =>
          simp [Call.text, reading, Reading.tokens, spell_opening, Verb.word, hopen, hclose]
      | finish terminal =>
          simp [Call.text, reading, Reading.tokens, spell_opening, Verb.word, toList_terminal]
  | nest before call inner ih ihinner =>
      rw [text_nest, String.toList_append, String.toList_append, ih, hdot]
      cases call with
      | edge kind second =>
          have hinner : inner.innerReading.tokens.flatMap Token.spell ++ inner.innerReading.word =
              (if inner.argument = "" ∧ second.names ≠ [] then "null"
                else inner.argument).toList := by
            rw [if_neg fun h ↦ inner.argument_ne_empty h.1, toList_argument ihinner]
          have hclosing := spell_closing hinner
          simp [NestCall.text, reading_nest_edge, Reading.tokens, spell_opening, Verb.word, hopen,
            hclose, hclosing, Choice.text_eq]
      | join kind =>
          simp [NestCall.text, reading_nest_join, Reading.tokens, spell_opening, Verb.word, hopen,
            hclose, toList_argument ihinner]

end Traversal

/-! ## The tokens of a reading are proper ones -/

namespace Script

theorem isWord_nil : IsWord [] := fun _ h ↦ nomatch h

theorem isProper_literals (names : List String) : ∀ t ∈ literals names, t.IsProper := by
  induction names with
  | nil => simp [literals]
  | cons name names ih =>
      cases names with
      | nil => simp [literals, Token.IsProper]
      | cons next names =>
          intro t ht
          rcases List.mem_cons.1 ht with rfl | ht
          · trivial
          · rcases List.mem_cons.1 ht with rfl | ht
            · exact ⟨isWord_nil, rfl⟩
            · exact ih t ht

theorem isProper_closing {word : List Char} (hword : IsWord word) (second : List String) :
    ∀ t ∈ closing word second, t.IsProper := by
  intro t ht
  unfold closing at ht
  split at ht
  · obtain rfl := List.mem_singleton.1 ht
    exact ⟨hword, rfl⟩
  · rcases List.mem_cons.1 ht with rfl | ht
    · exact ⟨hword, rfl⟩
    · rcases List.mem_cons.1 ht with rfl | ht
      · exact ⟨isWord_nil, rfl⟩
      · rcases List.mem_append.1 ht with ht | ht
        · exact isProper_literals second t ht
        · obtain rfl := List.mem_singleton.1 ht
          exact ⟨isWord_nil, rfl⟩

theorem isProper_singleton {word : List Char} (hword : IsWord word) :
    ∀ t ∈ [Token.sign word ')'], t.IsProper := by
  intro t ht
  obtain rfl := List.mem_singleton.1 ht
  exact ⟨hword, rfl⟩

theorem isWord_placeholder (predicates second : List String) :
    IsWord (placeholder predicates second) := by
  unfold placeholder
  split
  · exact isWord_of_all rfl
  · exact isWord_nil

/-- The name of a call is a word. -/
theorem isWord_verb (verb : Verb) : IsWord verb.word.toList := by
  cases verb with
  | edge kind => cases kind <;> exact isWord_of_all rfl
  | mark kind => cases kind <;> exact isWord_of_all rfl
  | join kind => cases kind <;> exact isWord_of_all rfl
  | follow direction => cases direction <;> exact isWord_of_all rfl
  | finish terminal =>
      cases terminal with
      | limit _ => exact (isWord_of_all rfl : IsWord "GetLimit".toList)
      | _ => exact isWord_of_all rfl

theorem isProper_opening (verb : Verb) : ∀ t ∈ opening verb, t.IsProper := by
  intro t ht
  rcases List.mem_cons.1 ht with rfl | ht
  · exact ⟨isWord_nil, rfl⟩
  · obtain rfl := List.mem_singleton.1 ht
    exact ⟨isWord_verb verb, rfl⟩

theorem isWord_operand (terminal : Terminal) : IsWord terminal.operand := by
  cases terminal with
  | limit count =>
      intro c hc
      have hdigit : c.isDigit = true :=
        Nat.isDigit_of_mem_toDigits (by decide) (by decide) hc
      exact isWordChar_of_isPart (by rw [Identifier.isPart, hdigit, Bool.or_true])
  | _ => exact isWord_nil

theorem isWord_reading (r : Reading) : IsWord r.word := by
  cases r with
  | undefined => exact isWord_of_all rfl
  | _ => exact isWord_nil

end Script

namespace Reading

open Script

/-- If the names of morphisms are words, a reading is spelled by proper tokens. -/
theorem isProper_tokens (r : Reading) (h : ∀ n ∈ r.references, IsWord n.toList) :
    ∀ t ∈ r.tokens, t.IsProper := by
  induction r with
  | vertices names =>
      intro t ht
      rcases List.mem_cons.1 ht with rfl | ht
      · exact ⟨isWord_of_all rfl, rfl⟩
      · rcases List.mem_cons.1 ht with rfl | ht
        · exact ⟨isWord_of_all rfl, rfl⟩
        · rcases List.mem_append.1 ht with ht | ht
          · exact isProper_literals names t ht
          · exact isProper_singleton isWord_nil t ht
  | fragment =>
      intro t ht
      simp only [tokens, List.mem_cons, List.not_mem_nil, or_false] at ht
      rcases ht with rfl | rfl | rfl <;> exact ⟨isWord_of_all rfl, rfl⟩
  | undefined =>
      intro t ht
      cases ht
  | edge before kind predicates second ih =>
      simp only [tokens, List.forall_mem_append]
      exact ⟨⟨⟨ih h, isProper_opening (.edge kind)⟩, isProper_literals predicates⟩,
        isProper_closing (isWord_placeholder predicates second) second⟩
  | found before kind inner second ih ihinner =>
      simp only [references, List.forall_mem_append] at h
      simp only [tokens, List.forall_mem_append]
      exact ⟨⟨⟨ih h.1, isProper_opening (.edge kind)⟩, ihinner h.2⟩,
        isProper_closing (isWord_reading inner) second⟩
  | mark before kind names ih =>
      simp only [tokens, List.forall_mem_append]
      exact ⟨⟨⟨ih h, isProper_opening (.mark kind)⟩, isProper_literals names⟩,
        isProper_singleton isWord_nil⟩
  | join before kind inner ih ihinner =>
      simp only [references, List.forall_mem_append] at h
      simp only [tokens, List.forall_mem_append]
      exact ⟨⟨⟨ih h.1, isProper_opening (.join kind)⟩, ihinner h.2⟩,
        isProper_singleton (isWord_reading inner)⟩
  | follow before direction name ih =>
      simp only [references, List.forall_mem_append] at h
      simp only [tokens, List.forall_mem_append]
      exact ⟨⟨ih h.1, isProper_opening (.follow direction)⟩,
        isProper_singleton (h.2 name List.mem_cons_self)⟩
  | finish before terminal ih =>
      simp only [tokens, List.forall_mem_append]
      exact ⟨⟨ih h, isProper_opening (.finish terminal)⟩,
        isProper_singleton (isWord_operand terminal)⟩

end Reading

/-- A traversal that follows morphisms by words only is read as the tokens of its reading. -/
theorem Traversal.lex_text (t : Traversal)
    (h : ∀ n ∈ t.reading.references, Script.IsWord n.toList) :
    Script.lex (.outside []) t.text.toList = t.reading.tokens := by
  rw [toList_text, Script.lex_flatMap_spell (t.reading.isProper_tokens h)]

end GraphQuery
