import GraphQuery.Proofs.Script.Reading

/-!
# Parsing query texts

The text of a query can be read back: a parser with a stack of open brackets goes over the tokens
once, and when a bracket is closed it makes a call of the word before the bracket and of what was
read since.  The parser is not strict, as it is of use for texts of traversals only, and of these it
gives back the reading (`Traversal.parse_text`).  So two traversals have the same text only if they
have the same reading.
-/

namespace GraphQuery.Script

/-- What the parser has read between two brackets. -/
inductive Item
  | word (word : List Char)
  | name (name : String)
  /-- The gap between the first and the second argument. -/
  | space
  | reading (reading : Reading)

namespace Item

def name? : Item → Option String
  | name n => some n
  | _ => none

def word? : Item → Option (List Char)
  | word w => some w
  | _ => none

/-- What an item says if it stands for an inner traversal. -/
def reading? : Item → Option Reading
  | reading r => some r
  | word w => if w = Reading.undefined.word then some .undefined else none
  | _ => none

def isSpace : Item → Bool
  | space => true
  | _ => false

end Item

/-- All calls, with any limit for the call that has one. -/
def verbs : List Verb := [
  .edge .out, .edge .into, .edge .both, .edge .has, .edge .save,
  .mark .keep, .mark .tag, .mark .name, .mark .back,
  .join .intersection, .join .union, .follow .forward, .follow .reverse,
  .finish .all, .finish (.limit 0), .finish .array, .finish .value, .finish .tagArray,
  .finish .tagValue]

/-- The call of a given name. -/
def verb? (word : List Char) : Option Verb := verbs.find? fun v ↦ v.word.toList = word

/-- The names among items. -/
def namesOf (items : List Item) : List String := items.filterMap Item.name?

/-- The word among items. -/
def wordOf (items : List Item) : List Char := (items.findSome? Item.word?).getD []

/-- The reading of a call on what was read before it, with the items between its brackets. -/
def call? (before : Reading) (arguments : List Item) : Verb → Option Reading
  | .edge kind =>
    let first := arguments.takeWhile fun i ↦ !i.isSpace
    let second := namesOf (arguments.dropWhile fun i ↦ !i.isSpace)
    match first.findSome? Item.reading? with
    | some inner => some (.found before kind inner second)
    | none => some (.edge before kind (namesOf first) second)
  | .mark kind => some (.mark before kind (namesOf arguments))
  | .join kind => (arguments.findSome? Item.reading?).map (.join before kind)
  | .follow direction => some (.follow before direction (String.ofList (wordOf arguments)))
  | .finish (.limit _) =>
    some (.finish before (.limit (Nat.ofDigitChars 10 (wordOf arguments) 0)))
  | .finish terminal => some (.finish before terminal)

/-- Makes a call or a root of what stands before a bracket, latest first, and of the items in it. -/
def reduce (arguments : List Item) : List Item → Option (List Item)
  | .word root :: .word _ :: items =>
    some (.reading (if root = ['V'] then .vertices (namesOf arguments) else .fragment) :: items)
  | .word word :: .reading before :: items => do
    let verb ← verb? word
    let reading ← call? before arguments verb
    return .reading reading :: items
  | _ => none

/-- A word is an item unless it is empty. -/
def wordItems (word : List Char) : List Item := if word = [] then [] else [.word word]

/-- Reads one token.  The stack has the items of each open bracket, latest first. -/
def step : List (List Item) → Token → Option (List (List Item))
  | items :: stack, .literal name => some ((.name (String.ofList name) :: items) :: stack)
  | items :: stack, .sign word mark =>
    let items := wordItems word ++ items
    if mark = '(' then some ([] :: items :: stack)
    else if mark = ')' then
      match stack with
      | outer :: stack => (reduce items.reverse outer).map (· :: stack)
      | [] => none
    else if mark = ' ' then some ((.space :: items) :: stack)
    else some (items :: stack)
  | [], _ => none

/-- Reads tokens one after the other. -/
def run (tokens : List Token) (stack : List (List Item)) : Option (List (List Item)) :=
  tokens.foldlM step stack

/-- The reading of a text. -/
def parse (text : String) : Option Reading :=
  match run (lex (.outside []) text.toList) [[]] with
  | some [[.reading r]] => some r
  | _ => none

/-! ## Reading parts of a call -/

theorem run_cons (t : Token) (ts : List Token) (stack : List (List Item)) :
    run (t :: ts) stack = (step stack t).bind (run ts) := List.foldlM_cons

variable (items outer : List Item) (stack : List (List Item)) (ts : List Token)

theorem step_literal (name : List Char) : step (items :: stack) (.literal name) =
    some ((.name (String.ofList name) :: items) :: stack) := rfl

theorem step_open (word : List Char) : step (items :: stack) (.sign word '(') =
    some ([] :: (wordItems word ++ items) :: stack) := rfl

theorem step_close (word : List Char) : step (items :: outer :: stack) (.sign word ')') =
    (reduce (wordItems word ++ items).reverse outer).map (· :: stack) := rfl

theorem step_dot (word : List Char) : step (items :: stack) (.sign word '.') =
    some ((wordItems word ++ items) :: stack) := rfl

theorem step_comma (word : List Char) : step (items :: stack) (.sign word ',') =
    some ((wordItems word ++ items) :: stack) := rfl

theorem step_space (word : List Char) : step (items :: stack) (.sign word ' ') =
    some ((.space :: (wordItems word ++ items)) :: stack) := rfl

@[simp] theorem wordItems_nil : wordItems [] = [] := rfl

@[simp] theorem reverse_wordItems (word : List Char) :
    (wordItems word).reverse = wordItems word := by
  unfold wordItems
  split <;> rfl

theorem word_ne_empty (verb : Verb) : verb.word ≠ "" := by
  cases verb with
  | edge kind => cases kind <;> simp [Verb.word, Edge.word]
  | mark kind => cases kind <;> simp [Verb.word, Mark.word]
  | join kind => cases kind <;> simp [Verb.word, Join.word]
  | follow direction => cases direction <;> simp [Verb.word, Direction.word]
  | finish terminal => cases terminal <;> simp [Verb.word, Terminal.word]

theorem run_opening (verb : Verb) :
    run (opening verb ++ ts) (items :: stack) =
      run ts ([] :: (.word verb.word.toList :: items) :: stack) := by
  simp [opening, run_cons, step_dot, step_open, wordItems, word_ne_empty]

theorem run_literals (names : List String) :
    run (literals names ++ ts) (items :: stack) =
      run ts (((names.map Item.name).reverse ++ items) :: stack) := by
  induction names generalizing items with
  | nil => rfl
  | cons name names ih =>
      cases names with
      | nil => simp [literals, run_cons, step_literal]
      | cons next names =>
          rw [literals_cons_cons, List.cons_append, List.cons_append, run_cons, step_literal,
            Option.bind_some, run_cons, step_comma, Option.bind_some, wordItems_nil,
            List.nil_append, ih, String.ofList_toList]
          simp

/-- A closing bracket makes a call of what was read since the opening one. -/
theorem run_bracket (word : List Char) :
    run (.sign word ')' :: ts) (items :: outer :: stack) =
      (reduce (items.reverse ++ wordItems word) outer).bind
        fun outer ↦ run ts (outer :: stack) := by
  rw [run_cons, step_close, List.reverse_append, reverse_wordItems, Option.bind_map]
  rfl

/-- The items of the second argument of a call. -/
def secondItems (second : List String) : List Item :=
  if second = [] then [] else .space :: second.map Item.name

theorem exists_closing_eq (second : List String) :
    ∃ mark rest, ∀ word, closing word second = .sign word mark :: rest := by
  by_cases h : second = []
  · exact ⟨')', [], fun word ↦ if_pos h⟩
  · exact ⟨',', _, fun word ↦ if_neg h⟩

/-- The end of a call with two arguments makes a call of them both. -/
theorem run_closing (word : List Char) (second : List String) :
    run (closing word second ++ ts) (items :: outer :: stack) =
      (reduce (items.reverse ++ wordItems word ++ secondItems second) outer).bind fun outer ↦
        run ts (outer :: stack) := by
  unfold closing secondItems
  split
  · rw [List.append_nil]
    exact run_bracket items outer stack ts word
  · rw [List.cons_append, List.cons_append, List.append_assoc, run_cons, step_comma,
      Option.bind_some, run_cons, step_space, Option.bind_some, run_literals, List.singleton_append,
      run_bracket]
    simp

/-! ## Calls by their names -/

/-- The items that an inner traversal is read as. -/
def innerItems : Reading → List Item
  | .undefined => [.word Reading.undefined.word]
  | r => [.reading r]

theorem findSome?_innerItems (r : Reading) : (innerItems r).findSome? Item.reading? = some r := by
  cases r <;> rfl

theorem not_isSpace_innerItems (r : Reading) : ∀ i ∈ innerItems r, i.isSpace = false := by
  cases r <;> simp [innerItems, Item.isSpace]

theorem namesOf_map (names : List String) : namesOf (names.map Item.name) = names := by
  simp [namesOf, List.filterMap_map, Function.comp_def, Item.name?]

theorem namesOf_secondItems (second : List String) : namesOf (secondItems second) = second := by
  unfold secondItems
  split
  · rename_i h
    exact h.symm
  · exact namesOf_map second

theorem wordOf_wordItems (word : List Char) : wordOf (wordItems word) = word := by
  unfold wordItems
  split
  · rename_i h
    exact h.symm
  · rfl

/-- The first space among the items is where the second argument begins. -/
theorem span_arguments {first : List Item} (h : ∀ i ∈ first, i.isSpace = false)
    (second : List String) :
    (first ++ secondItems second).takeWhile (fun i ↦ !i.isSpace) = first ∧
      (first ++ secondItems second).dropWhile (fun i ↦ !i.isSpace) = secondItems second := by
  have hfirst : ∀ i ∈ first, (!i.isSpace) = true := fun i hi ↦ by rw [h i hi]; rfl
  rw [List.takeWhile_append_of_pos hfirst, List.dropWhile_append_of_pos hfirst]
  unfold secondItems
  split <;> simp [Item.isSpace]

theorem call?_found (before inner : Reading) (kind : Edge) (second : List String) :
    call? before (innerItems inner ++ secondItems second) (.edge kind) =
      some (.found before kind inner second) := by
  obtain ⟨hfirst, hsecond⟩ := span_arguments (not_isSpace_innerItems inner) second
  simp only [call?, hfirst, hsecond, findSome?_innerItems, namesOf_secondItems]

theorem reverse_innerItems (r : Reading) : (innerItems r).reverse = innerItems r := by
  cases r <;> rfl

theorem call?_join (before inner : Reading) (kind : Join) :
    call? before (innerItems inner) (.join kind) = some (.join before kind inner) := by
  rw [call?, findSome?_innerItems]
  rfl

theorem wordItems_placeholder (predicates second : List String) :
    ∀ i ∈ wordItems (placeholder predicates second),
      i.isSpace = false ∧ i.reading? = none ∧ i.name? = none := by
  unfold placeholder
  split
  · intro i hi
    obtain rfl := List.mem_singleton.1 hi
    exact ⟨rfl, rfl, rfl⟩
  · intro i hi
    cases hi

theorem call?_edge (before : Reading) (kind : Edge) (predicates second : List String) :
    call? before (predicates.map Item.name ++ wordItems (placeholder predicates second) ++
      secondItems second) (.edge kind) = some (.edge before kind predicates second) := by
  have hplace := wordItems_placeholder predicates second
  have hspace : ∀ i ∈ predicates.map Item.name ++ wordItems (placeholder predicates second),
      i.isSpace = false := by
    intro i hi
    rcases List.mem_append.1 hi with hi | hi
    · obtain ⟨name, _, rfl⟩ := List.mem_map.1 hi
      rfl
    · exact (hplace i hi).1
  have hnone : (predicates.map Item.name ++ wordItems (placeholder predicates second)).findSome?
      Item.reading? = none := by
    rw [List.findSome?_eq_none_iff]
    intro i hi
    rcases List.mem_append.1 hi with hi | hi
    · obtain ⟨name, _, rfl⟩ := List.mem_map.1 hi
      rfl
    · exact (hplace i hi).2.1
  have hnames : namesOf (predicates.map Item.name ++ wordItems (placeholder predicates second)) =
      predicates := by
    have hnull : (wordItems (placeholder predicates second)).filterMap Item.name? = [] :=
      List.filterMap_eq_nil_iff.2 fun i hi ↦ (hplace i hi).2.2
    have hpredicates := namesOf_map predicates
    rw [namesOf] at hpredicates ⊢
    rw [List.filterMap_append, hpredicates, hnull, List.append_nil]
  obtain ⟨hfirst, hsecond⟩ := span_arguments hspace second
  simp only [call?, hfirst, hsecond, hnone, hnames, namesOf_secondItems]

/-- The call that is found by a name, with any limit if it has one. -/
def Verb.limitless : Verb → Verb
  | finish (.limit _) => finish (.limit 0)
  | verb => verb

theorem verb?_word (verb : Verb) : verb? verb.word.toList = some verb.limitless := by
  cases verb with
  | edge kind => cases kind <;> rfl
  | mark kind => cases kind <;> rfl
  | join kind => cases kind <;> rfl
  | follow direction => cases direction <;> rfl
  | finish terminal =>
      cases terminal with
      | limit _ => exact (rfl : verb? "GetLimit".toList = some (.finish (.limit 0)))
      | _ => rfl

/-- A call is made of its name and of the items in its brackets. -/
theorem reduce_of_call {verb : Verb} {before reading : Reading} {arguments : List Item}
    (hcall : call? before arguments verb.limitless = some reading) :
    reduce arguments (.word verb.word.toList :: .reading before :: items) =
      some (.reading reading :: items) := by
  simp [reduce, verb?_word, hcall]

theorem call?_finish (before : Reading) (terminal : Terminal) :
    call? before (wordItems terminal.operand) (Verb.finish terminal).limitless =
      some (.finish before terminal) := by
  cases terminal with
  | limit count =>
      rw [Verb.limitless, call?, wordOf_wordItems, Terminal.operand, Nat.ofDigitChars_ten_toDigits]
  | _ => rfl

theorem call?_follow (before : Reading) (direction : Direction) (name : String) :
    call? before (wordItems name.toList) (.follow direction) =
      some (.follow before direction name) := by
  rw [call?, wordOf_wordItems, String.ofList_toList]

theorem call?_mark (before : Reading) (kind : Mark) (names : List String) :
    call? before (names.map Item.name) (.mark kind) = some (.mark before kind names) := by
  rw [call?, namesOf_map]

end GraphQuery.Script

namespace GraphQuery.Traversal

open Script

theorem innerItems_reading (t : Traversal) : innerItems t.reading = [.reading t.reading] := by
  cases t with
  | start root => cases root <;> rfl
  | call before call => cases call <;> rfl
  | nest before call inner => cases call <;> rfl

/-- The tokens of an inner traversal, and the word that it may be instead, are read as one item. -/
theorem run_inner {t : Traversal} (h : ∀ items stack ts,
      run (t.reading.tokens ++ ts) (items :: stack) =
        run ts ((.reading t.reading :: items) :: stack))
    (stack : List (List Item)) (mark : Char) (ts : List Token) :
    run (t.innerReading.tokens ++ .sign t.innerReading.word mark :: ts) ([] :: stack) =
      run (.sign [] mark :: ts) (innerItems t.innerReading :: stack) := by
  unfold innerReading
  split
  · rfl
  · rw [h, word_reading, innerItems_reading]

/-- The tokens of a traversal are read as its reading. -/
theorem run_tokens (t : Traversal) (items : List Item) (stack : List (List Item))
    (ts : List Token) :
    run (t.reading.tokens ++ ts) (items :: stack) =
      run ts ((.reading t.reading :: items) :: stack) := by
  induction t generalizing items stack ts with
  | start root =>
      cases root with
      | vertices nodes =>
          rw [reading, Reading.tokens, List.cons_append, List.cons_append, List.append_assoc,
            run_cons, step_dot, Option.bind_some, run_cons, step_open, Option.bind_some,
            run_literals, List.singleton_append, run_bracket]
          simp [wordItems, reduce, namesOf_map]
      | fragment =>
          rw [reading, Reading.tokens, List.cons_append, List.cons_append, List.singleton_append,
            run_cons, step_dot, Option.bind_some, run_cons, step_open, Option.bind_some,
            run_bracket]
          simp [wordItems, reduce]
  | call before call ih =>
      cases call with
      | edge kind predicates second =>
          rw [reading, Reading.tokens, List.append_assoc, List.append_assoc, List.append_assoc, ih,
            run_opening, run_literals, run_closing, List.append_nil,
            List.reverse_reverse, reduce_of_call _ (call?_edge _ _ _ _)]
          rfl
      | mark kind choice =>
          rw [reading, Reading.tokens, List.append_assoc, List.append_assoc, List.append_assoc, ih,
            run_opening, run_literals, List.singleton_append,
            run_bracket, List.append_nil, List.reverse_reverse, wordItems_nil, List.append_nil,
            reduce_of_call _ (call?_mark _ _ _)]
          rfl
      | follow direction name =>
          rw [reading, Reading.tokens, List.append_assoc, List.append_assoc, ih,
            run_opening, List.singleton_append, run_bracket,
            List.reverse_nil, List.nil_append, reduce_of_call _ (call?_follow _ _ _)]
          rfl
      | finish terminal =>
          rw [reading, Reading.tokens, List.append_assoc, List.append_assoc, ih,
            run_opening, List.singleton_append,
            run_bracket, List.reverse_nil, List.nil_append, reduce_of_call _ (call?_finish _ _)]
          rfl
  | nest before call inner ih ihinner =>
      cases call with
      | edge kind second =>
          obtain ⟨mark, rest, hclosing⟩ := exists_closing_eq second.names
          rw [reading_nest_edge, Reading.tokens, List.append_assoc, List.append_assoc,
            List.append_assoc, ih, run_opening, hclosing,
            List.cons_append, run_inner ihinner, ← List.cons_append, ← hclosing, run_closing,
            reverse_innerItems, wordItems_nil, List.append_nil,
            reduce_of_call _ (call?_found _ _ _ _)]
          rfl
      | join kind =>
          rw [reading_nest_join, Reading.tokens, List.append_assoc, List.append_assoc,
            List.append_assoc, ih, run_opening, List.singleton_append, run_inner ihinner,
            run_bracket, reverse_innerItems, wordItems_nil, List.append_nil,
            reduce_of_call _ (call?_join _ _ _)]
          rfl

/-- The text of a traversal is parsed as its reading. -/
theorem parse_text (t : Traversal) (h : ∀ n ∈ t.reading.references, IsWord n.toList) :
    parse t.text = some t.reading := by
  have hrun := t.run_tokens [] [] []
  rw [List.append_nil] at hrun
  rw [parse, t.lex_text h, hrun]
  rfl

/-- Traversals that follow morphisms by words only have the same text exactly if they have the same
reading. -/
theorem text_eq_iff {t u : Traversal} (ht : ∀ n ∈ t.reading.references, IsWord n.toList)
    (hu : ∀ n ∈ u.reading.references, IsWord n.toList) :
    t.text = u.text ↔ t.reading = u.reading := by
  constructor
  · intro h
    have hparse := t.parse_text ht
    rw [h, u.parse_text hu] at hparse
    exact (Option.some.inj hparse).symm
  · intro h
    have hlist : t.text.toList = u.text.toList := by rw [toList_text, toList_text, h]
    exact String.toList_inj.1 hlist

end GraphQuery.Traversal
