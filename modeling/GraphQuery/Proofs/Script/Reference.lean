import GraphQuery.Proofs.Gate
import GraphQuery.Proofs.Script.Query

/-!
# References of texts

A text refers to a morphism by a call that follows it, at any depth and outside of all literals.
`references` reads the references off the text itself, and for the text of a traversal these are the
references of its reading (`Traversal.references_text`).

The main result is that no text with a dangling reference reaches a store.  If morphisms are saved
to one store only, and count as saved for no other reason, then whatever is sent to that store
refers only to names to which earlier statements sent there have given a body
(`Run.assigned_of_mem_references`).
-/

namespace GraphQuery

namespace Script

/-- Whether a word is the name of a call that follows a morphism. -/
def isFollowing (word : List Char) : Bool :=
  word = Direction.forward.word.toList || word = Direction.reverse.word.toList

/-- The references among tokens.  Whether the bracket of a call that follows a morphism was opened
just before them is given. -/
def referencesFrom : Bool → List Token → List (List Char)
  | _, [] => []
  | _, .literal _ :: ts => referencesFrom false ts
  | opened, .sign word mark :: ts =>
    (if opened && mark = ')' then [word] else []) ++
      referencesFrom (isFollowing word && mark = '(') ts

/-- The names of the morphisms that a text refers to. -/
def references (text : String) : List String :=
  (referencesFrom false (lex (.outside []) text.toList)).map String.ofList

variable (ts : List Token)

/-- Only a bracket is opened by a call. -/
theorem referencesFrom_sign {mark : Char} (hmark : mark ≠ '(') (word : List Char) :
    referencesFrom false (.sign word mark :: ts) = referencesFrom false ts := by
  simp [referencesFrom, hmark]

theorem referencesFrom_open (word : List Char) :
    referencesFrom false (.sign word '(' :: ts) = referencesFrom (isFollowing word) ts := by
  simp [referencesFrom]

theorem referencesFrom_bracket (word : List Char) :
    referencesFrom false (.sign word ')' :: ts) = referencesFrom false ts :=
  referencesFrom_sign ts (by decide) word

/-- What stands alone in the brackets of a call that follows a morphism is a reference. -/
theorem referencesFrom_following (word : List Char) :
    referencesFrom true (.sign word ')' :: ts) = word :: referencesFrom false ts := by
  simp [referencesFrom]

/-- Whether a call follows a morphism. -/
def Verb.isFollow : Verb → Bool
  | follow _ => true
  | _ => false

theorem isFollowing_word (verb : Verb) : isFollowing verb.word.toList = verb.isFollow := by
  cases verb with
  | edge kind => cases kind <;> rfl
  | mark kind => cases kind <;> rfl
  | join kind => cases kind <;> rfl
  | follow direction => cases direction <;> rfl
  | finish terminal =>
      cases terminal with
      | limit _ => exact (rfl : isFollowing "GetLimit".toList = false)
      | _ => rfl

theorem referencesFrom_opening (verb : Verb) :
    referencesFrom false (opening verb ++ ts) = referencesFrom verb.isFollow ts := by
  rw [opening, List.cons_append, List.singleton_append, referencesFrom_sign _ (by decide),
    referencesFrom_open, isFollowing_word]

/-- A literal is no reference, whatever it holds. -/
theorem referencesFrom_literals (names : List String) :
    referencesFrom false (literals names ++ ts) = referencesFrom false ts := by
  induction names with
  | nil => rfl
  | cons name names ih =>
      cases names with
      | nil => rfl
      | cons next names =>
          rw [literals_cons_cons, List.cons_append, List.cons_append, referencesFrom,
            referencesFrom_sign _ (by decide), ih]

theorem referencesFrom_closing (word : List Char) (second : List String) :
    referencesFrom false (closing word second ++ ts) = referencesFrom false ts := by
  unfold closing
  split
  · exact referencesFrom_bracket ts word
  · rw [List.cons_append, List.cons_append, List.append_assoc, referencesFrom_sign _ (by decide),
      referencesFrom_sign _ (by decide), referencesFrom_literals, List.singleton_append,
      referencesFrom_bracket]

end Script

namespace Reading

open Script

/-- The references among the tokens of a reading are the references of the reading. -/
theorem referencesFrom_tokens (r : Reading) (ts : List Token) :
    referencesFrom false (r.tokens ++ ts) =
      r.references.map String.toList ++ referencesFrom false ts := by
  induction r generalizing ts with
  | vertices names =>
      have hroot : isFollowing ['V'] = false := by decide
      rw [tokens, List.cons_append, List.cons_append, List.append_assoc,
        referencesFrom_sign _ (by decide), referencesFrom_open, hroot, referencesFrom_literals,
        List.singleton_append, referencesFrom_bracket]
      rfl
  | fragment => rfl
  | undefined => rfl
  | edge before kind predicates second ih =>
      simp only [tokens, List.append_assoc, ih, referencesFrom_opening, Verb.isFollow,
        referencesFrom_literals, referencesFrom_closing, references]
  | found before kind inner second ih ihinner =>
      simp only [tokens, List.append_assoc, ih, referencesFrom_opening, Verb.isFollow, ihinner,
        referencesFrom_closing, references, List.map_append]
  | mark before kind names ih =>
      simp only [tokens, List.append_assoc, ih, referencesFrom_opening, Verb.isFollow,
        referencesFrom_literals, List.singleton_append, referencesFrom_bracket, references]
  | join before kind inner ih ihinner =>
      simp only [tokens, List.append_assoc, ih, referencesFrom_opening, Verb.isFollow, ihinner,
        List.singleton_append, referencesFrom_bracket, references, List.map_append]
  | follow before direction name ih =>
      simp only [tokens, List.append_assoc, ih, referencesFrom_opening, Verb.isFollow,
        List.singleton_append, referencesFrom_following, references, List.map_append,
        List.map_singleton]
  | finish before terminal ih =>
      simp only [tokens, List.append_assoc, ih, referencesFrom_opening, Verb.isFollow,
        List.singleton_append, referencesFrom_bracket, references]

end Reading

namespace Traversal

open Script

/-- The references of the text of a traversal are those of its reading. -/
theorem references_text (t : Traversal) (h : ∀ n ∈ t.reading.references, IsWord n.toList) :
    references t.text = t.reading.references := by
  have htokens := t.reading.referencesFrom_tokens []
  rw [List.append_nil] at htokens
  rw [references, t.lex_text h, htokens]
  simp [referencesFrom]

/-- A root and a dot before a segment add nothing to what the segment refers to. -/
theorem references_fragment_append (s : String) : references ("g.M()." ++ s) = references s := by
  have hroot : "g.M().".toList = ['g', '.', 'M', '(', ')', '.'] := rfl
  rw [references, String.toList_append, hroot]
  rfl

/-- What a call refers to comes behind what the calls before it refer to. -/
theorem references_reading_call (t : Traversal) (c : Call) : (t.call c).reading.references =
    t.reading.references ++ ((start .fragment).call c).reading.references := by
  cases c <;> simp [reading, Reading.references]

theorem references_reading_nest (t : Traversal) (c : NestCall) (inner : Traversal) :
    (t.nest c inner).reading.references =
      t.reading.references ++ ((start .fragment).nest c inner).reading.references := by
  cases c <;> simp [reading, Reading.references]

/-- What a segment refers to, the traversal refers to. -/
theorem mem_references_of_mem_segments {t : Traversal} {s n : String}
    (h : ∀ n ∈ t.reading.references, IsWord n.toList) (hs : s ∈ t.segments)
    (hn : n ∈ references s) : n ∈ t.reading.references := by
  induction t with
  | start r =>
      obtain rfl := List.mem_singleton.1 hs
      rwa [← references_text (start r) h]
  | call before c ih =>
      rw [references_reading_call] at h ⊢
      rw [List.forall_mem_append] at h
      rw [List.mem_append]
      rcases List.mem_append.1 hs with hs | hs
      · exact .inl (ih h.1 hs)
      · obtain rfl := List.mem_singleton.1 hs
        rw [← references_fragment_append] at hn
        exact .inr (references_text ((start .fragment).call c) h.2 ▸ hn)
  | nest before c inner ih _ =>
      rw [references_reading_nest] at h ⊢
      rw [List.forall_mem_append] at h
      rw [List.mem_append]
      rcases List.mem_append.1 hs with hs | hs
      · exact .inl (ih h.1 hs)
      · obtain rfl := List.mem_singleton.1 hs
        rw [← references_fragment_append] at hn
        exact .inr (references_text ((start .fragment).nest c inner) h.2 ▸ hn)

/-- A statement refers to what its body refers to. -/
theorem references_statement (t : Traversal) (h : ∀ n ∈ t.reading.references, IsWord n.toList)
    {name : String} (hname : IsWord name.toList) :
    references (name ++ " = " ++ t.text) = t.reading.references := by
  have hequals : " = ".toList = [' ', '=', ' '] := rfl
  have hlex : lex (.outside []) (name ++ " = " ++ t.text).toList =
      .sign name.toList ' ' :: .sign ['='] ' ' :: lex (.outside []) t.text.toList := by
    rw [String.toList_append, String.toList_append, hequals, List.append_assoc, List.cons_append,
      lex_sign hname rfl]
    rfl
  rw [← t.references_text h, references, hlex]
  simp [referencesFrom, references]

end Traversal

/-! ## Texts that are sent -/

/-- An earlier save of a morphism, which ended well, has sent a statement to the store that gives
the name a body. -/
def Assigned (es : List Event) (g : StoreId) (name : String) : Prop :=
  ∃ e ∈ es, ∃ i body, e.command = .save g i ∧ e.outcome = .ok .none ∧
    e.command.Hands e.before g (name ++ " = " ++ body)

theorem Assigned.append_left {es : List Event} {g : StoreId} {name : String}
    (h : Assigned es g name) (es' : List Event) : Assigned (es ++ es') g name := by
  obtain ⟨e, he, hrest⟩ := h
  exact ⟨e, List.mem_append_left _ he, hrest⟩

/-- Morphisms are saved to one store only, and count as saved for no other reason. -/
structure SavesOnly (es : List Event) (g : StoreId) : Prop where
  store : ∀ e ∈ es, ∀ g' i, e.command = .save g' i → g' = g
  unmarked : ∀ e ∈ es, ∀ i, e.command ≠ .markSaved i

theorem SavesOnly.append_left {es es' : List Event} {g : StoreId} (h : SavesOnly (es ++ es') g) :
    SavesOnly es g :=
  ⟨fun e he ↦ h.store e (List.mem_append_left _ he),
    fun e he ↦ h.unmarked e (List.mem_append_left _ he)⟩

namespace Run

open Script (references)

variable {es : List Event} {w : Workspace} {g : StoreId} {p : Path} {l : Label}

/-- A save that ends well has sent a statement that gives the name of the morphism a body. -/
theorem exists_statement_of_saved (h : Run es w) {i : PathId} (hp : w.paths[i]? = some p)
    (hl : p.label = some l) (hok : ((Command.save g i).run w).1 = .ok .none) :
    ∃ body, (Command.save g i).Hands w g (l.name ++ " = " ++ body) := by
  obtain ⟨text, hadmits, hhands⟩ := h.exists_hands_of_ok (r := .save i) hok
  cases hadmits with
  | @statement _ q k _ body ha _ _ =>
      cases ha with
      | own hq hk =>
          obtain rfl := Option.some.inj (hp.symm.trans hq)
          obtain rfl := Option.some.inj (hl.symm.trans hk)
          exact ⟨body, hhands⟩

/-- The name of a morphism that counts as saved was given a body. -/
theorem assigned_of_saved (h : Run es w) (honly : SavesOnly es g) {i : PathId}
    (hp : w.paths[i]? = some p) (hl : p.label = some l) (hs : l.saved = true) :
    Assigned es g l.name := by
  induction h generalizing i p l with
  | start => simp [Workspace.empty] at hp
  | @step es w c hrun _ ih =>
      have hbefore := fun {i p l} (hp : w.paths[i]? = some p) (hl : p.label = some l) hs ↦
        (ih honly.append_left hp hl hs).append_left [⟨w, c⟩]
      have hlast : (⟨w, c⟩ : Event) ∈ es ++ [⟨w, c⟩] := List.mem_append_right _ List.mem_cons_self
      cases Command.origin_run hp with
      | old hq => exact hbefore hq hl hs
      | vertices _ => cases hl
      | morphism _ _ =>
          cases hl
          cases hs
      | copied _ _ hq => exact hbefore hq hl hs
      | built _ hq _ _ => exact hbefore hq hl hs
      | @marked q k hq hk hc =>
          rw [Path.markSaved, hk] at hl
          obtain rfl := Option.some.inj hl
          rcases hc with rfl | ⟨g', rfl, hok⟩
          · exact absurd rfl (honly.unmarked _ hlast i)
          · obtain rfl := honly.store _ hlast g' i rfl
            obtain ⟨body, hhands⟩ := hrun.exists_statement_of_saved hq hk hok
            exact ⟨_, hlast, i, body, rfl, hok, hhands⟩

/-- Nothing that is sent for an errand refers to a morphism that is not followed by its path. -/
theorem references_of_admits (h : Run es w) {r : Errand} {text : String} (hr : w.Admits r text) :
    ∃ p, w.paths[r.path]? = some p ∧ w.AllSaved p ∧
      references text = p.traversal.reading.references := by
  cases hr with
  | @query i p _ hp _ hc hs =>
      obtain ⟨_, rfl⟩ := Traversal.isBroken_of_compile_eq_ok hc
      exact ⟨p, hp, hs,
        p.traversal.references_text (h.isWord_of_mem_references (seen_of_getElem? hp))⟩
  | @statement _ p l n body ha hc hs =>
      obtain ⟨_, rfl⟩ := Traversal.isBroken_of_compile_eq_ok hc
      exact ⟨p, ha.getElem?, hs, p.traversal.references_statement
        (h.isWord_of_mem_references (seen_of_getElem? ha.getElem?))
        (Script.isWord_of_check (h.check_of_assigns ha))⟩

/-- Whatever is handed to a store refers only to names that were given a body there before. -/
theorem assigned_of_hands (h : Run es w) (honly : SavesOnly es g) {r : Errand} {text : String}
    (hsent : (r.command g).Hands w g text) : ∀ n ∈ references text, Assigned es g n := by
  obtain ⟨p, hp, hsaved, hreferences⟩ := h.references_of_admits (h.admits_of_hands hsent)
  intro n hn
  rw [hreferences] at hn
  obtain ⟨j, hj, hname⟩ := h.exists_followed_of_mem_references (seen_of_getElem? hp) hn
  obtain ⟨q, l, hq, hl, rfl⟩ := Workspace.exists_of_name? hname
  have hs := hsaved j hj
  rw [Workspace.isSaved, Workspace.label?_of_getElem? hq, hl] at hs
  exact h.assigned_of_saved honly hq hl hs

/-- No dangling reference reaches a store.  At every event of a run that hands a text over for an
errand, all names that the text refers to were given a body by events before it. -/
theorem assigned_of_mem_references {before after : List Event} {e : Event}
    (h : Run (before ++ e :: after) w) (honly : SavesOnly before g) {r : Errand}
    (he : e.command = r.command g) {text : String} (hsent : e.command.Hands e.before g text) :
    ∀ n ∈ references text, Assigned before g n := by
  rw [he] at hsent
  exact h.before_event.assigned_of_hands honly hsent

/-- A morphism is saved and then followed by a query. -/
def savedThenFollowed : List Command := [
  .connect .default (.recorder [] true),
  .startMorphism (.text "m"),
  .save 0 0,
  .startVertices (.selector (.nodes .any)),
  .build 1 (.follow .forward (.path 0)),
  .build 1 (.finish .all)]

theorem run_savedThenFollowed :
    Run (Command.history savedThenFollowed .empty) (Command.runAll savedThenFollowed .empty).2 :=
  Run.start.append_history savedThenFollowed
    (by simp [savedThenFollowed, Command.snapshot?, Build.snapshot?])

theorem hands_savedThenFollowed : (Command.find 0 1).Hands
    (Command.runAll savedThenFollowed .empty).2 0 "g.V().Follow(m).All()" := by
  have hpath : (Command.runAll savedThenFollowed .empty).2.paths[1]? = some
      ⟨.call (.call (.start (.vertices .any)) (.follow .forward "m")) (.finish .all), [0],
        none⟩ := by
    decide +kernel
  have hstore : (Command.runAll savedThenFollowed .empty).2.stores.size = 1 := by
    decide +kernel
  refine run_savedThenFollowed.hands_of_admits (r := .find 1)
    (Array.getElem?_eq_getElem (by rw [hstore]; decide)) (.query hpath rfl rfl ?_)
  intro j hj
  obtain rfl := List.mem_singleton.1 hj
  decide +kernel

theorem savesOnly_savedThenFollowed :
    SavesOnly (Command.history savedThenFollowed .empty) 0 := by
  constructor
  · intro e he g i hc
    simp only [savedThenFollowed, Command.history, List.mem_cons, List.not_mem_nil, or_false] at he
    rcases he with rfl | rfl | rfl | rfl | rfl | rfl <;> cases hc
    rfl
  · intro e he i hc
    simp only [savedThenFollowed, Command.history, List.mem_cons, List.not_mem_nil, or_false] at he
    rcases he with rfl | rfl | rfl | rfl | rfl | rfl <;> cases hc

/-- The name that the query refers to was given a body before. -/
theorem assigned_of_savedThenFollowed :
    Assigned (Command.history savedThenFollowed .empty) 0 "m" := by
  have hrun := run_savedThenFollowed.step (c := .find 0 1) fun p hp ↦ by cases hp
  refine hrun.assigned_of_mem_references savesOnly_savedThenFollowed (r := .find 1) rfl
    hands_savedThenFollowed "m" ?_
  decide +kernel

end Run

end GraphQuery
