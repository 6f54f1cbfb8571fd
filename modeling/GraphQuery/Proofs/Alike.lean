import GraphQuery.Proofs.Flags
import GraphQuery.Proofs.Script.Outline
import GraphQuery.Proofs.Script.Query

/-!
# Runs that differ in names only

Two commands have the same outline if they differ in raw names only, those that selectors hold.
Runs of such commands go alike: no command ever looks at what a raw name is, so at the end there are
the same paths up to raw names (`Run.outlines_eq`).

The texts of these paths then differ in the contents of literals only, and each literal stands at
the place of its own name (`Run.compile_alike`).  No names can give a query another structure.
-/

namespace GraphQuery

/-! ## Outlines of paths and of commands -/

/-- The outline of a path, which also leaves out what has no part in its text. -/
def Path.outline (p : Path) : Path where
  traversal := p.traversal.outline
  followed := []
  label := p.label.map fun l ↦ { l with saved := false }

/-- The outline of predicates. -/
def Predicates.outline : Predicates → Predicates
  | named choice => named choice.outline
  | found p => found p.outline

/-- The outline of a selector. -/
def Selector.outline : Selector → Selector
  | nodes choice => nodes choice.outline
  | tags choice => tags choice.outline
  | predicates p => predicates p.outline

/-- The outline of a value.  Nothing is left of what is in a series or finds predicates without
being a path, as no call takes such a value. -/
def Value.outline : Value → Value
  | selector s => selector s.outline
  | list _ => list []
  | tuple _ => tuple []
  | foundBy _ => foundBy none
  | v => v

/-- The outline of a builder call. -/
def Build.outline : Build → Build
  | edge kind predicates second => edge kind predicates.outline second.outline
  | mark kind names => mark kind names.outline
  | join kind other => join kind other.outline
  | follow direction morphism => follow direction morphism.outline
  | finish terminal => finish terminal
  | limit count => limit count.outline

/-- The outline of a command. -/
def Command.outline : Command → Command
  | startVertices nodes => startVertices nodes.outline
  | build i call => build i call.outline
  | c => c

/-- The outlines of all paths. -/
def Workspace.outlines (w : Workspace) : Array Path := w.paths.map Path.outline

namespace Path

variable {p q : Path}

theorem isFinalized_eq_of_outline (h : p.outline = q.outline) : p.isFinalized = q.isFinalized := by
  have ht : p.traversal.outline = q.traversal.outline := congrArg Path.traversal h
  rw [isFinalized, isFinalized, ← p.traversal.isFinalized_outline, ht,
    Traversal.isFinalized_outline]

theorem isBroken_eq_of_outline (h : p.outline = q.outline) :
    p.traversal.isBroken = q.traversal.isBroken := by
  have ht : p.traversal.outline = q.traversal.outline := congrArg Path.traversal h
  rw [← p.traversal.isBroken_outline, ht, Traversal.isBroken_outline]

/-- Paths of one outline are both no morphisms, or both are and have the same name. -/
theorem label_of_outline (h : p.outline = q.outline) :
    p.label.map Label.name = q.label.map Label.name := by
  have hname (r : Path) : r.outline.label.map Label.name = r.label.map Label.name := by
    rw [outline, Option.map_map]
    rfl
  rw [← hname p, h, hname q]

theorem outline_unflagged (p : Path) : p.unflagged.outline = p.outline := by
  unfold unflagged outline
  cases p.label <;> rfl

end Path

namespace Value

variable {v v' : Value}

@[simp] theorem choice?_outline (axis : Axis) (v : Value) :
    v.outline.choice? axis = (v.choice? axis).map Choice.outline := by
  cases v with
  | selector s =>
      cases s with
      | predicates p => cases p <;> cases axis <;> rfl
      | _ => cases axis <;> rfl
  | _ => rfl

@[simp] theorem predicates?_outline (v : Value) :
    v.outline.predicates? = v.predicates?.map Predicates.outline := by
  cases v with
  | selector s => cases s <;> rfl
  | _ => rfl

/-- What a value selects, a value of the same outline selects up to names. -/
theorem exists_choice?_of_outline {axis : Axis} {c : Choice} (h : v.outline = v'.outline)
    (hc : v.choice? axis = some c) : ∃ c', v'.choice? axis = some c' ∧ c'.outline = c.outline := by
  have hsame : (v'.choice? axis).map Choice.outline = (v.choice? axis).map Choice.outline := by
    rw [← choice?_outline, ← h, choice?_outline]
  rw [hc] at hsame
  exact Option.map_eq_some_iff.1 hsame

theorem exists_predicates?_of_outline {p : Predicates} (h : v.outline = v'.outline)
    (hp : v.predicates? = some p) : ∃ p', v'.predicates? = some p' ∧ p'.outline = p.outline := by
  have hsame : v'.predicates?.map Predicates.outline = v.predicates?.map Predicates.outline := by
    rw [← predicates?_outline, ← h, predicates?_outline]
  rw [hp] at hsame
  exact Option.map_eq_some_iff.1 hsame

theorem eq_path_of_outline {i : PathId} (h : (path i).outline = v.outline) : v = path i := by
  cases v <;> cases h
  rfl

theorem eq_plain_of_outline {p : Plain} (h : (plain p).outline = v.outline) : v = plain p := by
  cases v <;> cases h
  rfl

end Value

/-- Builder calls that differ in raw names only. -/
inductive Build.Alike : Build → Build → Prop
  | edge {kind : Edge} {predicates second predicates' second' : Value} :
      predicates.outline = predicates'.outline → second.outline = second'.outline →
      Alike (.edge kind predicates second) (.edge kind predicates' second')
  | mark {kind : Mark} {names names' : Value} : names.outline = names'.outline →
      Alike (.mark kind names) (.mark kind names')
  | join {kind : Join} {other other' : Value} : other.outline = other'.outline →
      Alike (.join kind other) (.join kind other')
  | follow {direction : Direction} {morphism morphism' : Value} :
      morphism.outline = morphism'.outline →
      Alike (.follow direction morphism) (.follow direction morphism')
  | finish {terminal : Terminal} : Alike (.finish terminal) (.finish terminal)
  | limit {count count' : Value} : count.outline = count'.outline →
      Alike (.limit count) (.limit count')

theorem Build.alike_of_outline {call call' : Build} (h : call.outline = call'.outline) :
    Alike call call' := by
  cases call with
  | edge kind predicates second =>
      cases call' with
      | edge _ _ _ =>
          obtain ⟨rfl, hpredicates, hsecond⟩ := Build.edge.inj h
          exact .edge hpredicates hsecond
      | _ => cases h
  | mark kind names =>
      cases call' with
      | mark _ _ =>
          obtain ⟨rfl, hnames⟩ := Build.mark.inj h
          exact .mark hnames
      | _ => cases h
  | join kind other =>
      cases call' with
      | join _ _ =>
          obtain ⟨rfl, hother⟩ := Build.join.inj h
          exact .join hother
      | _ => cases h
  | follow direction morphism =>
      cases call' with
      | follow _ _ =>
          obtain ⟨rfl, hmorphism⟩ := Build.follow.inj h
          exact .follow hmorphism
      | _ => cases h
  | finish terminal =>
      cases call' with
      | finish _ =>
          obtain rfl := Build.finish.inj h
          exact .finish
      | _ => cases h
  | limit count =>
      cases call' with
      | limit _ => exact .limit (Build.limit.inj h)
      | _ => cases h

/-! ## What alike commands do -/

namespace Workspace

variable {w w' : Workspace} {i : PathId} {p : Path}

/-- A path of one workspace is a path of the other one up to names. -/
theorem exists_getElem?_of_outlines (h : w.outlines = w'.outlines) (hp : w.paths[i]? = some p) :
    ∃ p', w'.paths[i]? = some p' ∧ p'.outline = p.outline := by
  have hsame : w'.outlines[i]? = w.outlines[i]? := by rw [h]
  rw [outlines, outlines, Array.getElem?_map, Array.getElem?_map, hp] at hsame
  exact Option.map_eq_some_iff.1 hsame

/-- To mark a morphism does not change any outline. -/
theorem outlines_markSaved (hp : w.paths[i]? = some p) :
    (w.paths.setIfInBounds i p.markSaved).map Path.outline = w.outlines :=
  Path.map_eq_of_unflagged Path.outline_unflagged (unflaggedPaths_markSaved hp)

end Workspace

/-- What a builder call adds to a path, a call of the same outline adds up to names to a path of the
same outline. -/
theorem Build.Adds.exists_of_outline {w w' : Workspace} {p p' : Path} {call call' : Build}
    {next : Traversal} {brought : List PathId} (h : call.Adds w p next brought)
    (hw : w.outlines = w'.outlines) (hp : p.outline = p'.outline)
    (hcall : call.outline = call'.outline) : ∃ next' brought',
      call'.Adds w' p' next' brought' ∧ next'.outline = next.outline := by
  have hbefore : p'.traversal.outline = p.traversal.outline := (congrArg Path.traversal hp).symm
  have hlabel := Path.label_of_outline hp
  have hopen : p.label = none → p'.label = none := by
    intro hl
    rw [hl, Option.map_none, eq_comm, Option.map_eq_none_iff] at hlabel
    exact hlabel
  have halike := alike_of_outline hcall
  cases h with
  | named hs hn =>
      cases halike with
      | edge hpredicates hsecond =>
          obtain ⟨s', hs', hsame⟩ := Value.exists_predicates?_of_outline hpredicates hs
          obtain ⟨names', hn', hnames⟩ := Value.exists_choice?_of_outline hsecond hn
          cases s' with
          | named choice' =>
              refine ⟨_, _, .named hs' hn', ?_⟩
              rw [Traversal.outline, Traversal.outline, Call.outline, Call.outline, hbefore, hnames,
                Predicates.named.inj hsame]
          | found _ => cases hsame
  | found hs hn =>
      cases halike with
      | edge hpredicates hsecond =>
          obtain ⟨s', hs', hsame⟩ := Value.exists_predicates?_of_outline hpredicates hs
          obtain ⟨names', hn', hnames⟩ := Value.exists_choice?_of_outline hsecond hn
          cases s' with
          | named _ => cases hsame
          | found inner' =>
              have hinner := congrArg Path.traversal (Predicates.found.inj hsame)
              refine ⟨_, _, .found hs' hn', ?_⟩
              rw [Traversal.outline, Traversal.outline, NestCall.outline, NestCall.outline, hbefore,
                hnames]
              exact congrArg _ hinner
  | mark hn =>
      cases halike with
      | mark hnames =>
          obtain ⟨choice', hchoice, hsame⟩ := Value.exists_choice?_of_outline hnames hn
          refine ⟨_, _, .mark hchoice, ?_⟩
          rw [Traversal.outline, Traversal.outline, Call.outline, Call.outline, hbefore, hsame]
  | join ho hb =>
      cases halike with
      | join hother =>
          obtain rfl := Value.eq_path_of_outline hother
          obtain ⟨other', ho', hsame⟩ := Workspace.exists_getElem?_of_outlines hw ho
          refine ⟨_, _, .join ho' ?_, ?_⟩
          · rw [Path.isBroken_eq_of_outline hsame, hb]
          · rw [Traversal.outline, Traversal.outline, hbefore]
            exact congrArg _ (congrArg Path.traversal hsame)
  | follow hq hl =>
      cases halike with
      | follow hmorphism =>
          obtain rfl := Value.eq_path_of_outline hmorphism
          obtain ⟨q', hq', hsame⟩ := Workspace.exists_getElem?_of_outlines hw hq
          have hname := Path.label_of_outline hsame
          rw [hl] at hname
          obtain ⟨l', hl', hname⟩ := Option.map_eq_some_iff.1 hname
          refine ⟨_, _, .follow hq' hl', ?_⟩
          rw [Traversal.outline, Traversal.outline, hbefore, hname]
  | finish hl =>
      cases halike with
      | finish =>
          refine ⟨_, _, .finish (hopen hl), ?_⟩
          rw [Traversal.outline, Traversal.outline, hbefore]
  | limit hl hn hlong =>
      cases halike with
      | limit hcount =>
          obtain rfl := Value.eq_plain_of_outline hcount
          refine ⟨_, _, .limit (hopen hl) hn hlong, ?_⟩
          rw [Traversal.outline, Traversal.outline, hbefore]

namespace Command

open GraphQuery.Action

variable {w w' : Workspace} {c c' : Command} {paths : Array Path}

theorem exists_of_outline_startVertices {nodes : Value}
    (h : (startVertices nodes).outline = c.outline) :
    ∃ nodes', c = startVertices nodes' ∧ nodes.outline = nodes'.outline := by
  cases c with
  | startVertices nodes' => exact ⟨nodes', rfl, startVertices.inj h⟩
  | _ => cases h

theorem exists_of_outline_build {i : PathId} {call : Build}
    (h : (build i call).outline = c.outline) :
    ∃ call', c = build i call' ∧ call.outline = call'.outline := by
  cases c with
  | build _ call' =>
      obtain ⟨rfl, hcall⟩ := build.inj h
      exact ⟨call', rfl, hcall⟩
  | _ => cases h

theorem eq_startMorphism_of_outline {name : Value} (h : (startMorphism name).outline = c.outline) :
    c = startMorphism name := by
  cases c <;> cases h
  rfl

theorem eq_copy_of_outline {i : PathId} (h : (copy i).outline = c.outline) : c = copy i := by
  cases c <;> cases h
  rfl

/-- What a command can make of the paths, a command of the same outline can make up to names of
paths of the same outlines. -/
theorem Effect.exists_of_outline (h : Effect w c paths) (hw : w.outlines = w'.outlines)
    (hc : c.outline = c'.outline) :
    ∃ paths', Effect w' c' paths' ∧ paths'.map Path.outline = paths.map Path.outline := by
  have hkept : Effect w' c' w'.paths ∧ w'.paths.map Path.outline = w.paths.map Path.outline :=
    ⟨.kept, hw.symm⟩
  cases h with
  | kept => exact ⟨_, hkept⟩
  | vertices hchoice =>
      obtain ⟨nodes', rfl, hnodes⟩ := exists_of_outline_startVertices hc
      obtain ⟨choice', hchoice', hsame⟩ := Value.exists_choice?_of_outline hnodes hchoice
      refine ⟨_, .vertices hchoice', ?_⟩
      have hroot : (Path.vertices choice').outline = (Path.vertices _).outline :=
        congrArg Path.vertices hsame
      rw [Array.map_push, Array.map_push, hkept.2, hroot]
  | morphism hn =>
      obtain rfl := eq_startMorphism_of_outline hc
      refine ⟨_, .morphism hn, ?_⟩
      rw [Array.map_push, Array.map_push, hkept.2]
  | copied hp =>
      obtain rfl := eq_copy_of_outline hc
      obtain ⟨p', hp', hsame⟩ := Workspace.exists_getElem?_of_outlines hw hp
      refine ⟨_, .copied hp', ?_⟩
      rw [Array.map_push, Array.map_push, hkept.2, hsame]
  | built hp hopen hadds =>
      obtain ⟨call', rfl, hcall⟩ := exists_of_outline_build hc
      obtain ⟨p', hp', hsame⟩ := Workspace.exists_getElem?_of_outlines hw hp
      obtain ⟨next', brought', hadds', hnext⟩ := hadds.exists_of_outline hw hsame.symm hcall
      refine ⟨_, .built hp' ?_ hadds', ?_⟩
      · rw [Path.isFinalized_eq_of_outline hsame, hopen]
      · rw [Array.map_setIfInBounds, Array.map_setIfInBounds, hkept.2]
        congr 1
        rw [Path.outline, Path.outline, hnext]
        exact congrArg (Path.mk _ []) (congrArg Path.label hsame)
  | marked hp _ => exact ⟨_, hkept.1, hkept.2.trans (Workspace.outlines_markSaved hp).symm⟩
  | saved hp _ _ => exact ⟨_, hkept.1, hkept.2.trans (Workspace.outlines_markSaved hp).symm⟩

/-- Commands of one outline leave the same outlines behind. -/
theorem outlines_run (hw : w.outlines = w'.outlines) (hc : c.outline = c'.outline) :
    (c.run w).2.outlines = (c'.run w').2.outlines :=
  map_paths_run_eq Path.outline_unflagged hw (fun _ h ↦ h.exists_of_outline hw hc)
    fun _ h ↦ h.exists_of_outline hw.symm hc.symm

end Command

/-! ## Texts that are written alike -/

open Script

/-- Two texts of traversals differ in the contents of literals only, and each literal stands at the
place of its own name. -/
structure Traversal.WrittenAlike (t t' : Traversal) (s s' : String) : Prop where
  /-- Without the contents of literals the texts are the same. -/
  erased : eraseLiterals s = eraseLiterals s'
  /-- What is read off each text has the names of its own traversal at their own places. -/
  laysOut : LaysOut s t.reading
  laysOut' : LaysOut s' t'.reading
  /-- The texts have the same calls around as many names. -/
  reading : t.reading.outline = t'.reading.outline
  /-- Token by token the texts are the same, but for what is in the literals. -/
  tokens : t.reading.tokens.map Token.outline = t'.reading.tokens.map Token.outline

theorem Traversal.writtenAlike_of_outline {t t' : Traversal} (h : t.outline = t'.outline)
    (ht : ∀ n ∈ t.reading.references, IsWord n.toList)
    (ht' : ∀ n ∈ t'.reading.references, IsWord n.toList) :
    t.WrittenAlike t' t.text t'.text := by
  have hreading : t.reading.outline = t'.reading.outline := by
    rw [← reading_outline, h, reading_outline]
  refine ⟨?_, laysOut_text ht, laysOut_text ht', hreading, ?_⟩
  · rw [eraseLiterals_text ht, h, eraseLiterals_text ht']
  · rw [← Reading.tokens_outline, hreading, Reading.tokens_outline]

/-! ## Runs of alike commands -/

namespace Run

variable {es es' : List Event} {w w' : Workspace} {i : PathId} {p : Path}

/-- After runs of commands of the same outlines there are paths of the same outlines. -/
theorem outlines_eq (h : Run es w) (h' : Run es' w')
    (hsame : es.map (fun e ↦ e.command.outline) = es'.map fun e ↦ e.command.outline) :
    w.outlines = w'.outlines := by
  induction h generalizing es' w' with
  | start =>
      cases h' with
      | start => rfl
      | step _ _ => simp at hsame
  | step _ _ ih =>
      cases h' with
      | start => simp at hsame
      | step hrun' _ =>
          rw [List.map_append, List.map_append] at hsame
          obtain ⟨hinit, hlast⟩ := List.append_inj' hsame rfl
          exact Command.outlines_run (ih hrun' hinit) (List.cons.inj hlast).1

/-- Raw names cannot change the structure of a query.  In two runs of commands that differ in raw
names only, each path of the one has its like in the other; either none of the two is a query, or
both are and their texts differ in the contents of literals only. -/
theorem compile_alike (h : Run es w) (h' : Run es' w')
    (hsame : es.map (fun e ↦ e.command.outline) = es'.map fun e ↦ e.command.outline)
    (hp : w.paths[i]? = some p) : ∃ p', w'.paths[i]? = some p' ∧
      ((∃ e e', p.compile = .error e ∧ p'.compile = .error e') ∨
        ∃ s s', p.compile = .ok s ∧ p'.compile = .ok s' ∧
          p.traversal.WrittenAlike p'.traversal s s') := by
  obtain ⟨p', hp', houtline⟩ := Workspace.exists_getElem?_of_outlines (h.outlines_eq h' hsame) hp
  have hbroken := Path.isBroken_eq_of_outline houtline
  refine ⟨p', hp', ?_⟩
  rw [Path.compile, Path.compile, Traversal.compile, Traversal.compile, hbroken]
  cases p.traversal.isBroken with
  | true => exact .inl ⟨_, _, rfl, rfl⟩
  | false =>
      refine .inr ⟨_, _, rfl, rfl, ?_⟩
      apply Traversal.writtenAlike_of_outline (congrArg Path.traversal houtline.symm)
      · exact h.isWord_of_mem_references (seen_of_getElem? hp)
      · exact h'.isWord_of_mem_references (seen_of_getElem? hp')

/-- A query with a raw name of a vertex and one of a predicate. -/
def twoNames (node predicate : String) : List Command := [
  .startVertices (.selector (.nodes (.one node))),
  .build 0 (.edge .out (.selector (.predicates (.named (.one predicate))))
    (.selector (.tags .any))),
  .build 0 (.finish .all)]

theorem snapshot?_twoNames (node predicate : String) :
    ∀ c ∈ twoNames node predicate, c.snapshot? = none := by
  simp [twoNames, Command.snapshot?, Build.snapshot?, Value.predicates?, Selector.predicates?]

/-- Names that look like calls and end in a backslash make no other query than plain ones. -/
theorem compile_alike_of_twoNames :
    let w := (Command.runAll (twoNames "\").All(); g.V(\"" "\\") .empty).2
    ∃ p s, w.paths[0]? = some p ∧ p.compile = .ok s ∧
      eraseLiterals s = "g.V(\"\").Out(\"\").All()" := by
  have hplain := Run.start.append_history _ (snapshot?_twoNames "a" "b")
  have hrun := Run.start.append_history _ (snapshot?_twoNames "\").All(); g.V(\"" "\\")
  obtain ⟨p, hp, ⟨_, _, herror, _⟩ | ⟨s, s', hs, hs', halike⟩⟩ :=
    compile_alike hplain hrun rfl (i := 0) rfl
  · cases herror
  · refine ⟨p, s', hp, hs', ?_⟩
    rw [← halike.erased, ← Except.ok.inj hs]
    decide +kernel

end Run

end GraphQuery
