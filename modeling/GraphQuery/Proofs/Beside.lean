import GraphQuery.Proofs.Flags
import GraphQuery.Proofs.Locality
import GraphQuery.Proofs.Saved

/-!
# Workspaces that differ in one store

Two workspaces are `Beside` each other, a store left out, if all other stores are the same and all
paths are the same but for flags.  What does not look at flags goes the same way in both of them
(`Action.Mirrors`).  An errand does look at flags, so it goes the same way if it gets past no
morphism that only one of the workspaces holds for saved
(`Run.admits_or_run_eq_error_of_beside`).
-/

namespace GraphQuery

open Work

/-- How many stores there are, and all of them but one. -/
def Workspace.storesBut (a : StoreId) (w : Workspace) : Nat × (StoreId → Option Store) :=
  (w.stores.size, fun g ↦ if g = a then none else w.stores[g]?)

/-- Two workspaces have the same stores but for one, and the same paths but for flags. -/
structure Workspace.Beside (a : StoreId) (w w' : Workspace) : Prop where
  paths : w.unflaggedPaths = w'.unflaggedPaths
  stores : w.storesBut a = w'.storesBut a

namespace Workspace

variable {a g : StoreId} {w w' : Workspace} {i : PathId}

/-! ## What paths tell without their flags -/

section

variable (h : w.unflaggedPaths = w'.unflaggedPaths)

include h

theorem size_paths_eq : w.paths.size = w'.paths.size := by
  have hsize := congrArg Array.size h
  rwa [unflaggedPaths, unflaggedPaths, Array.size_map, Array.size_map] at hsize

theorem getElem?_paths_eq_none (hi : w.paths[i]? = none) : w'.paths[i]? = none := by
  rw [Array.getElem?_eq_none_iff] at hi ⊢
  rwa [← size_paths_eq h]

theorem displayPath_eq (i : PathId) : w.displayPath i = w'.displayPath i := by
  rw [displayPath, displayPath]
  cases hp : w.paths[i]? with
  | none => rw [getElem?_paths_eq_none h hp]
  | some p =>
      obtain ⟨p', hp', hsame⟩ := exists_getElem?_of_unflaggedPaths h hp
      rw [hp', Option.map_some, Option.map_some, Path.display, Path.display,
        Path.traversal_eq_of_unflagged hsame]

theorem display_eq (v : Value) : w.display v = w'.display v :=
  Value.display_congr v fun i _ ↦ displayPath_eq h i

theorem inText_eq (v : Value) : w.inText v = w'.inText v := by
  cases v with
  | plain p => rfl
  | _ => exact display_eq h _

theorem pathTitle_eq : w.pathTitle = w'.pathTitle := by
  funext i
  rw [pathTitle, pathTitle]
  cases hp : w.paths[i]? with
  | none => rw [getElem?_paths_eq_none h hp]
  | some p =>
      obtain ⟨p', hp', hsame⟩ := exists_getElem?_of_unflaggedPaths h hp
      rw [hp', Option.map_some, Option.map_some, Path.traversal_eq_of_unflagged hsame]

theorem lacking_eq (v : Value) (operation : String) :
    w.lacking v operation = w'.lacking v operation := by
  rw [lacking, lacking, pathTitle_eq h]

/-- A label of one workspace is a label of the other one but for its flag. -/
theorem exists_label?_of_unflaggedPaths {l : Label} (hl : w.label? i = some l) :
    ∃ k, w'.label? i = some k ∧ k.name = l.name := by
  obtain ⟨p, hp, hl⟩ := exists_of_label? hl
  obtain ⟨p', hp', hsame⟩ := exists_getElem?_of_unflaggedPaths h hp
  obtain ⟨k, hk, hname⟩ := Path.exists_label_of_unflagged hsame.symm hl
  exact ⟨k, (label?_of_getElem? hp').trans hk, hname⟩

/-- What is no morphism is the same in both workspaces. -/
theorem getElem?_paths_eq_of_label? (hl : w.label? i = none) : w.paths[i]? = w'.paths[i]? := by
  match hp : w.paths[i]? with
  | none => rw [getElem?_paths_eq_none h hp]
  | some p =>
      obtain ⟨p', hp', hsame⟩ := exists_getElem?_of_unflaggedPaths h hp
      have hp₀ : p.label = none := (label?_of_getElem? hp).symm.trans hl
      have hp₁ : p'.label = none := Path.label_eq_none_of_unflagged hsame.symm hp₀
      rw [Path.unflagged_of_label hp₀, Path.unflagged_of_label hp₁] at hsame
      rw [hp', hsame]

end

/-! ## All stores but one -/

theorem Beside.size_stores (h : w.Beside a w') : w.stores.size = w'.stores.size :=
  congrArg Prod.fst h.stores

theorem Beside.getElem?_stores (h : w.Beside a w') (hg : g ≠ a) :
    w.stores[g]? = w'.stores[g]? := by
  have hat := congrFun (congrArg Prod.snd h.stores) g
  simpa only [storesBut, if_neg hg] using hat

theorem storesBut_eq_of_forall (hsize : w.stores.size = w'.stores.size)
    (h : ∀ g, g ≠ a → w.stores[g]? = w'.stores[g]?) : w.storesBut a = w'.storesBut a := by
  refine Prod.ext hsize (funext fun g ↦ ?_)
  by_cases hg : g = a
  · simp only [storesBut, if_pos hg]
  · simp only [storesBut, if_neg hg]
    exact h g hg

end Workspace

namespace Action

open Workspace (Beside)

variable {α β : Type} {a g : StoreId}

/-! ## What goes the same way on workspaces beside each other -/

/-- An action comes to the same on workspaces beside each other, which stay beside each other. -/
def Mirrors (a : StoreId) (x : Action α) : Prop := ∀ w w' : Workspace, w.Beside a w' →
  (x.on w).1 = (x.on w').1 ∧ (x.on w).2.Beside a (x.on w').2

namespace Mirrors

theorem pure (b : α) : Mirrors a (Pure.pure b : Action α) := fun _ _ h ↦ ⟨rfl, h⟩

theorem throw (e : Error) : Mirrors a (MonadExcept.throw e : Action α) :=
  fun _ _ h ↦ ⟨rfl, h⟩

theorem bind {x : Action α} {f : α → Action β} (hx : Mirrors a x) (hf : ∀ b, Mirrors a (f b)) :
    Mirrors a (x >>= f) := by
  intro w w' h
  obtain ⟨houtcome, hafter⟩ := hx w w' h
  rw [on_bind, on_bind]
  match hw : x.on w, hw' : x.on w' with
  | (.ok b, v), (.ok b', v') =>
      rw [hw, hw'] at houtcome hafter
      obtain rfl := Except.ok.inj houtcome
      exact hf b v v' hafter
  | (.error e, v), (.error e', v') =>
      rw [hw, hw'] at houtcome hafter
      obtain rfl := Except.error.inj houtcome
      exact ⟨rfl, hafter⟩
  | (.ok b, v), (.error e, v') => simp [hw, hw'] at houtcome
  | (.error e, v), (.ok b, v') => simp [hw, hw'] at houtcome

theorem ofResult (r : Except Error α) : Mirrors a (Work.ofResult r) := by
  cases r
  · exact throw _
  · exact pure _

theorem note (entry : LogEntry) : Mirrors a (Action.note entry) :=
  fun _ _ h ↦ ⟨rfl, h.1, h.2⟩

theorem forM_note (entries : List LogEntry) : Mirrors a (entries.forM Action.note) := by
  induction entries with
  | nil => exact pure _
  | cons entry entries ih => exact (note entry).bind fun _ ↦ ih

theorem getStore (hg : g ≠ a) : Mirrors a (Action.getStore g) := by
  intro w w' h
  have hsame := h.getElem?_stores hg
  cases hs : w.stores[g]? with
  | none =>
      rw [on_getStore_of_none hs, on_getStore_of_none (hsame ▸ hs)]
      exact ⟨rfl, h⟩
  | some s =>
      rw [on_getStore_of_some hs, on_getStore_of_some (hsame ▸ hs)]
      exact ⟨rfl, h⟩

theorem setStore (g : StoreId) (s : Store) : Mirrors a (Action.setStore g s) := by
  intro w w' h
  refine ⟨rfl, h.paths, Workspace.storesBut_eq_of_forall ?_ fun k hk ↦ ?_⟩
  · simp only [on_setStore, Array.size_setIfInBounds, h.size_stores]
  · simp only [on_setStore, Array.getElem?_setIfInBounds, h.getElem?_stores hk, h.size_stores]

theorem newStore (s : Store) : Mirrors a (Action.newStore s) := by
  intro w w' h
  refine ⟨congrArg Except.ok h.size_stores, h.paths, ?_⟩
  change Workspace.storesBut a { w with stores := w.stores.push s } =
    Workspace.storesBut a { w' with stores := w'.stores.push s }
  refine Workspace.storesBut_eq_of_forall ?_ fun k hk ↦ ?_
  · simp only [Array.size_push, h.size_stores]
  · simp only [Array.getElem?_push, h.getElem?_stores hk, h.size_stores]

theorem inText (v : Value) : Mirrors a (Action.inText v) := by
  have hshown : Mirrors a (do return (← get).inText v : Action String) :=
    fun _ _ h ↦ ⟨congrArg Except.ok (Workspace.inText_eq h.paths v), h⟩
  unfold Action.inText
  cases v.inTextFault? with
  | none => exact (pure ()).bind fun _ ↦ hshown
  | some f => exact (throw (.fault f)).bind fun _ ↦ hshown

theorem get_lacking {f : Error → Action α} (hf : ∀ e, Mirrors a (f e)) (v : Value)
    (operation : String) : Mirrors a (get >>= fun w ↦ f (w.lacking v operation)) := by
  intro w w' h
  rw [on_bind_of_ok (on_get w), on_bind_of_ok (on_get w'), Workspace.lacking_eq h.paths]
  exact hf _ w w' h

theorem closingAfter {work : Action α} {close : Action Unit} (hwork : Mirrors a work)
    (hclose : Mirrors a close) : Mirrors a (Action.closingAfter work close) := by
  have hlift : Mirrors a (ExceptT.lift work.run : Action (Except Error α)) := fun w w' h ↦
    ⟨congrArg Except.ok (hwork w w' h).1, (hwork w w' h).2⟩
  exact hlift.bind fun outcome ↦ hclose.bind fun _ ↦ ofResult outcome

end Mirrors

theorem mirrors_execute (hg : g ≠ a) (query : Value) : Mirrors a (execute g query) := by
  unfold execute
  refine (Mirrors.getStore hg).bind fun store ↦ (Mirrors.inText query).bind fun shown ↦ ?_
  refine (Mirrors.note _).bind fun _ ↦ Mirrors.get_lacking (f := fun e ↦ do
    let x := store.transport.send query e
    setStore g { store with transport := x.after, given := store.given ++ [query] }
    x.log.forM note
    ofResult (ResultSet.decode (← ofResult x.outcome))) (fun e ↦ ?_) query "encode"
  refine (Mirrors.setStore g _).bind fun _ ↦ (Mirrors.forM_note _).bind fun _ ↦ ?_
  exact (Mirrors.ofResult _).bind fun _ ↦ Mirrors.ofResult _

theorem mirrors_closeStore (hg : g ≠ a) : Mirrors a (closeStore g) :=
  (Mirrors.getStore hg).bind fun _ ↦ Mirrors.setStore g _

theorem mirrors_connect (endpoint : Endpoint) (route : Route) :
    Mirrors a (connect endpoint route) :=
  (Mirrors.ofResult _).bind fun s ↦ Mirrors.newStore s

theorem mirrors_block (fault : Option Fault) : Mirrors a (Command.block fault) := by
  cases fault
  · exact Mirrors.pure _
  · exact Mirrors.throw _

end Action

namespace Action

open Workspace (storesBut)

variable {a : StoreId}

/-! ## What leaves all stores but one alone -/

theorem keepsStoresBut_setStore (a : StoreId) (s : Store) :
    Keeps (storesBut a) (setStore a s) := by
  intro w
  refine Workspace.storesBut_eq_of_forall ?_ fun g hg ↦ ?_
  · exact Array.size_setIfInBounds
  · exact Array.getElem?_setIfInBounds_ne hg.symm

theorem keepsStoresBut_note (entry : LogEntry) : Keeps (storesBut a) (note entry) := fun _ ↦ rfl

end Action

namespace Command

open GraphQuery.Action
open Workspace (Beside storesBut)

variable {a g : StoreId} {c : Command} {w w' : Workspace}

/-- The store that a command is to. -/
def store? : Command → Option StoreId
  | find g _ | execute g _ | save g _ | saveAs g _ _ | closeStore g | withStore g _ => some g
  | _ => none

/-- A command asks something of a store with a path. -/
def isErrand : Command → Bool
  | find _ _ | save _ _ | saveAs _ _ _ => true
  | _ => false

/-- What is no errand and is to another store comes to the same. -/
theorem mirrors_perform (hc : c.isErrand = false) (hstore : c.store? = some g) (hg : g ≠ a) :
    Mirrors a c.perform := by
  cases c with
  | execute g query =>
      obtain rfl := Option.some.inj hstore
      exact (mirrors_execute hg query).bind fun _ ↦ Mirrors.pure _
  | closeStore g =>
      obtain rfl := Option.some.inj hstore
      exact (mirrors_closeStore hg).bind fun _ ↦ Mirrors.pure _
  | withStore g fault =>
      obtain rfl := Option.some.inj hstore
      exact (mirrors_block fault).closingAfter (mirrors_closeStore hg)
  | find _ _ | save _ _ | saveAs _ _ _ => cases hc
  | _ => cases hstore

/-- What is no errand and is to the store that is left out, or to a link, leaves all other stores
alone. -/
theorem keepsStoresBut_perform (hc : c.isErrand = false) (hstore : ∀ g, c.store? = some g → g = a)
    (hconnect : ∀ endpoint route, c ≠ .connect endpoint route) :
    Keeps (storesBut a) c.perform := by
  have hbuilder (hc : c.isBuilder = true) : Keeps (storesBut a) c.perform := by
    intro w
    have hstores : (c.perform.on w).2.stores = w.stores :=
      congrArg Prod.fst (dealings_run_of_isBuilder w hc)
    simp only [storesBut, hstores]
  cases c with
  | execute g query =>
      obtain rfl := hstore g rfl
      exact (Keeps.execute keepsStoresBut_note (keepsStoresBut_setStore g) query).bind fun _ ↦
        Keeps.pure _
  | closeStore g =>
      obtain rfl := hstore g rfl
      exact (Keeps.closeStore (keepsStoresBut_setStore g)).bind fun _ ↦ Keeps.pure _
  | withStore g fault =>
      obtain rfl := hstore g rfl
      exact (Keeps.block fault).closingAfter (Keeps.closeStore (keepsStoresBut_setStore g))
  | connectLink read address behaviour owned =>
      exact (Keeps.ofResult _).bind fun _ ↦ Keeps.bind (fun _ ↦ rfl) fun _ ↦ Keeps.pure _
  | send k query =>
      exact (Keeps.sendOver keepsStoresBut_note (fun _ _ ↦ rfl) query).bind fun _ ↦ Keeps.pure _
  | closeLink k => exact (Keeps.closeLink fun _ _ ↦ rfl).bind fun _ ↦ Keeps.pure _
  | withLink k fault => exact (Keeps.block fault).closingAfter (Keeps.closeLink fun _ _ ↦ rfl)
  | connect endpoint route => exact absurd rfl (hconnect endpoint route)
  | find _ _ | save _ _ | saveAs _ _ _ => cases hc
  | _ => exact hbuilder rfl

/-- All other stores stay the same if something is done on both workspaces that is no errand. -/
theorem storesBut_run_of_isErrand (hc : c.isErrand = false) (hw : w.Beside a w') :
    (c.run w).2.storesBut a = (c.run w').2.storesBut a := by
  by_cases hconnect : ∃ endpoint route, c = .connect endpoint route
  · obtain ⟨endpoint, route, rfl⟩ := hconnect
    have hmirrors : Mirrors a (Command.connect endpoint route).perform :=
      (mirrors_connect endpoint route).bind fun _ ↦ Mirrors.pure _
    exact (hmirrors w w' hw).2.stores
  · by_cases hother : ∃ g, c.store? = some g ∧ g ≠ a
    · obtain ⟨g, hstore, hg⟩ := hother
      exact (mirrors_perform hc hstore hg w w' hw).2.stores
    · have hstore : ∀ g, c.store? = some g → g = a := fun g hstore ↦
        Decidable.byContradiction fun hg ↦ hother ⟨g, hstore, hg⟩
      have hkeeps := keepsStoresBut_perform hc hstore fun e r h ↦ hconnect ⟨e, r, h⟩
      exact (hkeeps w).trans (hw.stores.trans (hkeeps w').symm)

end Command

/-! ## Errands on workspaces beside each other -/

namespace Errand

variable {w w' : Workspace} {r : Errand} {p p' : Path} {l : Label} {n text m : String} {j : PathId}

/-- All is right with an errand but perhaps for what its path follows, and a text is written. -/
inductive Writes (w : Workspace) : Errand → Path → String → Prop
  | query {i : PathId} {p : Path} {text : String} : w.paths[i]? = some p →
      p.isFinalized = true → p.compile = .ok text → Writes w (find i) p text
  | statement {r : Errand} {p : Path} {l : Label} {n body : String} : r.Assigns w p l n →
      p.compile = .ok body → Writes w r p (n ++ " = " ++ body)

/-- An errand gets past a morphism: its path follows the morphism, which counts as saved, and so do
those that are asked before it. -/
def Passes (w : Workspace) (r : Errand) (j : PathId) : Prop :=
  ∃ p text before after, r.Writes w p text ∧ p.followed = before ++ j :: after ∧
    (∀ k ∈ before, w.isSaved k = true) ∧ w.isSaved j = true

theorem Writes.getElem? (h : r.Writes w p text) : w.paths[r.path]? = some p := by
  cases h with
  | query hp _ _ => exact hp
  | statement ha _ => exact ha.getElem?

theorem Writes.admits (h : r.Writes w p text) (hp : w.AllSaved p) : w.Admits r text := by
  cases h with
  | query hi hf hc => exact .query hi hf hc hp
  | statement ha hc => exact .statement ha hc hp

theorem Writes.refuses (h : r.Writes w p text) (hm : w.FirstUnsaved p m) :
    w.Refuses r (.unsaved (.text m)) := by
  cases h with
  | query hi hf hc => exact .unsavedInQuery hi hf hc hm
  | statement ha hc => exact .unsavedInBody ha hc hm

/-- An errand that is admitted gets past all that its path follows. -/
theorem Writes.passes (h : r.Writes w p text) (hp : w.AllSaved p) (hj : j ∈ p.followed) :
    r.Passes w j := by
  obtain ⟨before, after, hsplit⟩ := List.append_of_mem hj
  refine ⟨p, text, before, after, h, hsplit, fun k hk ↦ hp k ?_, hp j hj⟩
  rw [hsplit]
  exact List.mem_append_left _ hk

theorem exists_writes_of_admits (h : w.Admits r text) : ∃ p, r.Writes w p text ∧ w.AllSaved p := by
  cases h with
  | query hi hf hc hp => exact ⟨_, .query hi hf hc, hp⟩
  | statement ha hc hp => exact ⟨_, .statement ha hc, hp⟩

/-- What comes of an errand once the answer was read. -/
def result : Errand → ResultSet → Value
  | find _, rs => .results rs
  | save _, _ | saveAs _ _, _ => .none

theorem label?_of_not_addresses (hr : ¬r.Addresses w) : w.label? r.path = none := by
  apply Option.eq_none_iff_forall_ne_some.2
  intro l hl
  obtain ⟨p, hp, -⟩ := Workspace.exists_of_label? hl
  cases r with
  | find i => exact hr ⟨p, hp⟩
  | _ => exact hr ⟨l, hl⟩

theorem keeps_lookup (r : Errand) : Keeps id r.lookup := by
  cases r with
  | find i => exact (Keeps.getPath i).bind fun _ ↦ Keeps.pure _
  | _ => exact (Action.Keeps.expectLabel _ _).bind fun _ ↦ Keeps.pure _

/-- An errand looks its own path up and no other one. -/
theorem matches_lookup (r : Errand) :
    Matches (fun u v : Workspace ↦ u.paths[r.path]? = v.paths[r.path]?) Eq r.lookup r.lookup := by
  have hget : Matches (fun u v : Workspace ↦ u.paths[r.path]? = v.paths[r.path]?) Eq
      (Action.getPath r.path) (Action.getPath r.path) := by
    intro u v h
    rw [Action.on_getPath, Action.on_getPath, h]
    exact ⟨.of_eq fun _ ↦ rfl, h⟩
  cases r with
  | find i => exact hget.bind_eq fun _ ↦ .pure rfl
  | _ => exact (hget.bind_eq fun _ ↦ .ofOption _ _).bind_eq fun _ ↦ .pure rfl

section

variable (h : w.unflaggedPaths = w'.unflaggedPaths)

include h

theorem Assigns.exists_of_unflaggedPaths (ha : r.Assigns w p l n) :
    ∃ p' k, r.Assigns w' p' k n ∧ k.name = l.name ∧ p'.unflagged = p.unflagged := by
  obtain ⟨p', hp', hsame⟩ := Workspace.exists_getElem?_of_unflaggedPaths h ha.getElem?
  cases ha with
  | own _ hl =>
      obtain ⟨k, hk, hname⟩ := Path.exists_label_of_unflagged hsame.symm hl
      exact ⟨p', k, hname ▸ .own hp' hk, hname, hsame⟩
  | other _ hl hn =>
      obtain ⟨k, hk, hname⟩ := Path.exists_label_of_unflagged hsame.symm hl
      exact ⟨p', k, .other hp' hk hn, hname, hsame⟩

theorem Writes.exists_of_unflaggedPaths (hw : r.Writes w p text) :
    ∃ p', r.Writes w' p' text ∧ p'.unflagged = p.unflagged := by
  cases hw with
  | query hp hf hc =>
      obtain ⟨p', hp', hsame⟩ := Workspace.exists_getElem?_of_unflaggedPaths h hp
      have hbody := Path.traversal_eq_of_unflagged hsame
      refine ⟨p', .query hp' ?_ ?_, hsame⟩
      · rw [Path.isFinalized, hbody]
        exact hf
      · rw [Path.compile, hbody]
        exact hc
  | statement ha hc =>
      obtain ⟨p', k, ha', -, hsame⟩ := ha.exists_of_unflaggedPaths h
      refine ⟨p', .statement ha' ?_, hsame⟩
      rw [Path.compile, Path.traversal_eq_of_unflagged hsame]
      exact hc

theorem misnames_of_unflaggedPaths {v : Value} {e : Error} (hv : w.Misnames v e) :
    w'.Misnames v e := by
  cases hv with
  | notIdentifier hn => exact .notIdentifier hn
  | reserved hn hreserved => exact .reserved hn hreserved
  | noText hv hf => exact Workspace.display_eq h v ▸ .noText hv hf
  | unshowable hv hf => exact .unshowable hv hf

end

/-! What counts as saved on the second workspace does so on the first one, and an errand that gets
past a morphism on the first one also does on the second one. -/

section

variable (hpass : ∀ j, r.Passes w j → w'.isSaved j = true)

include hpass

theorem allSaved_of_passes (hw : r.Writes w p text) (hsame : p'.unflagged = p.unflagged)
    (hall : w.AllSaved p) : w'.AllSaved p' := by
  intro j hj
  rw [Path.followed_eq_of_unflagged hsame] at hj
  exact hpass j (hw.passes hall hj)

theorem firstUnsaved_of_passes (h : w.unflaggedPaths = w'.unflaggedPaths)
    (hsub : ∀ j, w'.isSaved j = true → w.isSaved j = true) (hw : r.Writes w p text)
    (hsame : p'.unflagged = p.unflagged) (hm : w.FirstUnsaved p m) : w'.FirstUnsaved p' m := by
  obtain ⟨before, j, after, hsplit, hbefore, hj⟩ := hm
  refine ⟨before, j, after, (Path.followed_eq_of_unflagged hsame).trans hsplit, ?_, ?_⟩
  · intro k hk
    obtain ⟨first, second, rfl⟩ := List.append_of_mem hk
    refine hpass k ⟨p, text, first, second ++ j :: after, hw, ?_, fun i hi ↦ ?_, hbefore k hk⟩
    · rw [hsplit, List.append_assoc, List.cons_append]
    · exact hbefore i (List.mem_append_left _ hi)
  · obtain ⟨⟨_, saved⟩, hk, rfl⟩ := Workspace.exists_label?_of_unflaggedPaths h hj
    cases saved with
    | false => exact hk
    | true =>
        have hsaved := hsub j (by rw [Workspace.isSaved, hk]; rfl)
        rw [Workspace.isSaved, hj] at hsaved
        cases hsaved

/-- An errand is refused for the same reason on both workspaces. -/
theorem refuses_of_passes (h : w.unflaggedPaths = w'.unflaggedPaths)
    (hsub : ∀ j, w'.isSaved j = true → w.isSaved j = true) {e : Error} (hr : w.Refuses r e) :
    w'.Refuses r e := by
  have hunsaved {p : Path} {text m : String} (hw : r.Writes w p text)
      (hm : w.FirstUnsaved p m) : w'.Refuses r (.unsaved (.text m)) := by
    obtain ⟨p', hw', hsame⟩ := hw.exists_of_unflaggedPaths h
    exact hw'.refuses (firstUnsaved_of_passes hpass h hsub hw hsame hm)
  cases hr with
  | unfinished hp hf =>
      obtain ⟨p', hp', hsame⟩ := Workspace.exists_getElem?_of_unflaggedPaths h hp
      have hbody := Path.traversal_eq_of_unflagged hsame
      rw [Path.display, ← hbody]
      refine .unfinished hp' ?_
      rw [Path.isFinalized, hbody]
      exact hf
  | broken hp hf hc =>
      obtain ⟨p', hp', hsame⟩ := Workspace.exists_getElem?_of_unflaggedPaths h hp
      have hbody := Path.traversal_eq_of_unflagged hsame
      refine .broken hp' ?_ ?_
      · rw [Path.isFinalized, hbody]
        exact hf
      · rw [Path.compile, hbody]
        exact hc
  | unsavedInQuery hp hf hc hm => exact hunsaved (.query hp hf hc) hm
  | name hl hv =>
      obtain ⟨k, hk, -⟩ := Workspace.exists_label?_of_unflaggedPaths h hl
      exact .name hk (misnames_of_unflaggedPaths h hv)
  | unsavable ha hc =>
      obtain ⟨p', k, ha', hname, hsame⟩ := ha.exists_of_unflaggedPaths h
      rw [← hname]
      refine .unsavable ha' ?_
      rw [Path.compile, Path.traversal_eq_of_unflagged hsame]
      exact hc
  | unsavedInBody ha hc hm => exact hunsaved (.statement ha hc) hm

end

end Errand

namespace Run

open GraphQuery.Action
open Workspace (Beside)

variable {es es' : List Event} {w w' : Workspace} {a g : StoreId} {s : Store} {r : Errand}
  {text : String}

/-- What comes of an errand that nothing is wrong with is what the store makes of the text. -/
theorem outcome_of_admits (h : Run es w) (hg : w.stores[g]? = some s) (hr : w.Admits r text) :
    ((r.command g).run w).1 = (s.reply text).map r.result := by
  obtain ⟨p, l, hu, hrun⟩ := h.run_of_admits g hr
  have hconsult : (consult g p (.ok text)).on w = _ := on_consult_of_ok hg hu
  rw [hrun, on_bind, hconsult]
  match s.reply text with
  | .error e => rfl
  | .ok rs =>
      cases hr with
      | query _ _ _ _ => rfl
      | @statement _ _ k _ body ha _ _ =>
          cases ha with
          | own hp _ =>
              have hmark := on_markSaved (w := w.sending g s (k.name ++ " = " ++ body)) hp
              exact congrArg Prod.fst (on_bind_of_ok hmark _)
          | other _ _ _ => rfl

/-- Nothing comes of an errand to a store that is not there. -/
theorem run_of_admits_of_none (h : Run es w) (hg : w.stores[g]? = none) (hr : w.Admits r text) :
    (r.command g).run w = (.error .noObject, w) := by
  obtain ⟨p, l, hu, hrun⟩ := h.run_of_admits g hr
  rw [hrun, on_bind_of_error (on_consult_of_none hg hu)]

/-- An errand changes no store but the one that it is to. -/
theorem storesBut_run_errand (h : Run es w) (r : Errand) (a : StoreId) :
    ((r.command a).run w).2.storesBut a = w.storesBut a := by
  rcases h.admits_or_run_eq_error a r with ⟨text, hr⟩ | ⟨e, he⟩
  · cases hg : w.stores[a]? with
    | none => rw [h.run_of_admits_of_none hg hr]
    | some s =>
        obtain ⟨s, -, hstores, -⟩ := h.hands_of_admits hg hr
        refine Workspace.storesBut_eq_of_forall ?_ fun g hg ↦ ?_
        · rw [hstores, Array.size_setIfInBounds]
        · rw [hstores, Array.getElem?_setIfInBounds_ne hg.symm]
  · rw [he]

/-- What an errand looks for in vain it does not find for other flags. -/
theorem run_of_not_addresses_of_unflaggedPaths (h : w.unflaggedPaths = w'.unflaggedPaths)
    (g : StoreId) (hr : ¬r.Addresses w) :
    ∃ e, (r.command g).run w = (.error e, w) ∧ (r.command g).run w' = (.error e, w') := by
  obtain ⟨e, he⟩ := Errand.exists_lookup_eq_error hr
  have hpath := Workspace.getElem?_paths_eq_of_label? h (Errand.label?_of_not_addresses hr)
  have houtcome := (r.matches_lookup w w' hpath).1.eq
  rw [he] at houtcome
  have he' : r.lookup.on w' = (.error e, w') := Prod.ext houtcome.symm (r.keeps_lookup w')
  exact ⟨e, Errand.run_of_lookup_eq_error he, Errand.run_of_lookup_eq_error he'⟩

/-! What counts as saved on the second workspace does so on the first one, and what an errand gets
past on the first one counts as saved on the second one. -/

section

variable (h : Run es w) (h' : Run es' w')
  (hsub : ∀ j, w'.isSaved j = true → w.isSaved j = true)
  (hpass : ∀ j, r.Passes w j → w'.isSaved j = true)

include h h' hsub hpass

/-- An errand is admitted with the same text on both workspaces, or it is refused alike. -/
theorem admits_or_run_eq_error_of_passes (hw : w.unflaggedPaths = w'.unflaggedPaths)
    (g : StoreId) : (∃ text, w.Admits r text ∧ w'.Admits r text) ∨
      ∃ e, (r.command g).run w = (.error e, w) ∧ (r.command g).run w' = (.error e, w') := by
  by_cases hr : r.Addresses w
  · rcases h.admits_or_refuses hr with ⟨text, hadmits⟩ | ⟨e, hrefuses⟩
    · obtain ⟨p, hwrites, hall⟩ := Errand.exists_writes_of_admits hadmits
      obtain ⟨p', hwrites', hsame⟩ := hwrites.exists_of_unflaggedPaths hw
      have hall' := Errand.allSaved_of_passes hpass hwrites hsame hall
      exact .inl ⟨text, hadmits, hwrites'.admits hall'⟩
    · have hrefuses' := Errand.refuses_of_passes hpass hw hsub hrefuses
      exact .inr ⟨e, h.run_of_refuses hrefuses, h'.run_of_refuses hrefuses'⟩
  · exact .inr (run_of_not_addresses_of_unflaggedPaths hw g hr)

/-- An errand to a store that is the same on both workspaces comes to the same. -/
theorem errand_mirrors (hw : w.Beside a w') (hg : g ≠ a) :
    ((r.command g).run w).1 = ((r.command g).run w').1 ∧
      ((r.command g).run w).2.storesBut a = ((r.command g).run w').2.storesBut a ∧
      ∀ text, (r.command g).Hands w g text ↔ (r.command g).Hands w' g text := by
  rcases h.admits_or_run_eq_error_of_passes h' hsub hpass hw.paths g with
    ⟨text, hr, hr'⟩ | ⟨e, he, he'⟩
  · have hstore := hw.getElem?_stores hg
    cases hs : w.stores[g]? with
    | none =>
        have hs' : w'.stores[g]? = none := hstore ▸ hs
        rw [h.run_of_admits_of_none hs hr, h'.run_of_admits_of_none hs' hr']
        refine ⟨rfl, hw.stores, fun _ ↦ ?_⟩
        simp only [Command.Hands, hs, hs', reduceCtorEq, false_and]
    | some s =>
        have hs' : w'.stores[g]? = some s := hstore ▸ hs
        have hhands := h.hands_of_admits hs hr
        have hhands' := h'.hands_of_admits hs' hr'
        refine ⟨?_, ?_, fun _ ↦ ⟨fun hother ↦ ?_, fun hother ↦ ?_⟩⟩
        · rw [h.outcome_of_admits hs hr, h'.outcome_of_admits hs' hr']
        · obtain ⟨t, ht, hstores, -⟩ := hhands
          obtain ⟨t', ht', hstores', -⟩ := hhands'
          obtain rfl : t = s := Option.some.inj (ht.symm.trans hs)
          obtain rfl : t' = t := Option.some.inj (ht'.symm.trans hs')
          refine Workspace.storesBut_eq_of_forall ?_ fun k hk ↦ ?_
          · simp only [hstores, hstores', Array.size_setIfInBounds, hw.size_stores]
          · simp only [hstores, hstores', Array.getElem?_setIfInBounds, hw.getElem?_stores hk,
              hw.size_stores]
        · rw [hother.text_eq hhands]
          exact hhands'
        · rw [hother.text_eq hhands']
          exact hhands
  · rw [he, he']
    refine ⟨rfl, hw.stores, fun _ ↦ iff_of_false ?_ ?_⟩
    · exact fun hhands ↦ hhands.log_ne (by rw [he])
    · exact fun hhands ↦ hhands.log_ne (by rw [he'])

end

end Run

end GraphQuery
