import GraphQuery.Heap.Call
import GraphQuery.Proofs.Action

/-!
# What is stored of a path

Wherever its lists are, a stored path comes down to what they hold, to a flag and to a label: its
`View`.  A heap is `Sound` if every list that an object has the place of is there, and no list is in
two places of one object or in two objects.  On a sound heap, whatever is written for an object
changes the view of that object only (`Heap.Becomes`), and so the small steps that calls are made of
can be told by what they make of a view.

A copy shares all its lists with the original at first, so the heap is not sound while a copy is
made.  It is sound again once the last of the lists was cloned: all in all, a new object with the
same view and lists of its own was added (`Heap.on_copy`).
-/

namespace GraphQuery

open Work

/-- What is stored of a path, wherever its lists are. -/
@[ext]
structure View where
  segments : List String
  problems : List String
  follows : List PathId
  finalized : Bool
  label : Option Label

namespace View

/-- What a path is called. -/
def title (v : View) : String := if v.label.isSome then "Morphism" else "Vertex"

/-- The segments joined by dots. -/
def text (v : View) : String := ".".intercalate v.segments

/-- A path as messages show it. -/
def display (v : View) : String := "<" ++ v.title ++ " " ++ v.text ++ ">"

/-- The query that a path stands for. -/
def compile (v : View) : Except Error String :=
  if v.problems ≠ [] then .error (.compilation ("; ".intercalate v.problems)) else .ok v.text

/-- A path at the given vertices. -/
def vertices (nodes : Choice) : View := ⟨["g.V(" ++ nodes.text ++ ")"], [], [], false, none⟩

/-- A morphism without calls, not saved. -/
def morphism (name : String) : View := ⟨["g.M()"], [], [], false, some ⟨name, false⟩⟩

/-- A path after its definition was sent to a store. -/
def markSaved (v : View) : View := { v with label := v.label.map fun l ↦ { l with saved := true } }

/-- A path with one more segment. -/
def addSegment (s : String) (v : View) : View := { v with segments := v.segments ++ [s] }

/-- A path with more problems. -/
def addProblems (l : List String) (v : View) : View := { v with problems := v.problems ++ l }

/-- A path that follows more morphisms. -/
def takeIn (new : List PathId) (v : View) : View := { v with follows := absorb v.follows new }

/-- A path that was ended. -/
def finish (v : View) : View := { v with finalized := true }

@[simp] theorem addProblems_nil (v : View) : v.addProblems [] = v := by
  rw [addProblems, List.append_nil]

@[simp] theorem addProblems_addProblems (v : View) (l l' : List String) :
    (v.addProblems l).addProblems l' = v.addProblems (l ++ l') := by
  rw [addProblems, addProblems, addProblems, List.append_assoc]

/-- What is followed is not followed twice. -/
theorem takeIn_of_mem {v : View} {i : PathId} (hi : i ∈ v.follows) : v.takeIn [i] = v := by
  rw [takeIn, absorb_cons, if_pos hi, absorb_nil]

theorem takeIn_of_not_mem {v : View} {i : PathId} (hi : i ∉ v.follows) :
    v.takeIn [i] = { v with follows := v.follows ++ [i] } := by
  rw [takeIn, absorb_cons, if_neg hi, absorb_nil]

theorem takeIn_takeIn (v : View) (i : PathId) (new : List PathId) :
    (v.takeIn [i]).takeIn new = v.takeIn (i :: new) := by
  simp only [takeIn, absorb_cons, absorb_nil]

end View

/-- The places of the lists of texts. -/
def Object.texts (x : Object) : List Nat := [x.segments, x.problems]

namespace Heap

variable {h h' : Heap} {o i : PathId} {x y : Object} {v u : View}

/-! ## Views -/

/-- What is stored of a path. -/
def view? (h : Heap) (o : PathId) : Option View := do
  let x ← h.objects[o]?
  let segments ← h.texts[x.segments]?
  let problems ← h.texts[x.problems]?
  let follows ← h.paths[x.follows]?
  some ⟨segments, problems, follows, x.finalized, x.label⟩

/-- An object has the places of the lists of a view. -/
structure Holds (h : Heap) (x : Object) (v : View) : Prop where
  segments : h.texts[x.segments]? = some v.segments
  problems : h.texts[x.problems]? = some v.problems
  follows : h.paths[x.follows]? = some v.follows
  finalized : x.finalized = v.finalized
  label : x.label = v.label

theorem view?_eq_some_iff :
    h.view? o = some v ↔ ∃ x, h.objects[o]? = some x ∧ h.Holds x v := by
  constructor
  · intro hv
    obtain ⟨x, hx, hv⟩ := Option.bind_eq_some_iff.1 hv
    obtain ⟨segments, hsegments, hv⟩ := Option.bind_eq_some_iff.1 hv
    obtain ⟨problems, hproblems, hv⟩ := Option.bind_eq_some_iff.1 hv
    obtain ⟨follows, hfollows, hv⟩ := Option.bind_eq_some_iff.1 hv
    cases hv
    exact ⟨x, hx, hsegments, hproblems, hfollows, rfl, rfl⟩
  · rintro ⟨x, hx, hsegments, hproblems, hfollows, hfinalized, hlabel⟩
    rw [view?, hx, Option.bind_eq_bind, Option.bind_some, hsegments, hproblems, hfollows,
      hfinalized, hlabel]
    rfl

/-- A heap without its log. -/
def silent (h : Heap) : Heap := { h with log := [] }

theorem view?_silent (h : Heap) : h.silent.view? = h.view? := rfl

theorem view?_of_silent (hh : h'.silent = h.silent) : h'.view? = h.view? := by
  rw [← view?_silent, hh, view?_silent]

theorem size_of_silent (hh : h'.silent = h.silent) : h'.objects.size = h.objects.size :=
  congrArg (fun h ↦ h.objects.size) hh

/-! ## Sound heaps -/

/-- Every list is there, and it is in one place of one object only. -/
structure Sound (h : Heap) : Prop where
  texts : ∀ {o : PathId} {x : Object}, h.objects[o]? = some x → ∀ c ∈ x.texts, c < h.texts.size
  paths : ∀ {o : PathId} {x : Object}, h.objects[o]? = some x → x.follows < h.paths.size
  apart : ∀ {o : PathId} {x : Object}, h.objects[o]? = some x → x.texts.Nodup
  ownTexts : ∀ {o i : PathId} {x y : Object}, h.objects[o]? = some x → h.objects[i]? = some y →
    ∀ c ∈ x.texts, c ∈ y.texts → i = o
  ownPaths : ∀ {o i : PathId} {x y : Object}, h.objects[o]? = some x → h.objects[i]? = some y →
    x.follows = y.follows → i = o

theorem sound_empty : empty.Sound := by
  constructor <;> simp [empty]

theorem sound_of_silent (hh : h'.silent = h.silent) (hs : h.Sound) : h'.Sound := by
  have hsilent : h.silent.Sound := ⟨hs.texts, hs.paths, hs.apart, hs.ownTexts, hs.ownPaths⟩
  rw [← hh] at hsilent
  exact ⟨hsilent.texts, hsilent.paths, hsilent.apart, hsilent.ownTexts, hsilent.ownPaths⟩

namespace Sound

/-- An object of a sound heap has a view. -/
theorem exists_view? (hs : h.Sound) (hx : h.objects[o]? = some x) :
    ∃ v, h.view? o = some v ∧ h.Holds x v := by
  have hsegments := hs.texts hx x.segments (by simp [Object.texts])
  have hproblems := hs.texts hx x.problems (by simp [Object.texts])
  have hfollows := hs.paths hx
  have hholds : h.Holds x ⟨h.texts[x.segments], h.texts[x.problems], h.paths[x.follows],
      x.finalized, x.label⟩ :=
    ⟨Array.getElem?_eq_getElem _, Array.getElem?_eq_getElem _, Array.getElem?_eq_getElem _, rfl,
      rfl⟩
  exact ⟨_, view?_eq_some_iff.2 ⟨x, hx, hholds⟩, hholds⟩

theorem segments_ne_problems (hs : h.Sound) (hx : h.objects[o]? = some x) :
    x.segments ≠ x.problems := by
  have hnodup := hs.apart hx
  simpa [Object.texts] using hnodup

theorem objects_eq_none (hs : h.Sound) (hv : h.view? o = none) : h.objects[o]? = none := by
  cases hx : h.objects[o]? with
  | none => rfl
  | some x =>
      obtain ⟨v, hv', -⟩ := hs.exists_view? hx
      rw [hv] at hv'
      cases hv'

theorem exists_view?_of_lt (hs : h.Sound) (ho : o < h.objects.size) : ∃ v, h.view? o = some v := by
  obtain ⟨v, hv, -⟩ := hs.exists_view? (Array.getElem?_eq_getElem ho)
  exact ⟨v, hv⟩

end Sound

theorem lt_of_view? (hv : h.view? o = some v) : o < h.objects.size := by
  obtain ⟨x, hx, -⟩ := view?_eq_some_iff.1 hv
  exact (Array.getElem?_eq_some_iff.1 hx).choose

theorem view?_eq_none (ho : h.objects.size ≤ o) : h.view? o = none := by
  rw [view?, Array.getElem?_eq_none ho]
  rfl

/-! ### Messages -/

theorem Sound.title_eq (hs : h.Sound) (o : PathId) :
    h.title o = ((h.view? o).map View.title).getD "" := by
  rw [title]
  cases hv : h.view? o with
  | none => rw [hs.objects_eq_none hv]; rfl
  | some v =>
      obtain ⟨x, hx, hholds⟩ := view?_eq_some_iff.1 hv
      rw [hx, Option.map_some, Option.map_some, Object.title, View.title, hholds.label]

theorem Sound.displayPath_eq (hs : h.Sound) (o : PathId) :
    h.displayPath o = ((h.view? o).map View.display).getD "" := by
  rw [displayPath]
  cases hv : h.view? o with
  | none => rw [hs.objects_eq_none hv]; rfl
  | some v =>
      obtain ⟨x, hx, hholds⟩ := view?_eq_some_iff.1 hv
      rw [hx, Option.bind_eq_bind, Option.bind_some, hholds.segments, Option.map_some,
        View.display, View.title, View.text, ← hholds.label]
      rfl

/-! ## What becomes of an object -/

/-- One object gets a view, and all others and the log stay as they are. -/
structure Becomes (h : Heap) (o : PathId) (v : View) (h' : Heap) : Prop where
  sound : h'.Sound
  size : h'.objects.size = h.objects.size
  here : h'.view? o = some v
  elsewhere : ∀ i, i ≠ o → h'.view? i = h.view? i
  log : h'.log = h.log

namespace Becomes

theorem refl (hs : h.Sound) (hv : h.view? o = some v) : h.Becomes o v h :=
  ⟨hs, rfl, hv, fun _ _ ↦ rfl, rfl⟩

theorem trans {h₁ h₂ : Heap} (hb : h.Becomes o v h₁) (hb' : h₁.Becomes o u h₂) :
    h.Becomes o u h₂ where
  sound := hb'.sound
  size := hb'.size.trans hb.size
  here := hb'.here
  elsewhere i hi := (hb'.elsewhere i hi).trans (hb.elsewhere i hi)
  log := hb'.log.trans hb.log

/-- Whatever was there is there still. -/
theorem exists_view? (hb : h.Becomes o v h') (hu : h.view? i = some u) :
    ∃ u', h'.view? i = some u' := by
  by_cases hi : i = o
  · exact ⟨v, hi ▸ hb.here⟩
  · exact ⟨u, (hb.elsewhere i hi).trans hu⟩

end Becomes

/-- An object that is changed is there with its new fields. -/
theorem Holds.view? (hx : h.objects[o]? = some x) (hv : h.Holds x v) : h.view? o = some v :=
  view?_eq_some_iff.2 ⟨x, hx, hv⟩

/-- A view is settled by an object and by the lists that it has the places of. -/
theorem view?_congr (hobjects : h'.objects[i]? = h.objects[i]?)
    (htexts : ∀ y, h.objects[i]? = some y → ∀ c ∈ y.texts, h'.texts[c]? = h.texts[c]?)
    (hpaths : ∀ y, h.objects[i]? = some y → h'.paths[y.follows]? = h.paths[y.follows]?) :
    h'.view? i = h.view? i := by
  rw [Heap.view?, Heap.view?, hobjects]
  cases hy : h.objects[i]? with
  | none => rfl
  | some y =>
      have hcells := htexts y hy
      rw [Option.bind_eq_bind, Option.bind_some, Option.bind_eq_bind, Option.bind_some,
        hcells _ (by simp [Object.texts]), hcells _ (by simp [Object.texts]), hpaths y hy]

/-- A list of texts that is written to is still in one place only. -/
theorem Sound.withTexts (hs : h.Sound) (c : Nat) (l : List String) :
    Sound { h with texts := h.texts.setIfInBounds c l } where
  texts hx := by
    rw [Array.size_setIfInBounds]
    exact hs.texts hx
  paths := hs.paths
  apart := hs.apart
  ownTexts := hs.ownTexts
  ownPaths := hs.ownPaths

theorem Sound.withPaths (hs : h.Sound) (c : Nat) (l : List PathId) :
    Sound { h with paths := h.paths.setIfInBounds c l } where
  texts := hs.texts
  paths hx := by
    rw [Array.size_setIfInBounds]
    exact hs.paths hx
  apart := hs.apart
  ownTexts := hs.ownTexts
  ownPaths := hs.ownPaths

/-- What is written to a list of texts of one object is in no list of another one. -/
theorem view?_withTexts (hs : h.Sound) (hx : h.objects[o]? = some x) {c : Nat}
    (hc : c ∈ x.texts) (l : List String) (hi : i ≠ o) :
    Heap.view? { h with texts := h.texts.setIfInBounds c l } i = h.view? i := by
  refine view?_congr rfl (fun y hy d hd ↦ ?_) fun _ _ ↦ rfl
  refine Array.getElem?_setIfInBounds_ne ?_
  rintro rfl
  exact hi (hs.ownTexts hx hy _ hc hd)

theorem becomes_withSegments (hs : h.Sound) (hx : h.objects[o]? = some x) (hv : h.Holds x v)
    (l : List String) : h.Becomes o { v with segments := l }
      { h with texts := h.texts.setIfInBounds x.segments l } where
  sound := hs.withTexts _ _
  size := rfl
  here := by
    refine Holds.view? hx { hv with segments := ?_, problems := ?_ }
    · exact Array.getElem?_setIfInBounds_self_of_lt (hs.texts hx _ (by simp [Object.texts]))
    · exact (Array.getElem?_setIfInBounds_ne (hs.segments_ne_problems hx)).trans hv.problems
  elsewhere _ hi := view?_withTexts hs hx (by simp [Object.texts]) l hi
  log := rfl

theorem becomes_withProblems (hs : h.Sound) (hx : h.objects[o]? = some x) (hv : h.Holds x v)
    (l : List String) : h.Becomes o { v with problems := l }
      { h with texts := h.texts.setIfInBounds x.problems l } where
  sound := hs.withTexts _ _
  size := rfl
  here := by
    refine Holds.view? hx { hv with segments := ?_, problems := ?_ }
    · exact (Array.getElem?_setIfInBounds_ne (hs.segments_ne_problems hx).symm).trans hv.segments
    · exact Array.getElem?_setIfInBounds_self_of_lt (hs.texts hx _ (by simp [Object.texts]))
  elsewhere _ hi := view?_withTexts hs hx (by simp [Object.texts]) l hi
  log := rfl

theorem becomes_withFollows (hs : h.Sound) (hx : h.objects[o]? = some x) (hv : h.Holds x v)
    (l : List PathId) : h.Becomes o { v with follows := l }
      { h with paths := h.paths.setIfInBounds x.follows l } where
  sound := hs.withPaths _ _
  size := rfl
  here := Holds.view? hx
    { hv with follows := Array.getElem?_setIfInBounds_self_of_lt (hs.paths hx) }
  elsewhere i hi := by
    refine view?_congr rfl (fun _ _ _ _ ↦ rfl) fun y hy ↦ ?_
    exact Array.getElem?_setIfInBounds_ne fun heq ↦ hi (hs.ownPaths hx hy heq)
  log := rfl

/-- An object may be replaced by one with the same lists. -/
theorem becomes_withObject (hs : h.Sound) (hx : h.objects[o]? = some x) (hv : h.Holds x v)
    (finalized : Bool) (label : Option Label) :
    h.Becomes o { v with finalized := finalized, label := label }
      { h with
        objects := h.objects.setIfInBounds o
          { x with finalized := finalized, label := label } } := by
  have hold {i : PathId} {y : Object} (hy : (h.objects.setIfInBounds o
      { x with finalized := finalized, label := label })[i]? = some y) :
      ∃ z, h.objects[i]? = some z ∧ y.texts = z.texts ∧ y.follows = z.follows := by
    rw [Array.getElem?_setIfInBounds] at hy
    split at hy
    · rename_i hi
      split at hy
      · cases hy
        exact ⟨x, hi ▸ hx, rfl, rfl⟩
      · cases hy
    · exact ⟨y, hy, rfl, rfl⟩
  refine ⟨⟨?_, ?_, ?_, ?_, ?_⟩, Array.size_setIfInBounds, ?_, ?_, rfl⟩
  · intro i y hy
    obtain ⟨z, hz, htexts, -⟩ := hold hy
    rw [htexts]
    exact hs.texts hz
  · intro i y hy
    obtain ⟨z, hz, -, hfollows⟩ := hold hy
    rw [hfollows]
    exact hs.paths hz
  · intro i y hy
    obtain ⟨z, hz, htexts, -⟩ := hold hy
    rw [htexts]
    exact hs.apart hz
  · intro i k y y' hy hy'
    obtain ⟨z, hz, htexts, -⟩ := hold hy
    obtain ⟨z', hz', htexts', -⟩ := hold hy'
    rw [htexts, htexts']
    exact hs.ownTexts hz hz'
  · intro i k y y' hy hy'
    obtain ⟨z, hz, -, hfollows⟩ := hold hy
    obtain ⟨z', hz', -, hfollows'⟩ := hold hy'
    rw [hfollows, hfollows']
    exact hs.ownPaths hz hz'
  · refine Holds.view? (Array.getElem?_setIfInBounds_self_of_lt ?_)
      ⟨hv.segments, hv.problems, hv.follows, rfl, rfl⟩
    exact (Array.getElem?_eq_some_iff.1 hx).choose
  · intro i hi
    exact view?_congr (Array.getElem?_setIfInBounds_ne hi.symm) (fun _ _ _ _ ↦ rfl)
      fun _ _ ↦ rfl

/-! ## Steps -/

theorem on_object_of_some (hx : h.objects[o]? = some x) : (object o).on h = (.ok x, h) := by
  rw [object, on_bind_of_ok (on_get h), hx]
  rfl

theorem on_object_of_none (hx : h.objects[o]? = none) :
    (object o).on h = (.error .noObject, h) := by
  rw [object, on_bind_of_ok (on_get h), hx]
  rfl

theorem getElem?_of_object (hx : (object o).on h = (.ok x, h')) : h'.objects[o]? = some x := by
  obtain ⟨_, _, hget, hoption⟩ := on_bind_eq_ok.1 hx
  cases hget
  obtain ⟨hx, rfl⟩ := on_ofOption_eq_ok.1 hoption
  exact hx

theorem on_textsIn {c : Nat} {l : List String} (hl : h.texts[c]? = some l) :
    (textsIn c).on h = (.ok l, h) := by
  rw [textsIn, on_bind_of_ok (on_get h), hl]
  rfl

theorem on_pathsIn {c : Nat} {l : List PathId} (hl : h.paths[c]? = some l) :
    (pathsIn c).on h = (.ok l, h) := by
  rw [pathsIn, on_bind_of_ok (on_get h), hl]
  rfl

theorem on_segments (hv : h.view? o = some v) : (segments o).on h = (.ok v.segments, h) := by
  obtain ⟨x, hx, hholds⟩ := view?_eq_some_iff.1 hv
  rw [segments, on_bind_of_ok (on_object_of_some hx), on_textsIn hholds.segments]

theorem on_problems (hv : h.view? o = some v) : (problems o).on h = (.ok v.problems, h) := by
  obtain ⟨x, hx, hholds⟩ := view?_eq_some_iff.1 hv
  rw [problems, on_bind_of_ok (on_object_of_some hx), on_textsIn hholds.problems]

theorem on_follows (hv : h.view? o = some v) : (follows o).on h = (.ok v.follows, h) := by
  obtain ⟨x, hx, hholds⟩ := view?_eq_some_iff.1 hv
  rw [follows, on_bind_of_ok (on_object_of_some hx), on_pathsIn hholds.follows]

theorem on_compile (hv : h.view? o = some v) : (compile o).on h = (v.compile, h) := by
  rw [compile, on_bind_of_ok (on_problems hv), View.compile]
  split
  · rfl
  · exact on_bind_of_ok (on_segments hv) _

/-! ### Writing -/

/-- Work makes something else of the view of a path, and it fails if there is no such path. -/
def Writes (o : PathId) (f : View → View) (x : Work Heap Unit) : Prop :=
  ∀ h : Heap, h.Sound → (∀ v, h.view? o = some v → ∃ h', x.on h = (.ok (), h') ∧
    h.Becomes o (f v) h') ∧ (h.view? o = none → x.on h = (.error .noObject, h))

/-- Work that looks an object up first writes if it does so for an object that is there. -/
theorem Writes.of_object {f : View → View} {k : Object → Work Heap Unit}
    (hk : ∀ (h : Heap) x v, h.Sound → h.objects[o]? = some x → h.Holds x v →
      ∃ h', (k x).on h = (.ok (), h') ∧ h.Becomes o (f v) h') :
    Writes o f (object o >>= k) := by
  intro h hs
  constructor
  · intro v hv
    obtain ⟨x, hx, hholds⟩ := view?_eq_some_iff.1 hv
    rw [on_bind_of_ok (on_object_of_some hx)]
    exact hk h x v hs hx hholds
  · intro hv
    rw [on_bind_of_error (on_object_of_none (hs.objects_eq_none hv))]

theorem writes_addSegment (o : PathId) (s : String) :
    Writes o (View.addSegment s) (addSegment o s) := by
  refine .of_object fun h x v hs hx hholds ↦ ⟨_, ?_, becomes_withSegments hs hx hholds _⟩
  rw [appendText, on_bind_of_ok (on_textsIn hholds.segments)]
  rfl

theorem writes_addProblem (o : PathId) (s : String) :
    Writes o (View.addProblems [s]) (addProblem o s) := by
  refine .of_object fun h x v hs hx hholds ↦ ⟨_, ?_, becomes_withProblems hs hx hholds _⟩
  rw [appendText, on_bind_of_ok (on_textsIn hholds.problems)]
  rfl

theorem writes_addFollowed (o i : PathId) :
    Writes o (fun v ↦ { v with follows := v.follows ++ [i] }) (addFollowed o i) := by
  refine .of_object fun h x v hs hx hholds ↦ ⟨_, ?_, becomes_withFollows hs hx hholds _⟩
  rw [appendPath, on_bind_of_ok (on_pathsIn hholds.follows)]
  rfl

theorem writes_setFinalized (o : PathId) :
    Writes o View.finish (setFields o fun x ↦ { x with finalized := true }) := by
  refine .of_object fun h x v hs hx hholds ↦ ?_
  have hview : { v with finalized := true, label := x.label } = v.finish := by
    rw [hholds.label]
    rfl
  exact ⟨_, rfl, hview ▸ becomes_withObject hs hx hholds true x.label⟩

theorem writes_markSaved (o : PathId) : Writes o View.markSaved (markSaved o) := by
  refine .of_object fun h x v hs hx hholds ↦ ?_
  let label := x.label.map fun l ↦ { l with saved := true }
  have hview : { v with finalized := x.finalized, label := label } = v.markSaved := by
    rw [hholds.finalized, View.markSaved, ← hholds.label]
  exact ⟨_, rfl, hview ▸ becomes_withObject hs hx hholds x.finalized label⟩

theorem writes_takeIn (o i : PathId) :
    Writes o (View.takeIn [i]) (takeIn o i) := by
  intro h hs
  constructor
  · intro v hv
    rw [takeIn, on_bind_of_ok (on_follows hv)]
    by_cases hi : i ∈ v.follows
    · rw [if_neg (not_not_intro hi), View.takeIn_of_mem hi]
      exact ⟨h, rfl, .refl hs hv⟩
    · rw [if_pos hi, View.takeIn_of_not_mem hi]
      exact (writes_addFollowed o i h hs).1 v hv
  · intro hv
    rw [takeIn, follows, bind_assoc, on_bind_of_error (on_object_of_none (hs.objects_eq_none hv))]

/-- Adding a segment comes first, so a path that is finalized gets none. -/
theorem on_add_of_finalized (hv : h.view? o = some v) (hfinal : v.finalized = true) (s : String) :
    (add o s).on h = (.error (.finalized (.text s)), h) := by
  obtain ⟨x, hx, hholds⟩ := view?_eq_some_iff.1 hv
  rw [add, on_bind_of_ok (on_object_of_some hx), hholds.finalized, hfinal]
  rfl

theorem on_add_of_open (hs : h.Sound) (hv : h.view? o = some v) (hopen : v.finalized = false)
    (s : String) : ∃ h', (add o s).on h = (.ok (), h') ∧ h.Becomes o (v.addSegment s) h' := by
  obtain ⟨x, hx, hholds⟩ := view?_eq_some_iff.1 hv
  obtain ⟨h', hadded, hbecomes⟩ := (writes_addSegment o s h hs).1 v hv
  refine ⟨h', ?_, hbecomes⟩
  rw [add, on_bind_of_ok (on_object_of_some hx), hholds.finalized, hopen]
  exact hadded

/-- What is not there gets no segment. -/
theorem on_add_of_none (hs : h.Sound) (hv : h.view? o = none) (s : String) :
    (add o s).on h = (.error .noObject, h) := by
  rw [add, on_bind_of_error (on_object_of_none (hs.objects_eq_none hv))]

/-- What is left of another list is taken in.  If the list is the own one, then nothing of it is
added to it, so the list does not grow while it is gone through. -/
theorem on_absorbFrom {other : PathId} {position rounds : Nat} (hs : h.Sound)
    (hv : h.view? o = some v) (hu : h.view? other = some u) (hstart : position ≤ u.follows.length)
    (hend : u.follows.length < position + rounds) :
    ∃ h', (absorbFrom o other position rounds).on h = (.ok (), h') ∧
      h.Becomes o (v.takeIn (u.follows.drop position)) h' := by
  induction rounds generalizing h v position with
  | zero => omega
  | succ rounds ih =>
      rw [absorbFrom, on_bind_of_ok (on_follows hu)]
      cases hi : u.follows[position]? with
      | none =>
          rw [List.drop_eq_nil_of_le (List.getElem?_eq_none_iff.1 hi)]
          exact ⟨h, rfl, .refl hs hv⟩
      | some i =>
          obtain ⟨hlt, hget⟩ := List.getElem?_eq_some_iff.1 hi
          obtain ⟨h₁, htaken, hbecomes⟩ := (writes_takeIn o i h hs).1 v hv
          have hu₁ : h₁.view? other = some u := by
            by_cases hother : other = o
            · subst hother
              obtain rfl := Option.some.inj (hv.symm.trans hu)
              rw [hbecomes.here, View.takeIn_of_mem (List.mem_of_getElem? hi)]
            · rw [hbecomes.elsewhere other hother, hu]
          obtain ⟨h₂, hrest, hbecomes'⟩ := ih hbecomes.sound hbecomes.here hu₁ hlt (by omega)
          refine ⟨h₂, ?_, ?_⟩
          · rw [on_bind_of_ok htaken, hrest]
          · rw [List.drop_eq_getElem_cons hlt, hget, ← View.takeIn_takeIn]
            exact hbecomes.trans hbecomes'

theorem on_absorb {other : PathId} (hs : h.Sound) (hv : h.view? o = some v)
    (hu : h.view? other = some u) : ∃ h', (absorb o other).on h = (.ok (), h') ∧
      h.Becomes o (v.takeIn u.follows) h' := by
  have hend : u.follows.length < 0 + (u.follows.length + 1) := by omega
  obtain ⟨h', habsorbed, hbecomes⟩ := on_absorbFrom hs hv hu (Nat.zero_le _) hend
  refine ⟨h', ?_, hbecomes⟩
  rw [absorb, on_bind_of_ok (on_follows hu), habsorbed]

/-! ## New objects -/

/-- A heap with one more object that has lists of its own. -/
def adding (h : Heap) (v : View) : Heap where
  texts := (h.texts.push v.segments).push v.problems
  paths := h.paths.push v.follows
  objects := h.objects.push ⟨h.texts.size, h.texts.size + 1, h.paths.size, v.finalized, v.label⟩
  log := h.log

@[simp] theorem size_adding (h : Heap) (v : View) :
    (h.adding v).objects.size = h.objects.size + 1 := Array.size_push _

/-- The new object, or an old one. -/
theorem objects_adding (hy : (h.adding v).objects[i]? = some y) :
    i = h.objects.size ∧
        y = ⟨h.texts.size, h.texts.size + 1, h.paths.size, v.finalized, v.label⟩ ∨
      h.objects[i]? = some y := by
  rw [adding, Array.getElem?_push] at hy
  split at hy
  · cases hy
    exact .inl ⟨‹_›, rfl⟩
  · exact .inr hy

/-- The places of the new object are behind all others. -/
theorem Sound.adding (hs : h.Sound) (v : View) : (h.adding v).Sound := by
  have hsize : (h.adding v).texts.size = h.texts.size + 2 := by simp [Heap.adding]
  have hsize' : (h.adding v).paths.size = h.paths.size + 1 := by simp [Heap.adding]
  refine ⟨?_, ?_, ?_, ?_, ?_⟩
  · intro i y hy c hc
    rcases objects_adding hy with ⟨-, rfl⟩ | hy
    · simp only [Object.texts, List.mem_cons, List.not_mem_nil, or_false] at hc
      omega
    · have hlt := hs.texts hy c hc
      omega
  · intro i y hy
    rcases objects_adding hy with ⟨-, rfl⟩ | hy
    · exact hsize' ▸ Nat.lt_succ_self _
    · have hlt := hs.paths hy
      omega
  · intro i y hy
    rcases objects_adding hy with ⟨-, rfl⟩ | hy
    · simp [Object.texts]
    · exact hs.apart hy
  · intro i k y y' hy hy' c hc hc'
    rcases objects_adding hy with ⟨rfl, rfl⟩ | hy <;>
      rcases objects_adding hy' with ⟨rfl, rfl⟩ | hy'
    · rfl
    · have hlt := hs.texts hy' c hc'
      simp only [Object.texts, List.mem_cons, List.not_mem_nil, or_false] at hc
      omega
    · have hlt := hs.texts hy c hc
      simp only [Object.texts, List.mem_cons, List.not_mem_nil, or_false] at hc'
      omega
    · exact hs.ownTexts hy hy' c hc hc'
  · intro i k y y' hy hy' heq
    rcases objects_adding hy with ⟨rfl, rfl⟩ | hy <;>
      rcases objects_adding hy' with ⟨rfl, rfl⟩ | hy'
    · rfl
    · have hlt := hs.paths hy'
      simp only at heq
      omega
    · have hlt := hs.paths hy
      simp only at heq
      omega
    · exact hs.ownPaths hy hy' heq

theorem view?_adding_size (h : Heap) (v : View) : (h.adding v).view? h.objects.size = some v := by
  have hfirst : ((h.texts.push v.segments).push v.problems)[h.texts.size]? = some v.segments := by
    rw [Array.getElem?_push, Array.size_push, if_neg (by omega), Array.getElem?_push_size]
  refine Holds.view? Array.getElem?_push_size ⟨hfirst, ?_, ?_, rfl, rfl⟩
  · have hlast := @Array.getElem?_push_size _ (h.texts.push v.segments) v.problems
    rwa [Array.size_push] at hlast
  · exact Array.getElem?_push_size

/-- All other objects are as they were. -/
theorem view?_adding (hs : h.Sound) (v : View) (hi : i ≠ h.objects.size) :
    (h.adding v).view? i = h.view? i := by
  refine view?_congr ?_ (fun y hy c hc ↦ ?_) fun y hy ↦ ?_
  · rw [adding, Array.getElem?_push, if_neg hi]
  · have hlt := hs.texts hy c hc
    rw [adding, Array.getElem?_push, Array.size_push, if_neg (by omega), Array.getElem?_push,
      if_neg (by omega)]
  · have hlt := hs.paths hy
    rw [adding, Array.getElem?_push, if_neg (by omega)]

theorem on_newTexts (l : List String) (h : Heap) :
    (newTexts l).on h = (.ok h.texts.size, { h with texts := h.texts.push l }) := rfl

theorem on_newPaths (l : List PathId) (h : Heap) :
    (newPaths l).on h = (.ok h.paths.size, { h with paths := h.paths.push l }) := rfl

theorem on_newObject (x : Object) (h : Heap) :
    (newObject x).on h = (.ok h.objects.size, { h with objects := h.objects.push x }) := rfl

theorem on_newPath (root : String) (label : Option Label) (h : Heap) :
    (newPath root label).on h =
      (.ok h.objects.size, h.adding ⟨[root], [], [], false, label⟩) := by
  have hsize : (h.texts.push [root]).size = h.texts.size + 1 := Array.size_push _
  change (Except.ok h.objects.size, (⟨(h.texts.push [root]).push [], h.paths.push [],
    h.objects.push ⟨h.texts.size, (h.texts.push [root]).size, h.paths.size, false, label⟩,
    h.log⟩ : Heap)) = _
  rw [hsize]
  rfl

/-- The last object is the one that is changed. -/
theorem on_setFields_last (objects : Array Object) (y : Object) (f : Object → Object)
    (texts : Array (List String)) (paths : Array (List PathId)) (log : List LogEntry) :
    (setFields objects.size f).on ⟨texts, paths, objects.push y, log⟩ =
      (.ok (), ⟨texts, paths, objects.push (f y), log⟩) := by
  have hlast : (objects.push y)[objects.size]? = some y := Array.getElem?_push_size
  have hset : (objects.push y).setIfInBounds objects.size (f y) = objects.push (f y) := by
    refine Array.ext_getElem? fun i ↦ ?_
    by_cases hi : i = objects.size
    · subst hi
      rw [Array.getElem?_setIfInBounds_self_of_lt (by simp), Array.getElem?_push_size]
    · rw [Array.getElem?_setIfInBounds_ne (Ne.symm hi), Array.getElem?_push, if_neg hi,
        Array.getElem?_push, if_neg hi]
  rw [setFields, on_bind_of_ok (on_object_of_some hlast)]
  change (Except.ok (), (⟨texts, paths, (objects.push y).setIfInBounds objects.size (f y),
    log⟩ : Heap)) = _
  rw [hset]

/-- A copy is a new object with the same view.  Until the last of its lists is cloned it shares some
with the original. -/
theorem on_copy (hs : h.Sound) (hv : h.view? o = some v) :
    (copy o).on h = (.ok h.objects.size, h.adding v) := by
  obtain ⟨x, hx, hholds⟩ := view?_eq_some_iff.1 hv
  -- as long as old lists stay as they are, the original does so, whatever its copy is by then
  have hthere (texts : Array (List String)) (y : Object)
      (htexts : ∀ c < h.texts.size, texts[c]? = h.texts[c]?) :
      view? ⟨texts, h.paths, h.objects.push y, h.log⟩ o = some v := by
    refine hv ▸ view?_congr ?_ (fun z hz c hc ↦ htexts c (hs.texts hz c hc)) fun _ _ ↦ rfl
    rw [Array.getElem?_push, if_neg (Nat.ne_of_lt (lt_of_view? hv))]
  have hpush (l : List String) (c : Nat) (hc : c < h.texts.size) :
      (h.texts.push l)[c]? = h.texts[c]? := by
    rw [Array.getElem?_push, if_neg (Nat.ne_of_lt hc)]
  have hpush' (l l' : List String) (c : Nat) (hc : c < h.texts.size) :
      ((h.texts.push l).push l')[c]? = h.texts[c]? := by
    rw [Array.getElem?_push, Array.size_push, if_neg (by omega), hpush l c hc]
  rw [copy, on_bind_of_ok (on_object_of_some hx), on_bind_of_ok (on_newObject _ _),
    on_bind_of_ok (on_segments (hthere _ _ fun _ _ ↦ rfl)), on_bind_of_ok (on_newTexts _ _),
    on_bind_of_ok (on_setFields_last _ _ _ _ _ _),
    on_bind_of_ok (on_problems (hthere _ _ (hpush _))), on_bind_of_ok (on_newTexts _ _),
    on_bind_of_ok (on_setFields_last _ _ _ _ _ _),
    on_bind_of_ok (on_follows (hthere _ _ (hpush' _ _))), on_bind_of_ok (on_newPaths _ _),
    on_bind_of_ok (on_setFields_last _ _ _ _ _ _), on_pure, Array.size_push, hholds.finalized,
    hholds.label]
  rfl

end Heap

end GraphQuery
