import GraphQuery.Proofs.Heap.Growth

/-!
# Calls along edges that a path finds

A selector of the predicates that a path finds has a path of its own inside.  What a call makes of
such a selector is settled by the view of that path alone (`Heap.on_build_found`): the text of the
path goes into the segment, or `undefined` if the path is no query, the morphisms that it follows
are taken in, and saving along such edges puts down a problem that shows the path.
-/

namespace GraphQuery

open Work

namespace View

variable {u v : View}

/-- A path as an argument of a call. -/
def argument (v : View) : String :=
  match v.compile with
  | .ok text => text
  | .error _ => "undefined"

/-- What is warned of when a path is an argument of a call. -/
def warnings (v : View) : List LogEntry :=
  match v.compile with
  | .ok _ => []
  | .error e => [⟨.warning, "Nested query failed to compile, emitting undefined: " ++ e.message⟩]

/-- The problems of saving along edges that a path finds. -/
def foundProblems (v : View) (names : Choice) : List String :=
  ("Save() needs exactly one predicate, got FromQuery(query=" ++ v.display ++ ")") ::
    if names.isOne then [] else ["Save() needs exactly one tag, got " ++ names.display .tag]

/-- A path after it went along edges that another path finds. -/
def alongFound (u v : View) (kind : Edge) (names : Choice) : View :=
  ((u.addSegment (kind.word ++ "(" ++ arguments v.argument names.text ++ ")")).takeIn
    v.follows).addProblems (if kind = .save then v.foundProblems names else [])

theorem compile_eq (v : View) :
    v.compile = .ok v.text ∨ ∃ s, v.compile = .error (.compilation s) := by
  unfold compile
  split
  · exact .inr ⟨_, rfl⟩
  · exact .inl rfl

end View

namespace Heap

variable {h : Heap} {o n : PathId} {u v : View} {a : Value} {axis : Axis} {names : Choice}

/-- Names that are chosen are shown by their choice. -/
theorem exists_selector_of_choice? (ha : a.choice? axis = some names) :
    ∃ s, a = .selector s ∧ s.display = names.display axis := by
  cases a with
  | selector s =>
      refine ⟨s, rfl, ?_⟩
      have hs : s.choice? axis = some names := ha
      unfold Selector.choice? at hs
      split at hs <;> cases hs <;> rfl
  | _ => cases ha

theorem on_expectChoice (ha : a.choice? axis = some names) :
    (expectChoice axis a).on h = (.ok names, h) := by
  obtain ⟨s, rfl, -⟩ := exists_selector_of_choice? ha
  rw [expectChoice, on_bind_of_ok (on_display_of_none (displayFault?_selector s)), ha]
  rfl

theorem nested?_found (hv : h.view? n = some v) : h.nested? (.foundBy (.path n)) = some n := by
  simp only [nested?, if_pos (lt_of_view? hv)]

theorem on_formatPredicates_found (hv : h.view? n = some v) :
    (formatPredicates (.foundBy (.path n))).on h =
      (.ok v.argument, { h with log := h.log ++ v.warnings }) := by
  rw [formatPredicates, on_bind_of_ok (on_get h), nested?_found hv]
  simp only [on_tryCatch, on_compile hv, View.argument, View.warnings]
  rcases v.compile_eq with hc | ⟨s, hc⟩
  · simp only [hc, List.append_nil]
  · simp only [hc]
    rfl

/-- Nothing is wrong with exactly one name, and anything else is put down as it is shown. -/
theorem on_expectOne (hs : h.Sound) (hv : h.view? o = some v) (what : String) (isOne : Bool)
    (ha : a.displayFault? = none) : ∃ h', (expectOne o what isOne a).on h = (.ok (), h') ∧
      h.Becomes o (v.addProblems (if isOne then [] else
        ["Save() needs exactly one " ++ what ++ ", got " ++ a.display h.displayPath])) h' := by
  cases isOne with
  | true =>
      rw [if_pos rfl, View.addProblems_nil]
      exact ⟨h, rfl, .refl hs hv⟩
  | false =>
      obtain ⟨h', hadded, hbecomes⟩ := (writes_addProblem o ("Save() needs exactly one " ++ what ++
        ", got " ++ a.display h.displayPath) h hs).1 v hv
      refine ⟨h', ?_, hbecomes⟩
      change (display a >>= fun shown ↦ addProblem o _).on h = _
      rw [on_bind_of_ok (on_display_of_none ha), hadded]

/-- What is put down when a path saves along edges that another path finds. -/
theorem on_checkSave_found (hs : h.Sound) (hu : h.view? o = some u) (hv : h.view? n = some v)
    (ha : a.choice? .tag = some names) :
    ∃ h', (checkSave o (.foundBy (.path n)) a names).on h = (.ok (), h') ∧
      h.Becomes o (u.addProblems (v.foundProblems names)) h' := by
  obtain ⟨s, rfl, hshown⟩ := exists_selector_of_choice? ha
  obtain ⟨h₁, hpredicates, hb₁⟩ := on_expectOne hs hu "predicate" false
    (displayFault?_foundBy_path n)
  obtain ⟨h₂, htags, hb₂⟩ := on_expectOne hb₁.sound hb₁.here "tag" names.isOne
    (displayFault?_selector s)
  refine ⟨h₂, (on_bind_of_ok hpredicates _).trans htags, ?_⟩
  have hpath : h.displayPath n = v.display := by
    rw [hs.displayPath_eq, hv]
    rfl
  have hfound : ["Save() needs exactly one " ++ "predicate" ++ ", got " ++
      (Value.foundBy (.path n)).display h.displayPath] ++
        (if names.isOne then [] else ["Save() needs exactly one " ++ "tag" ++ ", got " ++
          (Value.selector s).display h₁.displayPath]) = v.foundProblems names := by
    simp only [Value.display, hpath, hshown]
    rfl
  have hb := hb₁.trans hb₂
  rwa [if_neg Bool.false_ne_true, View.addProblems_addProblems, hfound] at hb

/-- What comes of a call along edges that a path finds is settled by the view of that path. -/
theorem on_build_found (hs : h.Sound) (hu : h.view? o = some u) (hopen : u.finalized = false)
    (hv : h.view? n = some v) (hne : n ≠ o) {kind : Edge}
    (ha : a.choice? kind.secondAxis = some names) :
    ∃ h', (build o (.edge kind (.foundBy (.path n)) a)).on h = (.ok (), h') ∧
      Becomes { h with log := h.log ++ v.warnings } o (u.alongFound v kind names) h' := by
  let warned : Heap := { h with log := h.log ++ v.warnings }
  have hsilent : warned.silent = h.silent := rfl
  have hs₀ := sound_of_silent hsilent hs
  obtain ⟨h₁, hadded, hb₁⟩ := on_add_of_open hs₀ hu hopen
    (kind.word ++ "(" ++ arguments v.argument names.text ++ ")")
  have hv₁ : h₁.view? n = some v := (hb₁.elsewhere n hne).trans hv
  obtain ⟨h₂, habsorbed, hb₂⟩ := on_absorb hb₁.sound hb₁.here hv₁
  have hv₂ : h₂.view? n = some v := (hb₂.elsewhere n hne).trans hv₁
  have hedge : (edge o kind.word (.foundBy (.path n)) names).on h = (.ok (), h₂) := by
    rw [edge, on_bind_of_ok (show (expectPredicates _).on h = (.ok (), h) from rfl),
      on_bind_of_ok (on_formatPredicates_found hv), on_bind_of_ok hadded, on_bind_of_ok (on_get h₁),
      nested?_found hv₁]
    exact habsorbed
  rw [build, on_bind_of_ok (on_expectChoice ha), on_bind_of_ok hedge, View.alongFound]
  by_cases hsave : kind = .save
  · subst hsave
    obtain ⟨h₃, hchecked, hb₃⟩ := on_checkSave_found hb₂.sound hb₂.here hv₂ ha
    rw [if_pos rfl, if_pos rfl]
    exact ⟨h₃, hchecked, (hb₁.trans hb₂).trans hb₃⟩
  · rw [if_neg hsave, if_neg hsave, View.addProblems_nil]
    exact ⟨h₂, rfl, hb₁.trans hb₂⟩

end Heap

end GraphQuery
