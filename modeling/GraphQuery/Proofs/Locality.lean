import GraphQuery.Proofs.Action

/-!
# What a value mentions

A value has to do with no other paths than those that it has inside of it: how it is shown, and what
it is said to lack, is settled by how these paths are shown and what they are called
(`Value.display_congr`, `Value.lacking_congr`).
-/

namespace GraphQuery

open Work

/-- A path is inside of a value. -/
inductive Value.Mentions (i : PathId) : Value → Prop
  | path : Mentions i (.path i)
  | list {items : List Value} {v : Value} : v ∈ items → Mentions i v → Mentions i (.list items)
  | tuple {items : List Value} {v : Value} : v ∈ items → Mentions i v → Mentions i (.tuple items)
  | foundBy {query : Value} : Mentions i query → Mentions i (.foundBy query)

/-- All paths inside of a value are among some. -/
def Value.Within (S : PathId → Prop) (v : Value) : Prop := ∀ i, v.Mentions i → S i

variable {S : PathId → Prop} {v : Value}

namespace Value

/-- How a value is shown is settled by how the paths inside of it are. -/
theorem display_congr {shown shown' : PathId → String} (v : Value)
    (h : ∀ i, v.Mentions i → shown i = shown' i) : v.display shown = v.display shown' := by
  fun_induction Value.display shown v with
  | case4 i =>
      rw [display]
      exact h i .path
  | case13 items ih =>
      rw [display, List.map_congr_left fun u hu ↦ ih u hu fun i hi ↦ h i (.list hu hi)]
  | case14 items ih =>
      rw [display, List.map_congr_left fun u hu ↦ ih u hu fun i hi ↦ h i (.tuple hu hi)]
  | case15 query ih => rw [display, ih fun i hi ↦ h i (.foundBy hi)]
  | _ => rw [display]

/-- Only what stands for predicates has a path that can be read off it. -/
theorem eq_foundBy_of_mem_attributes {name : String} {i : PathId}
    (h : (name, .path i) ∈ v.attributes) : v = .foundBy (.path i) := by
  unfold attributes at h
  repeat' split at h
  case h_4 =>
    obtain ⟨-, rfl⟩ := Prod.mk.inj (List.mem_singleton.1 h)
    rfl
  all_goals
    simp [text, textTuple] at h

/-- What sort a value is of depends on paths only if it is one. -/
theorem typeName_congr {title title' : PathId → String}
    (h : ∀ i, v = .path i → title i = title' i) : v.typeName title = v.typeName title' := by
  cases v with
  | path i => exact h i rfl
  | target i t => cases t <;> rfl
  | _ => rfl

/-- What is said of an operation that is not there is settled by what the paths inside of the value
are called. -/
theorem lacking_congr {title title' : PathId → String}
    (h : ∀ i, v.Mentions i → title i = title' i) (operation : String) :
    v.lacking title operation = v.lacking title' operation := by
  have hown : v.typeName title = v.typeName title' := by
    refine typeName_congr ?_
    rintro i rfl
    exact h i .path
  have hread {a : Value} (ha : v.attributes.lookup operation = some a) :
      a.typeName title = a.typeName title' := by
    refine typeName_congr ?_
    rintro i rfl
    obtain ⟨before, after, hattributes, -⟩ := List.lookup_eq_some_iff.1 ha
    have hmem : (operation, .path i) ∈ v.attributes := hattributes ▸ List.mem_append_cons_self
    rw [eq_foundBy_of_mem_attributes hmem] at h
    exact h i (.foundBy .path)
  unfold lacking
  split
  · rfl
  · split
    · rename_i ha
      rw [hread ha]
    · rfl
    · rfl
    · rw [hown]

end Value

/-- The arguments of a builder call. -/
def Build.arguments : Build → List Value
  | edge _ predicates second => [predicates, second]
  | mark _ names => [names]
  | join _ other => [other]
  | follow _ morphism => [morphism]
  | finish _ => []
  | limit count => [count]

end GraphQuery
