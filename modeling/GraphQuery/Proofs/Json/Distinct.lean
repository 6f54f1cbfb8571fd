import GraphQuery.Json.Value
import GraphQuery.Proofs.Members

/-!
# Objects name their members once

A member that is written again replaces the earlier one, so an object that was read has no key
twice, however deep inside of a value it is.  This is kept by every token (`distinct_step`), hence
by all tokens of a text (`distinct_readFrom`), and holds of the value that comes out at the end
(`distinct_of_read`).
-/

namespace GraphQuery.Json

/-- No object of the value has a key twice. -/
inductive Distinct : Json → Prop
  | null : Distinct .null
  | bool (b : Bool) : Distinct (.bool b)
  | integer (n : Int) : Distinct (.integer n)
  | decimal (literal : String) : Distinct (.decimal literal)
  | text (s : CodePoints) : Distinct (.text s)
  | array {items : List Json} : (∀ v ∈ items, Distinct v) → Distinct (.array items)
  | object {members : List (CodePoints × Json)} : (members.map Prod.fst).Nodup →
      (∀ m ∈ members, Distinct m.2) → Distinct (.object members)

theorem distinct_object_iff {members : List (CodePoints × Json)} : (Json.object members).Distinct ↔
    (members.map Prod.fst).Nodup ∧ ∀ m ∈ members, m.2.Distinct := by
  constructor
  · intro h
    cases h with
    | object hkeys hvalues => exact ⟨hkeys, hvalues⟩
  · rintro ⟨hkeys, hvalues⟩
    exact .object hkeys hvalues

/-- The same of the part of a container that was read. -/
def Frame.Distinct : Frame → Prop
  | .array items => ∀ v ∈ items, v.Distinct
  | .object members _ => (Json.object members).Distinct

/-- The same of all that was read so far. -/
def Mode.Distinct : Mode → Prop
  | .value stack | .arrayStart stack | .objectStart stack => ∀ f ∈ stack, f.Distinct
  | .name members stack | .colon members _ stack =>
    (Json.object members).Distinct ∧ ∀ f ∈ stack, f.Distinct
  | .complete v stack => v.Distinct ∧ ∀ f ∈ stack, f.Distinct

theorem Distinct.setMember {members : List (CodePoints × Json)} (h : (Json.object members).Distinct)
    (key : CodePoints) {v : Json} (hv : v.Distinct) :
    (Json.object (setMember key v members)).Distinct := by
  obtain ⟨hkeys, hvalues⟩ := distinct_object_iff.1 h
  refine .object (nodup_keys_setMember key v hkeys) ?_
  intro m hm
  rcases mem_of_mem_setMember hm with rfl | hm
  · exact hv
  · exact hvalues m hm

variable {mode mode' : Mode} {stack : List Frame} {l : Lexeme}

theorem distinct_startValue (hstack : ∀ f ∈ stack, f.Distinct)
    (h : startValue stack l = .ok mode') : mode'.Distinct := by
  unfold startValue at h
  split at h
  case h_5 =>
    split at h
    · cases h
    · cases h
      exact ⟨.integer _, hstack⟩
  all_goals cases h
  · exact hstack
  · exact hstack
  · exact ⟨.null, hstack⟩
  · exact ⟨.bool _, hstack⟩
  · exact ⟨.decimal _, hstack⟩
  · exact ⟨.text _, hstack⟩

theorem distinct_startMember {members : List (CodePoints × Json)}
    (hmembers : (Json.object members).Distinct) (hstack : ∀ f ∈ stack, f.Distinct)
    (h : startMember members stack l = .ok mode') : mode'.Distinct := by
  unfold startMember at h
  split at h
  · cases h
    exact ⟨hmembers, hstack⟩
  · cases h
  · cases h

theorem distinct_step (hmode : mode.Distinct) (h : step mode l = .ok mode') : mode'.Distinct := by
  have hempty : (Json.object []).Distinct := .object List.nodup_nil nofun
  unfold step at h
  split at h
  · exact distinct_startValue hmode h
  · split at h
    · cases h
      exact ⟨.array nofun, hmode⟩
    · refine distinct_startValue ?_ h
      exact List.forall_mem_cons.2 ⟨nofun, hmode⟩
  · split at h
    · cases h
      exact ⟨hempty, hmode⟩
    · exact distinct_startMember hempty hmode h
  · exact distinct_startMember hmode.1 hmode.2 h
  · split at h
    · cases h
      exact List.forall_mem_cons.2 hmode
    · cases h
  · cases h
  · obtain ⟨hv, hstack⟩ := hmode
    obtain ⟨hitems, hstack⟩ := List.forall_mem_cons.1 hstack
    have hcons := List.forall_mem_cons.2 ⟨hv, hitems⟩
    split at h
    · cases h
      exact List.forall_mem_cons.2 ⟨hcons, hstack⟩
    · split at h
      · cases h
        refine ⟨.array ?_, hstack⟩
        intro u hu
        exact hcons u (List.mem_reverse.1 hu)
      · cases h
  · obtain ⟨hv, hstack⟩ := hmode
    obtain ⟨hmembers, hstack⟩ := List.forall_mem_cons.1 hstack
    split at h
    · cases h
      exact ⟨Distinct.setMember hmembers _ hv, hstack⟩
    · split at h
      · cases h
        exact ⟨Distinct.setMember hmembers _ hv, hstack⟩
      · cases h

theorem distinct_readFrom {ls : List Lexeme} (hmode : mode.Distinct)
    (h : readFrom mode ls = .ok mode') : mode'.Distinct := by
  induction ls generalizing mode with
  | nil =>
      cases h
      exact hmode
  | cons l ls ih =>
      rw [readFrom_cons] at h
      cases hstep : step mode l with
      | error e =>
          rw [hstep] at h
          cases h
      | ok next =>
          rw [hstep] at h
          exact ih (distinct_step hmode hstep) h

theorem distinct_of_read {cs : List Char} {v : Json} (h : Json.read cs = .ok v) : v.Distinct := by
  unfold Json.read at h
  split at h
  · cases h
  · cases hread : readFrom (.value []) (lexemes cs) with
    | error e =>
        rw [hread] at h
        cases h
    | ok mode =>
        have hstart : (Mode.value []).Distinct := nofun
        have hmode := distinct_readFrom hstart hread
        rw [hread] at h
        change finish mode = .ok v at h
        unfold finish at h
        split at h <;> cases h
        exact hmode.1

end GraphQuery.Json
