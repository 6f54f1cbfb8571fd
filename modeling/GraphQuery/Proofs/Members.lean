import GraphQuery.Series
import GraphQuery.Proofs.FirstSeen

/-!
# Members that are set one after the other

Setting a member never makes a key occur twice, and the members are then the ones from before with
the one that was set.  So a key that is set several times stands where it was set first, and has the
value that it was given last.

* `keys_foldl_setMember`: the keys are those that were set, each where it was set first;
* `lookup_foldl_setMember`: a key has the value that it was given last.
-/

namespace GraphQuery

variable {κ μ α β : Type} [DecidableEq κ] [DecidableEq μ] {key : κ} {value : α} {ms : List (κ × α)}

theorem nodup_keys_setMember (key : κ) (value : α) (h : (ms.map Prod.fst).Nodup) :
    ((setMember key value ms).map Prod.fst).Nodup := by
  rw [keys_setMember]
  split
  · exact h
  · rename_i hkey
    rw [← List.concat_eq_append]
    exact h.concat hkey

theorem mem_of_mem_setMember {m : κ × α} (h : m ∈ setMember key value ms) :
    m = (key, value) ∨ m ∈ ms := by
  induction ms with
  | nil => exact .inl (List.mem_singleton.1 h)
  | cons n ms ih =>
      rw [setMember] at h
      split at h
      · exact (List.mem_cons.1 h).imp_right (List.mem_cons_of_mem _)
      · rcases List.mem_cons.1 h with rfl | h
        · exact .inr List.mem_cons_self
        · exact (ih h).imp_right (List.mem_cons_of_mem _)

theorem lookup_cons_eq (k : κ) (m : κ × α) (ms : List (κ × α)) :
    (m :: ms).lookup k = if k = m.1 then some m.2 else ms.lookup k := by
  rw [List.lookup_cons]
  by_cases hk : k = m.1
  · simp [hk]
  · rw [beq_false_of_ne hk, if_neg hk]

theorem lookup_setMember (key k : κ) (value : α) (ms : List (κ × α)) :
    (setMember key value ms).lookup k = if k = key then some value else ms.lookup k := by
  induction ms with
  | nil => rw [setMember, lookup_cons_eq]
  | cons m ms ih =>
      rw [setMember]
      split
      · subst key
        rw [lookup_cons_eq, lookup_cons_eq]
        split <;> rfl
      · rename_i hm
        rw [lookup_cons_eq, lookup_cons_eq, ih]
        by_cases hk : k = m.1
        · subst hk
          rw [if_pos rfl, if_neg hm, if_pos rfl]
        · rw [if_neg hk, if_neg hk]

/-- A key that occurs once has the value that stands beside it. -/
theorem lookup_eq_some_iff_mem (h : (ms.map Prod.fst).Nodup) :
    ms.lookup key = some value ↔ (key, value) ∈ ms := by
  induction ms with
  | nil => simp
  | cons m ms ih =>
      obtain ⟨hm, hms⟩ := List.nodup_cons.1 h
      rw [lookup_cons_eq, List.mem_cons]
      by_cases hkey : key = m.1
      · subst hkey
        have hnot : (m.1, value) ∉ ms := fun hmem ↦ hm (List.mem_map.2 ⟨_, hmem, rfl⟩)
        rw [if_pos rfl, or_iff_left hnot, Prod.ext_iff, Option.some.injEq]
        exact ⟨fun hv ↦ ⟨rfl, hv.symm⟩, fun hv ↦ hv.2.symm⟩
      · rw [if_neg hkey, ih hms]
        exact ⟨.inr, fun hmem ↦ hmem.resolve_left fun hv ↦ hkey (congrArg Prod.fst hv)⟩

theorem lookup_eq_none_iff_not_mem : ms.lookup key = none ↔ key ∉ ms.map Prod.fst := by
  rw [List.lookup_eq_none_iff]
  grind

/-- Members are known by their keys in order and by what each key has. -/
theorem eq_of_keys_eq {ns : List (κ × α)} (hnodup : (ms.map Prod.fst).Nodup)
    (hkeys : ms.map Prod.fst = ns.map Prod.fst)
    (hlookup : ∀ k ∈ ms.map Prod.fst, ms.lookup k = ns.lookup k) : ms = ns := by
  induction ms generalizing ns with
  | nil => exact (List.map_eq_nil_iff.1 hkeys.symm).symm
  | cons m ms ih =>
      obtain ⟨n, ns, rfl, hn, hns⟩ := List.map_eq_cons_iff.1 hkeys.symm
      obtain ⟨hm, hms⟩ := List.nodup_cons.1 hnodup
      have hrest : ms = ns := by
        refine ih hms hns.symm fun k hkey ↦ ?_
        have hk : k ≠ m.1 := fun h ↦ hm (h ▸ hkey)
        have := hlookup k (List.mem_cons_of_mem _ hkey)
        rwa [lookup_cons_eq, lookup_cons_eq, hn, if_neg hk, if_neg hk] at this
      have hvalue := hlookup m.1 List.mem_cons_self
      rw [lookup_cons_eq, lookup_cons_eq, hn, if_pos rfl, if_pos rfl] at hvalue
      rw [Prod.ext hn.symm (Option.some.inj hvalue), hrest]

section Map

variable {f : κ → μ} (hf : f.Injective) (g : α → β)

include hf

/-- Setting a member goes along with a change of all keys, if they stay apart, and of all values. -/
theorem map_setMember (key : κ) (value : α) (ms : List (κ × α)) :
    (setMember key value ms).map (Prod.map f g) =
      setMember (f key) (g value) (ms.map (Prod.map f g)) := by
  induction ms with
  | nil => rfl
  | cons m ms ih =>
      by_cases hm : m.1 = key
      · simp [setMember, hm]
      · have hne : f m.1 ≠ f key := hf.ne hm
        simp [setMember, hm, hne, ih]

theorem lookup_map (key : κ) (ms : List (κ × α)) :
    (ms.map (Prod.map f g)).lookup (f key) = (ms.lookup key).map g := by
  induction ms with
  | nil => rfl
  | cons m ms ih =>
      rw [List.map_cons, lookup_cons_eq, lookup_cons_eq, ih]
      by_cases hkey : key = m.1
      · simp [hkey]
      · simp [hkey, hf.ne hkey]

end Map

/-! ## Members from pairs -/

/-- The members that result from setting pairs one after the other. -/
abbrev membersOf (pairs : List (κ × α)) : List (κ × α) :=
  pairs.foldl (fun ms p ↦ setMember p.1 p.2 ms) []

theorem keys_foldl_setMember (pairs : List (κ × α)) :
    (membersOf pairs).map Prod.fst = (pairs.map Prod.fst).eraseDups := by
  induction pairs using List.reverseRecOn with
  | nil => rfl
  | append_singleton pairs p ih =>
      rw [membersOf, List.foldl_concat, keys_setMember, ih, List.map_append, List.map_singleton,
        eraseDups_concat]
      simp only [List.mem_eraseDups]

theorem nodup_keys_membersOf (pairs : List (κ × α)) :
    ((membersOf pairs).map Prod.fst).Nodup := by
  rw [keys_foldl_setMember]
  exact nodup_eraseDups _

theorem map_membersOf {f : κ → μ} (hf : f.Injective) (g : α → β) (pairs : List (κ × α)) :
    (membersOf pairs).map (Prod.map f g) = membersOf (pairs.map (Prod.map f g)) := by
  induction pairs using List.reverseRecOn with
  | nil => rfl
  | append_singleton pairs p ih =>
      rw [List.map_append, membersOf, membersOf, List.foldl_concat, map_setMember hf, ih,
        List.map_singleton, List.foldl_concat]
      rfl

theorem lookup_foldl_setMember (pairs : List (κ × α)) (k : κ) :
    (membersOf pairs).lookup k = pairs.reverse.lookup k := by
  induction pairs using List.reverseRecOn with
  | nil => rfl
  | append_singleton pairs p ih =>
      rw [membersOf, List.foldl_concat, lookup_setMember, ih, List.reverse_concat, lookup_cons_eq]

end GraphQuery
