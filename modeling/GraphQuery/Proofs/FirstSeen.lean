import Mathlib.Data.List.Induction
import Mathlib.Data.List.Nodup

/-!
# Lists in order of first appearance

To keep of a list what comes in it for the first time, and to put things at the end of a list one by
one unless they are there already, is the same (`foldl_putNew_eraseDups`).  What is kept stays in
the order in which it came first (`idxOf_eraseDups_lt_iff`), and to keep some things only may be
done before or after (`eraseDups_filter`).
-/

namespace GraphQuery

variable {α : Type} [DecidableEq α] {a b c : α} {l : List α}

/-- What stands at the end of a list is kept if it is not there already. -/
theorem eraseDups_concat (l : List α) (a : α) :
    (l ++ [a]).eraseDups = if a ∈ l then l.eraseDups else l.eraseDups ++ [a] := by
  rw [List.eraseDups_append, List.removeAll, List.filter_singleton]
  by_cases h : a ∈ l
  · simp [h]
  · simp [h, List.eraseDups_cons]

theorem nodup_eraseDups (l : List α) : l.eraseDups.Nodup := by
  induction l using List.reverseRecOn with
  | nil => exact List.nodup_nil
  | append_singleton l a ih =>
      rw [eraseDups_concat]
      split
      · exact ih
      · rename_i ha
        rw [← List.mem_eraseDups] at ha
        rw [← List.concat_eq_append]
        exact ih.concat ha

/-- Whatever is put at the end unless it is there stands where it came first. -/
theorem foldl_putNew_eraseDups (old new : List α) :
    new.foldl (fun acc a ↦ if a ∈ acc then acc else acc ++ [a]) old.eraseDups =
      (old ++ new).eraseDups := by
  induction new generalizing old with
  | nil => rw [List.foldl_nil, List.append_nil]
  | cons a new ih =>
      rw [List.foldl_cons, List.append_cons old, ← ih, eraseDups_concat]
      simp only [List.mem_eraseDups]

theorem eraseDups_filter (p : α → Bool) (l : List α) :
    (l.filter p).eraseDups = l.eraseDups.filter p := by
  induction l using List.reverseRecOn with
  | nil => rfl
  | append_singleton l a ih =>
      rw [eraseDups_concat, List.filter_append]
      cases ha : p a with
      | true =>
          have hmem : a ∈ l.filter p ↔ a ∈ l := by simp [ha]
          rw [List.filter_singleton, ha, cond_true, eraseDups_concat, ih]
          simp only [hmem]
          split
          · rfl
          · simp [ha]
      | false =>
          rw [List.filter_singleton, ha, cond_false, List.append_nil, ih]
          split
          · rfl
          · simp [ha]

/-! ## What comes before what -/

/-- With one thing more at the end, what came before still does, and that thing comes before all
that is not there. -/
theorem idxOf_concat_lt_iff :
    (l ++ [c]).idxOf a < (l ++ [c]).idxOf b ↔
      l.idxOf a < l.idxOf b ∨ (a = c ∧ a ∉ l) ∧ b ∉ l ∧ b ≠ c := by
  have hend {d : α} (hd : d ∉ l) : l.idxOf d = l.length := List.idxOf_eq_length_iff.2 hd
  have hsingle (d : α) : [c].idxOf d = if d = c then 0 else 1 := by
    by_cases hd : d = c <;> simp [hd]
  rw [List.idxOf_append, List.idxOf_append, hsingle, hsingle]
  by_cases ha : a ∈ l
  · have hlt : l.idxOf a < l.length := List.idxOf_lt_length_of_mem ha
    by_cases hb : b ∈ l
    · simp [ha, hb]
    · rw [if_pos ha, if_neg hb, hend hb]
      exact iff_of_true (by omega) (.inl hlt)
  · by_cases hb : b ∈ l
    · have hlt : l.idxOf b < l.length := List.idxOf_lt_length_of_mem hb
      rw [if_neg ha, if_pos hb, hend ha]
      refine iff_of_false (by omega) ?_
      rintro (h | ⟨_, hnot, _⟩)
      · omega
      · exact hnot hb
    · rw [if_neg ha, if_neg hb, hend ha, hend hb]
      have hac : a = c ∧ a ∉ l ↔ a = c := and_iff_left ha
      rw [hac, and_iff_right hb, or_iff_right (Nat.lt_irrefl _)]
      by_cases hac : a = c <;> by_cases hbc : b = c <;> simp [hac, hbc]

/-- What is kept is in the order in which it came first.  What is not there at all counts as coming
behind everything. -/
theorem idxOf_eraseDups_lt_iff (l : List α) (a b : α) :
    l.eraseDups.idxOf a < l.eraseDups.idxOf b ↔ l.idxOf a < l.idxOf b := by
  induction l using List.reverseRecOn with
  | nil => rfl
  | append_singleton l c ih =>
      rw [eraseDups_concat, idxOf_concat_lt_iff]
      split
      · rename_i hc
        have hold : ¬((a = c ∧ a ∉ l) ∧ b ∉ l ∧ b ≠ c) := by
          rintro ⟨⟨rfl, ha⟩, _⟩
          exact ha hc
        rw [ih, or_iff_left hold]
      · rw [idxOf_concat_lt_iff, ih]
        simp only [List.mem_eraseDups]

end GraphQuery
