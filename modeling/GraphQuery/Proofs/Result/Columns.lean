import GraphQuery.Proofs.FirstSeen
import GraphQuery.Result.Row

/-!
# Columns of result sets

The columns of a result set are collected row by row, and within a row column by column, and each is
put at the end of the list unless it is there.  So they are the columns of all rows one after the
other, each where it came first (`columnNames_eq_eraseDups`), and what is collected from two result
sets put together is what is collected from the first and then what is new in the second.
-/

namespace GraphQuery.ResultSet

/-- The columns of all rows one after the other, as often as they occur. -/
def allKeys (rs : ResultSet) : List CodePoints := rs.rows.flatMap Row.keys

/-- The rows of two result sets one after the other. -/
def append (rs ss : ResultSet) : ResultSet := ⟨rs.rows ++ ss.rows⟩

theorem allKeys_append (rs ss : ResultSet) : (rs.append ss).allKeys = rs.allKeys ++ ss.allKeys :=
  List.flatMap_append

/-- A row adds what is new in it. -/
theorem addNames_eraseDups (names new : List CodePoints) :
    addNames names.eraseDups new = (names ++ new).eraseDups :=
  foldl_putNew_eraseDups names new

/-- Rows add what is new in them one after the other. -/
theorem foldl_addNames_eraseDups (names : List CodePoints) (rows : List Row) :
    rows.foldl (fun names row ↦ addNames names row.keys) names.eraseDups =
      (names ++ rows.flatMap Row.keys).eraseDups := by
  induction rows generalizing names with
  | nil => rw [List.foldl_nil, List.flatMap_nil, List.append_nil]
  | cons row rows ih =>
      rw [List.foldl_cons, addNames_eraseDups, ih, List.flatMap_cons, List.append_assoc]

/-- Each column is collected where it comes first. -/
theorem columnNames_eq_eraseDups (rs : ResultSet) : rs.columnNames = rs.allKeys.eraseDups :=
  foldl_addNames_eraseDups [] rs.rows

theorem mem_columnNames {rs : ResultSet} {k : CodePoints} :
    k ∈ rs.columnNames ↔ ∃ row ∈ rs.rows, k ∈ row.keys := by
  rw [columnNames_eq_eraseDups, List.mem_eraseDups, allKeys, List.mem_flatMap]

/-- The second of two result sets adds the columns that the first one does not have. -/
theorem columnNames_append (rs ss : ResultSet) : (rs.append ss).columnNames =
    rs.columnNames ++ ss.columnNames.filter (· ∉ rs.columnNames) := by
  have hnew : ss.allKeys.removeAll rs.allKeys = ss.allKeys.filter (· ∉ rs.columnNames) := by
    refine List.filter_congr fun k _ ↦ ?_
    simp [columnNames_eq_eraseDups, List.elem_eq_contains]
  rw [columnNames_eq_eraseDups, allKeys_append, List.eraseDups_append, hnew, eraseDups_filter,
    ← columnNames_eq_eraseDups, ← columnNames_eq_eraseDups]

/-- The columns of a result set.  None is listed twice, and listed are those that some row has; they
are in the order in which they come first when all rows are read one after the other; and rows that
are put behind others add their columns that are new, in the order in which they list them. -/
theorem columnNames_firstSeen (rs : ResultSet) :
    rs.columnNames.Nodup ∧
    (∀ k, k ∈ rs.columnNames ↔ ∃ row ∈ rs.rows, k ∈ row.keys) ∧
    (∀ a b, rs.columnNames.idxOf a < rs.columnNames.idxOf b ↔
      rs.allKeys.idxOf a < rs.allKeys.idxOf b) ∧
    ∀ ss : ResultSet, (rs.append ss).columnNames =
      rs.columnNames ++ ss.columnNames.filter (· ∉ rs.columnNames) := by
  refine ⟨?_, ?_, ?_, ?_⟩
  · rw [columnNames_eq_eraseDups]
    exact nodup_eraseDups _
  · intro k
    exact mem_columnNames
  · intro a b
    rw [columnNames_eq_eraseDups]
    exact idxOf_eraseDups_lt_iff rs.allKeys a b
  · exact columnNames_append rs

end GraphQuery.ResultSet
