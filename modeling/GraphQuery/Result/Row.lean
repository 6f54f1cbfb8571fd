import GraphQuery.Series
import GraphQuery.Text.Display

/-!
# Rows and result sets

A row gives texts to columns, in order and each column once. Columns and texts are what JSON has, so
they may hold surrogates by themselves. A result set is a list of rows in the order in which the
store returned them. Two rows are equal if they give the same texts to the same columns, in whatever
order; two result sets are equal if their rows are, one by one.
-/

namespace GraphQuery

/-- Columns and their texts, in order. -/
abbrev Row := List (CodePoints × CodePoints)

namespace Row

/-- The row that results from setting columns one after the other. -/
def ofPairs (pairs : List (CodePoints × CodePoints)) : Row :=
  pairs.foldl (fun row p ↦ setMember p.1 p.2 row) []

/-- The columns of a row. -/
def keys (row : Row) : List CodePoints := row.map Prod.fst

/-- Whether two rows give the same texts to the same columns. -/
def same (r s : Row) : Bool :=
  r.length = s.length && r.all fun p ↦ s.lookup p.1 == some p.2

/-- A row as messages show it. -/
def display (row : Row) : String :=
  "\x7b" ++ ", ".intercalate (row.map fun p ↦
    Text.displayCodePoints p.1 ++ ": " ++ Text.displayCodePoints p.2) ++ "\x7d"

end Row

/-- The rows of an answer in order. -/
structure ResultSet where
  rows : List Row
deriving DecidableEq, Repr

namespace ResultSet

/-- The result set without rows. -/
def empty : ResultSet := ⟨[]⟩

/-- How many rows there are. -/
def count (rs : ResultSet) : Nat := rs.rows.length

/-- Whether there are no rows. -/
def isEmpty (rs : ResultSet) : Bool := rs.rows.isEmpty

/-- The row at a position from the front. -/
def row? (rs : ResultSet) (index : Int) : Option Row := itemFromFront? rs.rows index

/-- Adds what is not there yet, in order. -/
def addNames (names new : List CodePoints) : List CodePoints :=
  new.foldl (fun acc k ↦ if k ∈ acc then acc else acc ++ [k]) names

/-- The columns of all rows, each once, in order of first appearance. -/
def columnNames (rs : ResultSet) : List CodePoints :=
  rs.rows.foldl (fun names row ↦ addNames names row.keys) []

/-- The texts of the column `id`, from the rows that have it. -/
def ids (rs : ResultSet) : List CodePoints :=
  rs.rows.filterMap fun row ↦ row.lookup (.ofString "id")

/-- Whether two result sets have equal rows in the same order. -/
def same (rs ss : ResultSet) : Bool :=
  rs.count = ss.count && (rs.rows.zip ss.rows).all fun p ↦ Row.same p.1 p.2

/-- A result set as messages show it. -/
def display (rs : ResultSet) : String :=
  "GraphNodes([" ++ ", ".intercalate (rs.rows.map Row.display) ++ "])"

end ResultSet

end GraphQuery
