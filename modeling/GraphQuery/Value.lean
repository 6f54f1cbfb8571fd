import GraphQuery.Result.Record
import GraphQuery.Selector

/-!
# Values

A session passes values of all sorts around, right ones and wrong ones. Paths, stores and links are
passed by identity, all else as it is. What rows may be turned into has an identity, too, and so
have the records that were made of rows: that of their sort.

Objects of other classes are left out, and with them methods that a caller wrote. So of all values
that can be copied only a path can be compiled.
-/

namespace GraphQuery

/-- The identity of a store among all stores of a workspace. -/
abbrev StoreId := Nat

/-- The identity of a link among all links of a workspace. -/
abbrev LinkId := Nat

/-- The identity of something that rows may be turned into. -/
abbrev TargetId := Nat

/-- Whatever a session can pass to a call or get from one. -/
inductive Value
  | plain (p : Plain)
  | bytes (bs : List UInt8)
  | selector (s : Selector)
  | path (id : PathId)
  | store (id : StoreId)
  | link (id : LinkId)
  | row (r : Row)
  | results (rs : ResultSet)
  | target (id : TargetId) (t : Target)
  | record (sort : TargetId) (r : Record)
  | list (items : List Value)
  | tuple (items : List Value)
  /-- A selector of the predicates that something is taken to find which is no path. It was copied,
  but it cannot be compiled. -/
  | foundBy (query : Value)
deriving Inhabited

namespace Value

/-- No value. -/
def none : Value := plain .none

/-- A truth value. -/
def bool (b : Bool) : Value := plain (.bool b)

/-- A text. -/
def text (s : String) : Value := plain (.text s)

/-- A natural number. -/
def count (n : Nat) : Value := plain (.int n)

/-- A text of code points. -/
def codePoints (t : CodePoints) : Value := plain (.ofCodePoints t)

/-- A list of texts. -/
def texts (l : List CodePoints) : Value := list (l.map codePoints)

/-- A tuple of texts. -/
def textTuple (l : List String) : Value := tuple (l.map text)

/-- What a row was turned into by a target, as a value. -/
def ofInstance (id : TargetId) : Instance → Value
  | .record r => record id r
  | .row r => row r

/-- The node, tag or predicate names that a value selects on a given axis. -/
def choice? (axis : Axis) : Value → Option Choice
  | selector s => s.choice? axis
  | _ => Option.none

/-- The predicates that a value selects. -/
def predicates? : Value → Option Predicates
  | selector s => s.predicates?
  | _ => Option.none

/-- Whether a value is a list or a row. These can be copied, and as they never change each is its
own copy. -/
def isContainer : Value → Bool
  | plain (.list _) | list _ | row _ => true
  | _ => false

/-- What can be read off a value by name. -/
def attributes : Value → List (String × Value)
  | selector (.nodes c) | selector (.tags c) | selector (.predicates (.named c)) =>
    match c with
    | .any => []
    | .one name => [("name", text name)]
    | .many names => [("names", textTuple names)]
  | foundBy query => [("query", query)]
  | record _ r => r.fields.map fun f ↦ (f.1, plain f.2)
  | target _ (.schema s) => s.ownTexts.map fun t ↦ (t.1, text t.2)
  | _ => []

/-- The names that can be read off a value: those of a list selector, or the characters of a text
that a sort of record has under that name. -/
def names? : Value → Option (List String)
  | selector s => s.names?
  | target _ (.schema s) => (s.ownTexts.lookup "names").map fun t ↦ t.toList.map Char.toString
  | _ => Option.none

/-- Whether a value is a record whose sort has a text for one of some fields. -/
def hasTextOf (fields : List String) : Value → Bool
  | record _ r => r.hasTextOf fields
  | _ => false

/-- The integer that a value counts as. -/
def integer? : Value → Option Int
  | plain p => p.integer?
  | _ => Option.none

/-- The sort and the items of a value that is a series. -/
def series? : Value → Option (Series × List Value)
  | plain (.list items) => some (.list, items.map plain)
  | list items => some (.list, items)
  | results rs => some (.list, rs.rows.map row)
  | tuple items => some (.tuple, items)
  | plain (.text s) => some (.text, s.toList.map fun c ↦ text c.toString)
  | plain (.broken t) => some (.text, t.toList.map fun p ↦ codePoints ⟨[p]⟩)
  | bytes bs => some (.bytes, bs.map fun b ↦ count b.toNat)
  | _ => Option.none

/-- The items of a value, which for a row are its columns. -/
def items? : Value → Option (List Value)
  | row r => some (r.keys.map codePoints)
  | v => v.series?.map Prod.snd

end Value

end GraphQuery
