import GraphQuery.Value

/-!
# Equality of values

Selectors, plain data and rows are equal if what they hold is, and a list is equal to a list as a
tuple is to a tuple, one item after the other. Records are equal if they are of one sort and their
fields are equal. Paths, stores, links and what rows may be turned into are equal only to
themselves. A record whose sort has a text that stands for comparing cannot be compared with
anything.

Something can be looked up by what it is equal to only if that never changes. Lists, rows, result
sets and records are taken for things that may.
-/

namespace GraphQuery.Value

/-- Whether plain data and values are equal one by one. -/
def samePlains (ps : List Plain) (vs : List Value) : Bool :=
  ps.length = vs.length && (ps.zip vs).all fun x ↦
    match x.2 with
    | plain q => x.1.same q
    | _ => false

/-- Whether two records are equal, given the identities of their sorts. -/
def sameRecord (i j : TargetId) (r s : Record) : Bool :=
  i = j && r.fields.length = s.fields.length &&
    (r.fields.zip s.fields).all fun p ↦ p.1.2.same p.2.2

/-- Whether two values that have no items are equal. -/
def sameAtom : Value → Value → Bool
  | plain p, plain q => p.same q
  | bytes as, bytes bs => as = bs
  | selector s, selector t => s.same t
  | foundBy _, selector (.predicates (.found _)) | selector (.predicates (.found _)), foundBy _
  | foundBy _, foundBy _ => true
  | path i, path j => i = j
  | store i, store j => i = j
  | link i, link j => i = j
  | row r, row s => Row.same r s
  | results rs, results ss => rs.same ss
  | record i r, record j s => sameRecord i j r s
  | target _ .row, target _ .row => true
  | target i _, target j _ => i = j
  | _, _ => false

/-- Whether a value cannot be compared with anything. -/
def isIncomparable (v : Value) : Bool := v.hasTextOf ["__eq__", "__getattribute__"]

mutual

/-- Compares two values. -/
def compare : Value → Value → Except Fault Bool
  | plain (.list ps), list vs | list vs, plain (.list ps) => .ok (samePlains ps vs)
  | list us, list vs => if us.length = vs.length then compareAll us vs else .ok false
  | tuple us, tuple vs => if us.length = vs.length then compareAll us vs else .ok false
  | u, v =>
    if u.isIncomparable || v.isIncomparable then .error .textCalled else .ok (sameAtom u v)

/-- Compares values one by one, until two are not equal. What is the same is not compared. -/
def compareAll : List Value → List Value → Except Fault Bool
  | u :: us, v :: vs => do
    let isSame :=
      match u, v with
      | record i r, record j s => sameRecord i j r s
      | _, _ => false
    if isSame then compareAll us vs
    else if ← compare u v then compareAll us vs
    else return false
  | [], [] => return true
  | _, _ => return false

end

/-- Whether a value is equal to itself, as all are but a number that is undefined. -/
def isSame : Value → Bool
  | plain (.float x) => x == x
  | _ => true

/-- Which of the given values are equal to which. -/
def equalities (vs : List Value) : Except Fault (List (List Bool)) :=
  vs.zipIdx.mapM fun (u, i) ↦ vs.zipIdx.mapM fun (v, j) ↦
    if i = j then return u.isSame else u.compare v

mutual

/-- The first part of a value that may change. -/
def changeable? : Value → Option Value
  | tuple items => firstChangeable? items
  | plain (.list items) => some (plain (.list items))
  | list items => some (list items)
  | row r => some (row r)
  | results rs => some (results rs)
  | record i r => some (record i r)
  | _ => Option.none

/-- The first part of some values that may change. -/
def firstChangeable? : List Value → Option Value
  | [] => Option.none
  | v :: vs => (changeable? v).or (firstChangeable? vs)

end

end GraphQuery.Value
