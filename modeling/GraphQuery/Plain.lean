import GraphQuery.Number.IntegerText
import GraphQuery.Number.Shortest
import GraphQuery.Text.Display

/-!
# Plain data

Data that a caller may hand over without being asked for it: settings, parts of an address, and
arguments of the wrong sort. Messages show it by `display`, addresses by `inText`. Integers with
too many digits are not shown at all. Of some things no more is known than what they are and how
they are shown.
-/

namespace GraphQuery

/-- A piece of plain data. -/
inductive Plain
  | none
  | bool (b : Bool)
  | int (n : Int)
  | float (x : Float)
  | text (s : String)
  /-- A text that has a surrogate by itself. -/
  | broken (t : CodePoints)
  | list (items : List Plain)
  /-- Something of the given sort that is shown in the given way. -/
  | other (typeName shown : String)
deriving Inhabited

namespace Plain

/-- A text of code points as plain data. -/
def ofCodePoints (t : CodePoints) : Plain := t.string?.elim (broken t) text

/-- Plain data as messages show it. -/
def display : Plain → String
  | none => "None"
  | bool b => if b then "True" else "False"
  | int n => toString n
  | float x => Number.floatText x
  | text s => Text.display s
  | broken t => Text.displayCodePoints t
  | list items => "[" ++ ", ".intercalate (items.map display) ++ "]"
  | other _ shown => shown

/-- Plain data inside a composed text, where a text stands for itself. -/
def inText : Plain → String
  | text s => s
  | broken t => t.inText
  | p => p.display

/-- The name of the sort of plain data. -/
def typeName : Plain → String
  | none => "NoneType"
  | bool _ => "bool"
  | int _ => "int"
  | float _ => "float"
  | text _ | broken _ => "str"
  | list _ => "list"
  | other typeName _ => typeName

/-- The integer that plain data counts as: a truth value is one or zero. -/
def integer? : Plain → Option Int
  | int n => some n
  | bool b => some (if b then 1 else 0)
  | _ => Option.none

mutual

/-- Whether there is an integer in plain data that has more digits than are written out. -/
def isOverlong : Plain → Bool
  | int n => Number.isOverlong n
  | list items => anyOverlong items
  | _ => false

/-- Whether there is such an integer in one of several plain data. -/
def anyOverlong : List Plain → Bool
  | [] => false
  | p :: ps => isOverlong p || anyOverlong ps

end

mutual

/-- Whether plain data are equal. Numbers are compared exactly, whatever their sorts. -/
def same : Plain → Plain → Bool
  | none, none => true
  | text s, text t => s = t
  | broken s, broken t => s = t
  | list ps, list qs => sameAll ps qs
  | other t shown, other u seen => t = u && shown = seen
  | float x, float y => x == y
  | float x, p | p, float x => p.integer?.isSome && p.integer? = Number.integer? x
  | p, q => p.integer?.isSome && p.integer? = q.integer?

/-- Whether plain data are equal one by one. -/
def sameAll : List Plain → List Plain → Bool
  | [], [] => true
  | p :: ps, q :: qs => same p q && sameAll ps qs
  | _, _ => false

end

end Plain

end GraphQuery
