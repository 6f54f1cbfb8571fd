import GraphQuery.Signature
import GraphQuery.Workspace.Basic

/-!
# What operations take

Every operation of an object has a signature, by which its arguments are checked before anything
else happens. Some operations of paths belong to one sort of path only; others are properties, which
take nothing and are not checked. Arguments that may be left out select nothing in particular.
-/

namespace GraphQuery.Session

/-- The paths that have an operation. -/
inductive Family
  /-- All paths. -/
  | path
  /-- The paths that can be ended. -/
  | query
  /-- The morphisms. -/
  | morphism

namespace Family

/-- A family of paths in messages. -/
def word : Family → String
  | path => "Path"
  | query => "Query"
  | morphism => "Reusable"

/-- Whether a path with or without a label belongs to a family. -/
def admits (family : Family) (label : Option Label) : Bool :=
  match family with
  | path => true
  | query => label.isNone
  | morphism => label.isSome

/-- The signature of an operation. -/
def signature (family : Family) (name : String) (required optional : List String) :
    Family × Signature :=
  (family, ⟨family.word ++ "." ++ name, some "self", required, optional⟩)

end Family

/-- The paths that have an operation, and what it takes. -/
def pathSignature? (name : String) : Option (Family × Signature) :=
  match name with
  | "out" | "in_" | "both" | "save" => some (Family.path.signature name [] ["predicates", "tags"])
  | "has" => some (Family.path.signature name [] ["predicates", "nodes"])
  | "is_" => some (Family.path.signature name [] ["nodes"])
  | "tag" | "as_" | "back" => some (Family.path.signature name [] ["tags"])
  | "and_" | "intersect" | "or_" | "union" => some (Family.path.signature name ["other"] [])
  | "follow" | "follow_r" => some (Family.path.signature name ["reusable"] [])
  | "compile" | "copy" | "is_finalized" | "followed" => some (Family.path.signature name [] [])
  | "all" | "to_array" | "to_value" | "tag_array" | "tag_value" =>
    some (Family.query.signature name [] [])
  | "get_limit" => some (Family.query.signature name ["limit"] [])
  | "mark_saved" | "is_saved" | "save_statement" => some (Family.morphism.signature name [] [])
  | "save_statement_as" => some (Family.morphism.signature name ["name"] [])
  | _ => none

/-- What starting a path at vertices takes. -/
def startSignature : Signature := ⟨"Vertex.start", some "cls", [], ["nodes"]⟩

/-- What an operation of a store takes. -/
def storeSignature? (name : String) : Option Signature :=
  match name with
  | "find" | "exec" => some ⟨"Graph." ++ name, some "self", ["query"], []⟩
  | "save" => some ⟨"Graph.save", some "self", ["reusable"], []⟩
  | "save_as" => some ⟨"Graph.save_as", some "self", ["reusable", "name"], []⟩
  | "close" => some ⟨"Graph.close", some "self", [], []⟩
  | _ => none

/-- What an operation of a link takes. -/
def linkSignature? (name : String) : Option Signature :=
  match name with
  | "send" => some ⟨"HttpTransport.send", some "self", ["query"], []⟩
  | "close" => some ⟨"HttpTransport.close", some "self", [], []⟩
  | _ => none

/-- What an operation of a result set takes. -/
def resultSignature? (name : String) : Option Signature :=
  let signature (required : List String) : Option Signature :=
    some ⟨"GraphNodes." ++ name, some "self", required, []⟩
  match name with
  | "row_count" | "column_names" | "is_empty" | "rows" | "ids" => signature []
  | "get_row" => signature ["index"]
  | "first" | "deserialize_rows" => signature ["target_type"]
  | "deserialize_row" => signature ["row", "target_type"]
  | _ => none

/-- What writing arguments takes. -/
def formatSignature (kind : String) : Signature :=
  match kind with
  | "names" => ⟨"format_names", none, ["selector"], []⟩
  | "predicates" => ⟨"format_predicates", none, ["predicates"], []⟩
  | _ => ⟨"format_arguments", none, ["predicates", "second"], []⟩

/-- An argument by position, or what stands for it if it is left out. -/
def argumentOr (args : List Value) (position : Nat) (default : Value) : Value :=
  args[position]?.getD default

/-- The selector that stands for predicates which are left out. -/
def anyPredicate : Value := .selector (.predicates (.named .any))

/-- The selector that stands for names of an axis which are left out. -/
def anyOf : Axis → Value
  | .node => .selector (.nodes .any)
  | .tag => .selector (.tags .any)
  | .predicate => anyPredicate

/-- An argument that is there. -/
def argument (args : List Value) (position : Nat) : Value := argumentOr args position .none

/-- Checks the arguments of an operation if it has a signature. -/
def checkArguments (signature : Option Signature) (args : List Value) : Action Unit :=
  signature.forM fun s ↦ Work.expectArguments s args

end GraphQuery.Session
