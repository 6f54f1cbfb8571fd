import GraphQuery.Text.Display

/-!
# Faults of other parties

A transport, an HTTP client or a record constructor may fail in its own way. What matters here is
where such a fault may be turned into an error of this library: an exchange that failed is reported
as a failed request, a request that could not be made as a malformed one, and a constructor that
was called wrongly as a row that cannot be turned into a record. All other faults pass through.
-/

namespace GraphQuery

/-- The ways in which an exchange over HTTP fails. -/
inductive Exchange
  | connect | connectTimeout | readTimeout | writeTimeout | poolTimeout
  | read | write | close
  | remoteProtocol | localProtocol | proxy | unsupportedProtocol
  | decoding | redirects
  | timeout | network | protocol | transport | request | unspecified
deriving DecidableEq, Repr

/-- What about a label of a host name is not acceptable. -/
inductive LabelMatter
  | form | character | context | direction
deriving DecidableEq, Repr

/-- What kind of fault it is. -/
inductive FaultKind
  /-- The exchange with the server failed. -/
  | exchange (way : Exchange)
  /-- An address is not usable. -/
  | address
  /-- Two cookies contradict each other. -/
  | cookies
  /-- A value is not acceptable. -/
  | value
  /-- A text cannot be encoded. -/
  | encoding
  /-- A label of a host name is not acceptable. -/
  | label (matter : LabelMatter)
  /-- A value is of the wrong sort, or a call does not fit. -/
  | type
  /-- A key is missing. -/
  | key
  /-- An object lacks something, or does not let it be changed. -/
  | attribute
  /-- A definition cannot be read. -/
  | grammar
  /-- Something that must not happen at this moment. -/
  | runtime
  /-- The operating system refused. -/
  | system
  /-- Any other kind, by its name. -/
  | other (name : String)
deriving DecidableEq, Repr

/-- Whether the fault says that an exchange over HTTP failed. -/
def FaultKind.isExchange : FaultKind → Bool
  | exchange _ => true
  | _ => false

/-- Whether the fault says that a request could not be made from what was given. What cannot be
encoded, and labels that are not acceptable, are values that are not acceptable. -/
def FaultKind.isConstruction : FaultKind → Bool
  | address | value | encoding | label _ | type => true
  | _ => false

/-- Whether the fault says that what is given is no address. -/
def FaultKind.deniesAddress : FaultKind → Bool
  | address | type => true
  | _ => false

/-- A fault and what it says. -/
structure Fault where
  kind : FaultKind
  detail : String
deriving DecidableEq, Repr

/-- The message of a fault; a missing key is displayed. -/
def Fault.message (f : Fault) : String :=
  match f.kind with
  | .key => Text.display f.detail
  | _ => f.detail

/-- The fault of writing out an integer that has too many digits. -/
def Fault.overlong : Fault :=
  ⟨.value, "Exceeds the limit (4300 digits) for integer string conversion; " ++
    "use sys.set_int_max_str_digits() to increase the limit"⟩

end GraphQuery
