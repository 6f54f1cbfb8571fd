import GraphQuery.Error

/-!
# Addresses

What an address is made up of is told by a reader of addresses, which is not part of this library.
An address is accepted for use with a store if it can be read, its scheme is one of HTTP, and it has
a host. Nothing else about it is looked at.
-/

namespace GraphQuery

/-- An address as a reader of addresses tells of it. -/
structure Address where
  /-- The address as it is written out again. -/
  text : String
  scheme : String
  userinfo : String
  /-- The host as it stands in the address. -/
  host : String
  /-- The name of the host, or what keeps it from being told. -/
  name : Except Fault String
  /-- The port, unless it is left out. -/
  port : Option Int
  path : String
  query : Option String
  fragment : Option String

/-- What reads whatever is given as an address. -/
abbrev Reader := Plain → Except Fault Address

/-- Whether an address is one of HTTP. -/
def Address.isHttp (a : Address) : Bool := a.scheme = "http" || a.scheme = "https"

/-- Accepts an address for use with a store. -/
def Address.validate (read : Reader) (given : Plain) : Except Error Address :=
  match read given with
  | .error f =>
    .error (if f.kind.deniesAddress then .invalidUrl given f.message else .fault f)
  | .ok a =>
    if !a.isHttp then
      .error (.invalidUrl given ("unsupported scheme " ++ Text.display a.scheme))
    else match a.name with
      | .error f => .error (.fault f)
      | .ok name => if name = "" then .error (.invalidUrl given "missing host") else .ok a

end GraphQuery
