import GraphQuery.Address
import GraphQuery.Url.Host
import GraphQuery.Url.Label
import GraphQuery.Url.Split

/-!
# Reading addresses

An address is split at its delimiters; then every part is brought to its normal form. `Url.reader`
is the reader of addresses that does so.
-/

namespace GraphQuery

/-- An address in its normal form. -/
structure Url where
  scheme : List Char
  userinfo : List Char
  host : List Char
  port : Option Int
  path : List Char
  query : Option (List Char)
  fragment : Option (List Char)
deriving DecidableEq, Repr

namespace Url

/-- The wording of a fault. -/
def Fault.text : Fault → String
  | tooLong => "URL too long"
  | control c position =>
    "Invalid non-printable ASCII character in URL, " ++ Text.display (String.singleton c) ++
      " at position " ++ toString position ++ "."
  | ipv4 host => "Invalid IPv4 address: " ++ Text.display host
  | ipv6 host => "Invalid IPv6 address: " ++ Text.display host
  | name host => "Invalid IDNA hostname: " ++ Text.display host
  | port text => "Invalid port: " ++ Text.display text
  | relativeSlashes => "Relative URLs cannot have a path starting with '//'"
  | relativeColon => "Relative URLs cannot have a path starting with ':'"

/-- The port that a scheme stands for. -/
def defaultPort? (scheme : List Char) : Option Int :=
  match String.ofList scheme with
  | "ftp" => some 21
  | "http" | "ws" => some 80
  | "https" | "wss" => some 443
  | _ => none

/-- A port in its normal form: left out if it is the one of the scheme as written. -/
def normalPort (scheme port : List Char) : Except Fault (Option Int) :=
  if port.isEmpty then .ok none
  else match Number.readInteger? port with
    | some n => .ok (if defaultPort? scheme = some n then none else some n)
    | none => .error (.port (String.ofList port))

/-- Path components without those that stand for the same or the parent directory. -/
def dropDots (components : List (List Char)) : List (List Char) :=
  components.foldl (fun kept c ↦
    if c = ['.'] then kept
    else if c = ['.', '.'] then (if kept = [] || kept = [[]] then kept else kept.dropLast)
    else kept ++ [c]) []

/-- A path in its normal form. -/
def normalPath (path : List Char) : List Char :=
  let components := pieces (· = '/') path
  if components.contains ['.'] || components.contains ['.', '.'] then
    ['/'].intercalate (dropDots components)
  else path

/-- The longest address that is read. -/
def lengthLimit : Nat := 65536

/-- Whether a character is an ASCII control character. -/
def isControl (c : Char) : Bool := c.toNat < 0x20 || c.toNat = 0x7f

/-- The address that a text is written for, in its normal form. -/
def ofChars (cs : List Char) : Except Fault Url := do
  if lengthLimit < cs.length then throw .tooLong
  if let some c := cs.find? isControl then
    throw (.control c (cs.takeWhile (!isControl ·)).length)
  let parts := split cs
  let (userinfo, rest) := splitUserinfo parts.authority
  let (host, port) := splitHost rest
  let scheme := parts.scheme.map Char.toLower
  let userinfo := Part.userinfo.encode userinfo
  let host ← normalHost host
  let port ← normalPort parts.scheme port
  let absolute := !scheme.isEmpty || !userinfo.isEmpty || !host.isEmpty || port.isSome
  if !absolute && parts.path.take 2 = ['/', '/'] then throw .relativeSlashes
  if !absolute && parts.path.take 1 = [':'] then throw .relativeColon
  let path := if absolute then normalPath parts.path else parts.path
  return ⟨scheme, userinfo, host, port, Part.path.encode path,
    parts.query.map Part.query.encode, parts.fragment.map Part.fragment.encode⟩

/-- The authority of an address. -/
def authority (u : Url) : List Char :=
  (if u.userinfo.isEmpty then [] else u.userinfo ++ ['@']) ++
    (if u.host.contains ':' then '[' :: (u.host ++ [']']) else u.host) ++
    match u.port with
    | some n => ':' :: (toString n).toList
    | none => []

/-- The text of an address. -/
def chars (u : Url) : List Char :=
  (if u.scheme.isEmpty then [] else u.scheme ++ [':']) ++
    (if u.authority.isEmpty then [] else '/' :: '/' :: u.authority) ++
    u.path ++
    (match u.query with
      | some q => '?' :: q
      | none => []) ++
    match u.fragment with
      | some f => '#' :: f
      | none => []

/-- The text of an address. -/
def text (u : Url) : String := String.ofList u.chars

/-- The host of an address as it is read: its labels are decoded if the first one is encoded. -/
def readHost (u : Url) : Except LabelFault (List Nat) :=
  if u.host.take 4 = Label.encodingMark then Label.decodeAll u.host
  else .ok (u.host.map Char.toNat)

/-- What about a label is wrong. -/
def LabelFault.matter : LabelFault → LabelMatter
  | character _ _ _ => .character
  | joiner _ _ _ | context _ _ _ => .context
  | noDirection _ _ | firstDirection _ | rightToLeft _ | leftToRight _ | mixedNumbers
  | lastDirection => .direction
  | _ => .form

/-- The host as it stands in the address. -/
def writtenHost (u : Url) : List Char :=
  if u.host.contains ':' then '[' :: (u.host ++ [']']) else u.host

/-- What is told of an address in its normal form. -/
def address (u : Url) : Address where
  text := u.text
  scheme := String.ofList u.scheme
  userinfo := String.ofList u.userinfo
  host := String.ofList u.writtenHost
  name :=
    match u.readHost with
    | .ok host => .ok (String.ofList (host.map Char.ofNat))
    | .error f => .error ⟨.label f.matter, f.message⟩
  port := u.port
  path := String.ofList u.path
  query := u.query.map String.ofList
  fragment := u.fragment.map String.ofList

/-- Reads addresses, which only texts can be. -/
def reader : Reader
  | .text s =>
    match ofChars s.toList with
    | .ok u => .ok u.address
    | .error f => .error ⟨.address, f.text⟩
  | p =>
    .error (if p.isOverlong then .overlong
      else ⟨.type, "Invalid type for url.  Expected str or httpx.URL, got <class " ++
        Text.display p.typeName ++ ">: " ++ p.display⟩)

end Url

end GraphQuery
