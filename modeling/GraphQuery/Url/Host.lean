import GraphQuery.Text.LowerCase
import GraphQuery.Url.Label

/-!
# Hosts

A host is a dotted number, a bracketed number or a name. Numbers must be addresses of their kind and
are kept as they are, without the brackets. Names are written in lower case; one in ASCII is
percent-encoded, and any other is encoded label by label.
-/

namespace GraphQuery.Url

/-- What is wrong with an address. -/
inductive Fault
  | tooLong
  | control (c : Char) (position : Nat)
  | ipv4 (host : String)
  | ipv6 (host : String)
  | name (host : String)
  | port (text : String)
  | relativeSlashes
  | relativeColon
deriving DecidableEq, Repr

/-- Whether a text is four runs of digits with a point between every two of them. -/
def looksLikeIPv4 (cs : List Char) : Bool :=
  let parts := pieces (· = '.') cs
  parts.length = 4 && parts.all fun p ↦ !p.isEmpty && p.all Char.isDigit

/-- Whether a text is a number below 256 without needless zeros. -/
def isOctet (cs : List Char) : Bool :=
  !cs.isEmpty && cs.length ≤ 3 && cs.all Char.isDigit && (cs = ['0'] || cs.head? ≠ some '0') &&
    cs.foldl (fun n d ↦ 10 * n + (d.toNat - 48)) 0 ≤ 255

/-- Whether a text is an IPv4 address. -/
def isIPv4 (cs : List Char) : Bool :=
  let parts := pieces (· = '.') cs
  parts.length = 4 && parts.all isOctet

/-- Whether a text is one to four hexadecimal digits. -/
def isHextet (cs : List Char) : Bool :=
  !cs.isEmpty && cs.length ≤ 4 && cs.all fun c ↦ c.isDigit || ('a' ≤ c.toLower && c.toLower ≤ 'f')

/-- A side of a gap, where a missing side is written as one empty part. -/
def gapSide (parts : List (List Char)) : List (List Char) := if parts = [[]] then [] else parts

/-- Whether parts between colons are an IPv6 address: eight, or at most seven around one gap. -/
def isIPv6Parts : List (List Char) → Bool
  | [] => false
  | p :: ps =>
    match ps.dropWhile (!·.isEmpty) with
    | _ :: after :: rest =>
      let parts := gapSide (p :: ps.takeWhile (!·.isEmpty)) ++ gapSide (after :: rest)
      parts.all isHextet && parts.length ≤ 7
    | _ => (p :: ps).all isHextet && (p :: ps).length = 8

/-- Whether a text is an IPv6 address, which may end in an IPv4 address and may name a zone. -/
def isIPv6 (cs : List Char) : Bool :=
  let zoned := pieces (· = '%') cs
  let parts := pieces (· = ':') (zoned.headD [])
  let last := parts.getLast?.getD []
  let widened :=
    if last.contains '.' then
      parts.dropLast ++ if isIPv4 last then [['0'], ['0']] else [['.']]
    else parts
  !cs.contains '/' && zoned.length ≤ 2 && zoned.tail.all (!·.isEmpty) && isIPv6Parts widened

/-- A host in its normal form. -/
def normalHost (host : List Char) : Except Fault (List Char) :=
  if host.isEmpty then .ok []
  else if looksLikeIPv4 host then
    if isIPv4 host then .ok host else .error (.ipv4 (String.ofList host))
  else if host.head? = some '[' && host.getLast? = some ']' && 2 ≤ host.length then
    if isIPv6 host.tail.dropLast then .ok host.tail.dropLast
    else .error (.ipv6 (String.ofList host))
  else if host.all (·.toNat < 0x80) then .ok (Part.host.encode (host.map Char.toLower))
  else match Label.encodeAll (Text.lower (host.map Char.toNat)) with
    | .ok name => .ok name
    | .error _ => .error (.name (String.ofList host))

end GraphQuery.Url
