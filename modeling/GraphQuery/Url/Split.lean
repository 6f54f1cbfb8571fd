/-!
# The parts of addresses

An address is split at its delimiters into scheme, authority, path, query and fragment, and the
authority into user information, host and port. This is the generic syntax of addresses, which says
where the parts begin and end, and nothing of what may stand in them.
-/

namespace GraphQuery.Url

/-- The parts of an address as they are written. -/
structure Split where
  scheme : List Char
  authority : List Char
  path : List Char
  query : Option (List Char)
  fragment : Option (List Char)
deriving DecidableEq, Repr

/-- Whether a character may continue a scheme. -/
def isSchemePart (c : Char) : Bool := c.isAlphanum || c = '+' || c = '.' || c = '-'

/-- The scheme at the front of an address, which may be empty, and what follows its colon. -/
def splitScheme (cs : List Char) : List Char × List Char :=
  let scheme := if cs.head?.any Char.isAlpha then cs.takeWhile isSchemePart else []
  match cs.drop scheme.length with
  | ':' :: rest => (scheme, rest)
  | _ => ([], cs)

/-- The authority behind two slashes, and what follows it. -/
def splitAuthority : List Char → List Char × List Char
  | '/' :: '/' :: rest =>
    let isInside (c : Char) : Bool := c ≠ '/' && c ≠ '?' && c ≠ '#'
    (rest.takeWhile isInside, rest.dropWhile isInside)
  | cs => ([], cs)

/-- The query behind a question mark, and what follows it. -/
def splitQuery : List Char → Option (List Char) × List Char
  | '?' :: rest => (some (rest.takeWhile (· ≠ '#')), rest.dropWhile (· ≠ '#'))
  | cs => (none, cs)

/-- The parts of an address. -/
def split (cs : List Char) : Split :=
  let (scheme, rest) := splitScheme cs
  let (authority, rest) := splitAuthority rest
  let isInside (c : Char) : Bool := c ≠ '?' && c ≠ '#'
  let (query, fragment) := splitQuery (rest.dropWhile isInside)
  ⟨scheme, authority, rest.takeWhile isInside, query,
    match fragment with
    | '#' :: f => some f
    | _ => none⟩

/-- The user information before the last at-sign, and what follows it. -/
def splitUserinfo (authority : List Char) : List Char × List Char :=
  if authority.contains '@' then
    let host := (authority.reverse.takeWhile (· ≠ '@')).reverse
    (authority.take (authority.length - host.length - 1), host)
  else ([], authority)

/-- The host, up to the last closing bracket if it starts with an opening one, and what follows it
behind an optional colon. -/
def splitHost (cs : List Char) : List Char × List Char :=
  let host :=
    if cs.head? = some '[' && cs.contains ']' then
      cs.take (cs.length - (cs.reverse.takeWhile (· ≠ ']')).length)
    else cs.takeWhile (· ≠ ':')
  match cs.drop host.length with
  | ':' :: port => (host, port)
  | port => (host, port)

namespace Split

/-- The user information in the authority. -/
def userinfo (s : Split) : List Char := (splitUserinfo s.authority).1

/-- The host in the authority. -/
def host (s : Split) : List Char := (splitHost (splitUserinfo s.authority).2).1

/-- The port in the authority. -/
def port (s : Split) : List Char := (splitHost (splitUserinfo s.authority).2).2

end Split

end GraphQuery.Url
