import GraphQuery.Endpoint
import GraphQuery.Settings.NumberText

/-!
# Settings of a connection

Every setting may be given directly, under its name, or by a variable of the environment, whose name
starts with `CAYLEY_`. Names are read without regard to case; a setting given directly wins, and one
that is given nowhere has a default. All refused settings are reported together.
-/

namespace GraphQuery

/-- Where a store is and how long to wait for it. -/
structure Settings where
  host : String
  port : Int
  apiVersion : String
  scheme : String
  timeout : Float

namespace Settings

/-- The integer that a double is equal to, within 63 bits and a sign. -/
def integerOfFloat (x : Float) : Except SettingFault Int :=
  if x.isNaN || x.isInf then .error .finiteNumber
  else match Number.integer? x with
    | none => .error .integerFraction
    | some n => if Number.twoPow 63 ≤ n.natAbs then .error .integerSize else .ok n

/-- Plain data as an integer setting. -/
def toInteger : Plain → Except SettingFault Int
  | .int n => .ok n
  | .bool b => .ok (if b then 1 else 0)
  | .float x => integerOfFloat x
  | .text s => readInteger s.toList
  | .broken _ => .error .stringUnicode
  | .none | .list _ | .other _ _ => .error .integerType

/-- The double nearest to an integer. -/
def floatOfInteger (n : Int) : Float :=
  let x := Number.nearest n.natAbs 0
  if n < 0 then -x else x

/-- Plain data as a setting that is a number. An integer beyond all doubles is none. -/
def toFloat : Plain → Except SettingFault Float
  | .int n => if (floatOfInteger n).isInf then .error .floatType else .ok (floatOfInteger n)
  | .bool b => .ok (if b then 1.0 else 0.0)
  | .float x => .ok x
  | .text s => readFloat s.toList
  | .broken _ => .error .stringUnicode
  | .none | .list _ | .other _ _ => .error .floatType

/-- Plain data as a setting that is a text. -/
def toText : Plain → Except SettingFault String
  | .text s => .ok s
  | .broken _ => .error .stringUnicode
  | _ => .error .stringType

/-- The value of a field: given directly, by the environment, or by default. Of names that differ
only in case the first one counts if given directly, and the last one in the environment. -/
def lookup (environment : List (String × String)) (given : List (String × Plain))
    (field : String) (default : Plain) : Plain :=
  match given.find? fun g ↦ g.1.toLower = field with
  | some g => g.2
  | none =>
    match environment.reverse.find? fun v ↦ v.1.toLower = "cayley_" ++ field with
    | some v => .text v.2
    | none => default

/-- What is wrong with a field, if anything is. -/
def errorOf {α : Type} (field : String) : Except SettingFault α → List SettingError
  | .ok _ => []
  | .error f => [⟨field, f⟩]

/-- The settings that result from an environment and from what is given directly. -/
def read (environment : List (String × String)) (given : List (String × Plain)) :
    Except Error Settings :=
  let find := lookup environment given
  let host := toText (find "host" Endpoint.default.host)
  let port := toInteger (find "port" Endpoint.default.port)
  let version := toText (find "api_version" Endpoint.default.version)
  let scheme := toText (find "scheme" Endpoint.default.scheme)
  let timeout := toFloat (find "timeout" (.float 30.0))
  match host, port, version, scheme, timeout with
  | .ok host, .ok port, .ok version, .ok scheme, .ok timeout =>
    .ok ⟨host, port, version, scheme, timeout⟩
  | _, _, _, _, _ =>
    .error (.settings (errorOf "host" host ++ errorOf "port" port ++
      errorOf "api_version" version ++ errorOf "scheme" scheme ++ errorOf "timeout" timeout))

/-- The endpoint that settings stand for. -/
def endpoint (s : Settings) : Endpoint :=
  { Endpoint.default with
    host := .text s.host
    port := .int s.port
    version := .text s.apiVersion
    scheme := .text s.scheme }

end Settings

end GraphQuery
