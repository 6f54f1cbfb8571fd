/-!
# Faults in settings

A setting is refused for one of a few reasons, each with a short code and a wording of its own.
-/

namespace GraphQuery

/-- Why the value of a setting is refused. -/
inductive SettingFault
  | integerParsing | integerType | integerFraction | integerSize | finiteNumber
  | floatParsing | floatType
  | stringType | stringUnicode
deriving DecidableEq, Repr

/-- The code of a reason. -/
def SettingFault.code : SettingFault → String
  | integerParsing => "int_parsing"
  | integerType => "int_type"
  | integerFraction => "int_from_float"
  | integerSize => "int_parsing_size"
  | finiteNumber => "finite_number"
  | floatParsing => "float_parsing"
  | floatType => "float_type"
  | stringType => "string_type"
  | stringUnicode => "string_unicode"

/-- The wording of a reason. -/
def SettingFault.message : SettingFault → String
  | integerParsing => "Input should be a valid integer, unable to parse string as an integer"
  | integerType => "Input should be a valid integer"
  | integerFraction => "Input should be a valid integer, got a number with a fractional part"
  | integerSize => "Unable to parse input string as an integer, exceeded maximum size"
  | finiteNumber => "Input should be a finite number"
  | floatParsing => "Input should be a valid number, unable to parse string as a number"
  | floatType => "Input should be a valid number"
  | stringType => "Input should be a valid string"
  | stringUnicode =>
    "Input should be a valid string, unable to parse raw data as a unicode string"

/-- A refused setting: its field and the reason. -/
structure SettingError where
  field : String
  fault : SettingFault
deriving DecidableEq, Repr

end GraphQuery
