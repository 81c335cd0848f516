/-!
# What can be wrong with a setting

Every reason for which a settings value is refused, with its code and its message, and the place of
the value it is about.
-/

namespace RequestLog
namespace Settings

/-- Why a value is refused. -/
inductive Problem where
  /-- The value is of a type that no integer is read from. -/
  | notInteger
  /-- The text is not an integer. -/
  | unreadableInteger
  /-- The text has too many digits, or the number is beyond sixty-four bits. -/
  | oversizedInteger
  /-- The number has a fractional part. -/
  | fractionalInteger
  /-- The number is not finite. -/
  | notFinite
  /-- The value is of a type that no truth value is read from. -/
  | notBoolean
  /-- The text or the integer is no truth value. -/
  | unreadableBoolean
  /-- The value is not a text. -/
  | notText
  /-- The octets are not well-formed UTF-8. -/
  | notUnicode
  /-- The value is not a list. -/
  | notList
  /-- The value is none of the severity labels. -/
  | notSeverity
  /-- The number is zero or less. -/
  | notPositive
  /-- The format is an empty text or an empty list. -/
  | emptyFormat
  /-- No setting has this name. -/
  | unknownName
  deriving DecidableEq, Repr

namespace Problem

/-- The code of a problem. -/
def code : Problem → String
  | notInteger => "int_type"
  | unreadableInteger => "int_parsing"
  | oversizedInteger => "int_parsing_size"
  | fractionalInteger => "int_from_float"
  | notFinite => "finite_number"
  | notBoolean => "bool_type"
  | unreadableBoolean => "bool_parsing"
  | notText => "string_type"
  | notUnicode => "string_unicode"
  | notList => "list_type"
  | notSeverity => "literal_error"
  | notPositive => "value_error"
  | emptyFormat => "value_error"
  | unknownName => "extra_forbidden"

/-- The message of a problem. -/
def message : Problem → String
  | notInteger => "Input should be a valid integer"
  | unreadableInteger => "Input should be a valid integer, unable to parse string as an integer"
  | oversizedInteger => "Unable to parse input string as an integer, exceeded maximum size"
  | fractionalInteger => "Input should be a valid integer, got a number with a fractional part"
  | notFinite => "Input should be a finite number"
  | notBoolean => "Input should be a valid boolean"
  | unreadableBoolean => "Input should be a valid boolean, unable to interpret input"
  | notText => "Input should be a valid string"
  | notUnicode => "Input should be a valid string, unable to parse raw data as a unicode string"
  | notList => "Input should be a valid list"
  | notSeverity => "Input should be 'error', 'warn', 'info', 'verbose', 'debug' or 'silly'"
  | notPositive => "Value error, must be positive"
  | emptyFormat => "Value error, format must be a format name or a non-empty list of tokens"
  | unknownName => "Extra inputs are not permitted"

end Problem

/-- A part of the place of a refused value. -/
inductive PlacePart where
  /-- A setting, or an alternative of its type. -/
  | name (text : String)
  /-- The position in a list. -/
  | position (index : Nat)
  deriving DecidableEq, Repr

/-- A refused value: where it stands and what is wrong with it. -/
structure Complaint where
  /-- From the setting inwards. -/
  place : List PlacePart
  /-- The reason. -/
  problem : Problem
  deriving DecidableEq, Repr

end Settings
end RequestLog
