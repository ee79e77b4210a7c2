import CallLint.Json.Number
import CallLint.Text.Quoted

/-!
# Problems with JSON

Everything that can be wrong with settings written in JSON, each with its wording.
-/

namespace CallLint.Json

/-- A value of a type other than the expected one, as it is shown. -/
inductive Found where
  | null
  | boolean (b : Bool)
  | number (n : Number)
  | string (s : Text)
  | sequence
  | map
  deriving DecidableEq, Repr

/-- What was expected in its place. -/
inductive Expected where
  | string
  | sequence
  | options
  deriving DecidableEq, Repr

/-- What is wrong with a JSON text. -/
inductive Problem where
  /-- The text ends before a value. -/
  | endInValue
  | endInList
  | endInObject
  | endInString
  | expectedValue
  /-- Wrong letters in `true`, `false` or `null`. -/
  | expectedIdent
  | expectedColon
  | expectedListCommaOrEnd
  | expectedObjectCommaOrEnd
  | keyMustBeString
  | trailingComma
  | trailingCharacters
  | invalidNumber
  | numberOutOfRange
  | invalidEscape
  | unexpectedEndOfHexEscape
  | loneSurrogate
  | controlCharacter
  | recursionLimit
  /-- A value of the wrong type. -/
  | invalidType (found : Found) (expected : Expected)
  | unknownField (name : Text)
  | duplicateField (name : Text)
  /-- A value of a shape that settings do not have. -/
  | noVariant
  deriving DecidableEq, Repr

/-- How a found value is shown. -/
def Found.message : Found → String
  | .null => "null"
  | .boolean b => "boolean `" ++ (if b then "true" else "false") ++ "`"
  | .number (.whole n) => "integer `" ++ toString n ++ "`"
  | .number (.floating negative value) =>
    "floating point `" ++ floatText negative value ++ "`"
  | .string s => "string " ++ String.ofList (Text.quote s)
  | .sequence => "sequence"
  | .map => "map"

/-- How an expected type is shown. -/
def Expected.message : Expected → String
  | .string => "a string"
  | .sequence => "a sequence"
  | .options => "struct RuleOptions"

/-- The wording of a problem. -/
def Problem.message : Problem → String
  | .endInValue => "EOF while parsing a value"
  | .endInList => "EOF while parsing a list"
  | .endInObject => "EOF while parsing an object"
  | .endInString => "EOF while parsing a string"
  | .expectedValue => "expected value"
  | .expectedIdent => "expected ident"
  | .expectedColon => "expected `:`"
  | .expectedListCommaOrEnd => "expected `,` or `]`"
  | .expectedObjectCommaOrEnd => "expected `,` or `\x7d`"
  | .keyMustBeString => "key must be a string"
  | .trailingComma => "trailing comma"
  | .trailingCharacters => "trailing characters"
  | .invalidNumber => "invalid number"
  | .numberOutOfRange => "number out of range"
  | .invalidEscape => "invalid escape"
  | .unexpectedEndOfHexEscape => "unexpected end of hex escape"
  | .loneSurrogate => "lone leading surrogate in hex escape"
  | .controlCharacter => "control character (\\u0000-\\u001F) found while parsing a string"
  | .recursionLimit => "recursion limit exceeded"
  | .invalidType found expected =>
    "invalid type: " ++ found.message ++ ", expected " ++ expected.message
  | .unknownField name =>
    "unknown field `" ++ String.ofList name ++ "`, expected `ignore` or `ignoreFunctions`"
  | .duplicateField name => "duplicate field `" ++ String.ofList name ++ "`"
  | .noVariant => "data did not match any variant of untagged enum RuleSetting"

end CallLint.Json
