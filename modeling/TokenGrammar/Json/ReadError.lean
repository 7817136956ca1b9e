import TokenGrammar.Text.Quoted

/-! # Faults in JSON texts

* `Json.Shape`: what a value is, as a report tells it.
* `Json.ReadError`: the ways in which a text fails to be the JSON that was expected. -/

namespace TokenGrammar.Json

/-- What a value is, as a report tells it. -/
inductive Shape where
  /-- The null value. -/
  | null
  /-- A truth value. -/
  | boolean (value : Bool)
  /-- A whole number. -/
  | integer (value : Int)
  /-- Another number, as text. -/
  | real (text : String)
  /-- A string. -/
  | string (text : String)
  /-- A list. -/
  | sequence
  /-- An object. -/
  | map
  deriving DecidableEq

/-- The words for a shape. -/
def Shape.describe : Shape → String
  | .null => "null"
  | .boolean value => "boolean `" ++ toString value ++ "`"
  | .integer value => "integer `" ++ toString value ++ "`"
  | .real text => "floating point `" ++ text ++ "`"
  | .string text => "string " ++ Text.quoted text
  | .sequence => "sequence"
  | .map => "map"

/-- Why a text is not the JSON that was expected. -/
inductive ReadError where
  /-- The text ends where a value should start or go on. -/
  | endInValue
  /-- The text ends within an object. -/
  | endInObject
  /-- The text ends within a list. -/
  | endInList
  /-- The text ends within a string. -/
  | endInString
  /-- No colon after the name of a member. -/
  | expectedColon
  /-- Neither comma nor bracket after an item. -/
  | expectedListEnd
  /-- Neither comma nor brace after a member. -/
  | expectedObjectEnd
  /-- A word that starts like a literal and goes on differently. -/
  | expectedWord
  /-- No value starts so. -/
  | expectedValue
  /-- An escape that means nothing. -/
  | invalidEscape
  /-- No number is written so. -/
  | invalidNumber
  /-- A number too large to hold. -/
  | numberOutOfRange
  /-- A string with bytes that belong to no character. -/
  | invalidCodePoint
  /-- A control character in a string. -/
  | controlCharacter
  /-- A member without a name. -/
  | keyMustBeString
  /-- Half of a surrogate pair where the pair should start or end. -/
  | loneSurrogate
  /-- A surrogate pair without its second half. -/
  | unexpectedEndOfHexEscape
  /-- A comma before the end of a list or object. -/
  | trailingComma
  /-- Something after the end of the value. -/
  | trailingCharacters
  /-- Too many values within each other. -/
  | recursionLimit
  /-- A value of another shape than expected. -/
  | invalidType (found : Shape) (expected : String)
  /-- A member that occurs twice. -/
  | duplicateField (name : String)
  /-- A value that is none of several forms of something. -/
  | noVariant (type : String)
  deriving DecidableEq

/-- The report. -/
def ReadError.message : ReadError → String
  | .endInValue => "EOF while parsing a value"
  | .endInObject => "EOF while parsing an object"
  | .endInList => "EOF while parsing a list"
  | .endInString => "EOF while parsing a string"
  | .expectedColon => "expected `:`"
  | .expectedListEnd => "expected `,` or `]`"
  | .expectedObjectEnd => "expected `,` or `\x7d`"
  | .expectedWord => "expected ident"
  | .expectedValue => "expected value"
  | .invalidEscape => "invalid escape"
  | .invalidNumber => "invalid number"
  | .numberOutOfRange => "number out of range"
  | .invalidCodePoint => "invalid unicode code point"
  | .controlCharacter => "control character (\\u0000-\\u001F) found while parsing a string"
  | .keyMustBeString => "key must be a string"
  | .loneSurrogate => "lone leading surrogate in hex escape"
  | .unexpectedEndOfHexEscape => "unexpected end of hex escape"
  | .trailingComma => "trailing comma"
  | .trailingCharacters => "trailing characters"
  | .recursionLimit => "recursion limit exceeded"
  | .invalidType found expected =>
      "invalid type: " ++ found.describe ++ ", expected " ++ expected
  | .duplicateField name => "duplicate field `" ++ name ++ "`"
  | .noVariant type => "data did not match any variant of untagged enum " ++ type

end TokenGrammar.Json
