/-! # Faults in patterns

* `Regex.PatternError`: the ways in which a text fails to be a regular expression.
* `Regex.PatternError.message`: the report. -/

namespace TokenGrammar.Regex

/-- Why a text is no regular expression, or one that cannot be used. -/
inductive PatternError where
  /-- An escape that means nothing in a class. -/
  | classEscapeInvalid
  /-- A range whose ends are in the wrong order. -/
  | classRangeInvalid
  /-- A range with an end that is no character. -/
  | classRangeLiteral
  /-- A class without its closing bracket. -/
  | classUnclosed
  /-- A number that is too large. -/
  | decimalInvalid
  /-- Braces without a code point. -/
  | hexEmpty
  /-- A code point that is no character. -/
  | hexInvalid
  /-- A character in a code point that is no digit. -/
  | hexInvalidDigit
  /-- A backslash, or the start of an escape, at the end. -/
  | escapeUnexpectedEnd
  /-- An escape that means nothing. -/
  | escapeUnrecognized
  /-- A minus sign with no flag after it. -/
  | flagDanglingNegation
  /-- A flag that occurs twice. -/
  | flagDuplicate
  /-- A second minus sign among flags. -/
  | flagRepeatedNegation
  /-- The pattern ends among flags. -/
  | flagUnexpectedEnd
  /-- An unknown flag. -/
  | flagUnrecognized
  /-- Two groups of one name. -/
  | groupNameDuplicate
  /-- A group whose name is empty. -/
  | groupNameEmpty
  /-- A character that cannot stand in the name of a group. -/
  | groupNameInvalid
  /-- The pattern ends within the name of a group. -/
  | groupNameUnexpectedEnd
  /-- A group without its closing parenthesis. -/
  | groupUnclosed
  /-- A closing parenthesis without a group. -/
  | groupUnopened
  /-- More than `limit` levels of nesting. -/
  | nestLimitExceeded (limit : Nat)
  /-- A repetition whose minimum is above its maximum. -/
  | repetitionCountInvalid
  /-- A repetition count that is missing. -/
  | repetitionCountEmpty
  /-- A repetition count without its closing brace. -/
  | repetitionCountUnclosed
  /-- A repetition of nothing. -/
  | repetitionMissing
  /-- The name of a word boundary without its closing brace. -/
  | wordBoundaryUnclosed
  /-- An unknown name of a word boundary. -/
  | wordBoundaryUnrecognized
  /-- The pattern ends after `\b` and an opening brace. -/
  | wordBoundaryUnexpectedEnd
  /-- `\p` before a backslash. -/
  | propertyInvalid
  /-- A reference back to a group. -/
  | backreference
  /-- A condition on what comes before or after. -/
  | lookAround
  /-- A character above the range of bytes in a class of bytes, or a property without the flag
  for all characters. -/
  | unicodeNotAllowed
  /-- A pattern that could match a part of a character. -/
  | invalidUtf8
  /-- An unknown property. -/
  | propertyNotFound
  /-- An unknown value of a property. -/
  | propertyValueNotFound
  deriving DecidableEq

/-- The report. -/
def PatternError.message : PatternError → String
  | .classEscapeInvalid => "invalid escape sequence found in character class"
  | .classRangeInvalid => "invalid character class range, the start must be <= the end"
  | .classRangeLiteral => "invalid range boundary, must be a literal"
  | .classUnclosed => "unclosed character class"
  | .decimalInvalid => "decimal literal invalid"
  | .hexEmpty => "hexadecimal literal empty"
  | .hexInvalid => "hexadecimal literal is not a Unicode scalar value"
  | .hexInvalidDigit => "invalid hexadecimal digit"
  | .escapeUnexpectedEnd => "incomplete escape sequence, reached end of pattern prematurely"
  | .escapeUnrecognized => "unrecognized escape sequence"
  | .flagDanglingNegation => "dangling flag negation operator"
  | .flagDuplicate => "duplicate flag"
  | .flagRepeatedNegation => "flag negation operator repeated"
  | .flagUnexpectedEnd => "expected flag but got end of regex"
  | .flagUnrecognized => "unrecognized flag"
  | .groupNameDuplicate => "duplicate capture group name"
  | .groupNameEmpty => "empty capture group name"
  | .groupNameInvalid => "invalid capture group character"
  | .groupNameUnexpectedEnd => "unclosed capture group name"
  | .groupUnclosed => "unclosed group"
  | .groupUnopened => "unopened group"
  | .nestLimitExceeded limit =>
      "exceed the maximum number of nested parentheses/brackets (" ++ toString limit ++ ")"
  | .repetitionCountInvalid =>
      "invalid repetition count range, the start must be <= the end"
  | .repetitionCountEmpty => "repetition quantifier expects a valid decimal"
  | .repetitionCountUnclosed => "unclosed counted repetition"
  | .repetitionMissing => "repetition operator missing expression"
  | .wordBoundaryUnclosed =>
      "special word boundary assertion is either unclosed or contains an invalid character"
  | .wordBoundaryUnrecognized =>
      "unrecognized special word boundary assertion, valid choices are: start, end, " ++
        "start-half or end-half"
  | .wordBoundaryUnexpectedEnd =>
      "found either the beginning of a special word boundary or a bounded repetition on a " ++
        "\\b with an opening brace, but no closing brace"
  | .propertyInvalid => "invalid Unicode character class"
  | .backreference => "backreferences are not supported"
  | .lookAround => "look-around, including look-ahead and look-behind, is not supported"
  | .unicodeNotAllowed => "Unicode not allowed here"
  | .invalidUtf8 => "pattern can match invalid UTF-8"
  | .propertyNotFound => "Unicode property not found"
  | .propertyValueNotFound => "Unicode property value not found"

end TokenGrammar.Regex
