import TokenGrammar.Regex.PatternError
import TokenGrammar.Text.Quoted

/-! # Errors of tokenizers

* `PatternFault`: what is wrong with a definition.
* `TokenizerError`: what can go wrong from the settings to the last token. -/

namespace TokenGrammar

/-- What is wrong with a definition. -/
inductive PatternFault where
  /-- Its name is empty. -/
  | emptyName
  /-- Its name is the one that unmatched spans go by. -/
  | reservedName
  /-- Its pattern is empty. -/
  | emptySource
  /-- Its pattern is no regular expression. -/
  | malformed (error : Regex.PatternError)
  /-- Its pattern takes more than the given number of bytes. -/
  | oversized (limit : Nat)
  /-- The group around its pattern got lost among the other patterns. -/
  | missingGroup
  deriving DecidableEq

/-- The name that unmatched spans go by. -/
def unknownName : String :=
  "unknown"

/-- The report. -/
def PatternFault.message : PatternFault → String
  | .emptyName => "pattern name must not be empty"
  | .reservedName => "`" ++ unknownName ++ "` is reserved for unmatched spans"
  | .emptySource => "pattern source must not be empty"
  | .malformed error => "regex parse error: " ++ error.message
  | .oversized limit =>
      "Compiled regex exceeds size limit of " ++ toString limit ++ " bytes."
  | .missingGroup => "definition group missing from compiled scanner"

/-- Why a text could not be cut into tokens, or a tokenizer not be made. -/
inductive TokenizerError where
  /-- The definition of the given name cannot be used. -/
  | invalidPattern (name : String) (fault : PatternFault)
  /-- A definition other than white space matched the empty text. -/
  | emptyMatch (name : String) (position : Nat)
  /-- No definition matches a span of the text. -/
  | unknownSpan (text : String) (position : Nat)
  /-- The settings cannot be read, or the host refuses a span. -/
  | config (detail : String)
  deriving DecidableEq

namespace TokenizerError

/-- Whether the definitions or settings rather than the text are at fault. -/
def isConfiguration : TokenizerError → Bool
  | .unknownSpan .. => false
  | _ => true

/-- The report. -/
def message : TokenizerError → String
  | .invalidPattern name fault => "Invalid pattern `" ++ name ++ "`: " ++ fault.message
  | .emptyMatch name position =>
      "Pattern `" ++ name ++ "` matched an empty string at position " ++ toString position
  | .unknownSpan text position =>
      "Unknown token " ++ Text.quoted text ++ " at position " ++ toString position
  | .config detail => "Config error: " ++ detail

end TokenizerError

end TokenGrammar
