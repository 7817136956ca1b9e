import TokenGrammar.Grammar.Evaluation
import TokenGrammar.Tokenizer

/-! # Parsing texts

A text is cut into tokens, and a grammar is run over them.

* `Failure`: what can go wrong in either step.
* `parseText`: the forest of a text, if the grammar matches.
* `Grammar.describeNode`: a summary of a node rule for diagnostics. -/

namespace TokenGrammar

/-- Why a text could not be parsed. -/
inductive Failure where
  /-- It could not be cut into tokens. -/
  | tokenize (error : TokenizerError)
  /-- The parse was given up. -/
  | parse (error : ParseError)
  deriving DecidableEq

namespace Failure

/-- Whether definitions, settings or grammar rather than the text are at fault. -/
def isConfiguration : Failure → Bool
  | .tokenize error => error.isConfiguration
  | .parse error => error.isConfiguration

/-- The report. -/
def message : Failure → String
  | .tokenize error => "Tokenizer error: " ++ error.message
  | .parse error => "Parse error: " ++ error.message

end Failure

/-- The forest that a finished run built, if the grammar matched. -/
def Outcome.forest? (outcome : Outcome) : Except Failure (Option (List Element)) :=
  match outcome.verdict with
  | .matched => .ok (some outcome.session.state.stack)
  | .failed => .ok none
  | .aborted error => .error (.parse error)

/-- Cut a text into tokens and run a grammar over them. The result is the forest if the grammar
matches; it need not consume every token. It is `none` when the allowance of nested rule calls runs
out. -/
def parseText (tokenizer : Tokenizer) (rules : Rules) (grammar : Grammar) (input : String) :
    Option (Except Failure (Option (List Element))) × Tokenizer :=
  match tokenizer.tokenize input with
  | (.error error, next) => (some (.error (.tokenize error)), next)
  | (.ok state, next) => ((grammar.runState rules state).map Outcome.forest?, next)

/-- A summary of a node rule for diagnostics: its name, threshold and number of actions. -/
def Grammar.describeNode (name : String) (minChildren : Nat) (actions : List Action) : String :=
  "NodeRule \x7b name: " ++ Text.quoted name ++ ", min_children: " ++ toString minChildren ++
    ", actions: " ++ toString actions.length ++ ", .. \x7d"

end TokenGrammar
