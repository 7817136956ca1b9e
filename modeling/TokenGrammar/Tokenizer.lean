import TokenGrammar.ParseState
import TokenGrammar.Tokenizer.Scanner

/-! # Tokenizers

A tokenizer holds definitions in order, at most one of a name, and keeps the scanner made from them
until they change.

* `Tokenizer`: definitions, settings and the scanner.
* `Tokenizer.define`: add a definition, or replace the one of the same name in its place.
* `Tokenizer.scan`, `Tokenizer.tokenize`: cut a text into tokens.
* `Tokenizer.describe`: a summary for diagnostics. -/

namespace TokenGrammar

/-- Definitions in order, with the settings of the scan and the scanner made last. -/
structure Tokenizer where
  /-- The definitions, with distinct names. -/
  definitions : List Definition
  /-- Pattern of white space where no definition gives another. -/
  whitespaceSource : String
  /-- Whether white space becomes tokens too. -/
  keepWhitespace : Bool
  /-- What becomes of spans without a match. -/
  onUnknown : UnknownHandler
  /-- The scanner of the current definitions, once it has been made. -/
  scanner : Option Scanner

/-- Replace the definition of the same name, or add one at the end. -/
def Definition.insertInto (definition : Definition) : List Definition → List Definition
  | [] => [definition]
  | first :: rest =>
      if first.name = definition.name then definition :: rest
      else first :: insertInto definition rest

namespace Definition

@[simp] theorem insertInto_nil (definition : Definition) :
    definition.insertInto [] = [definition] := rfl

/-- A definition takes the place of the one of its name. -/
theorem insertInto_cons_of_eq {definition first : Definition}
    (same : first.name = definition.name) (rest : List Definition) :
    definition.insertInto (first :: rest) = definition :: rest := by
  rw [insertInto, if_pos same]

/-- Definitions of other names stay where they are. -/
theorem insertInto_cons_of_ne {definition first : Definition}
    (other : first.name ≠ definition.name) (rest : List Definition) :
    definition.insertInto (first :: rest) = first :: definition.insertInto rest := by
  rw [insertInto, if_neg other]

end Definition

namespace Tokenizer

/-- No definitions, white space dropped and unmatched spans refused. -/
def empty : Tokenizer :=
  ⟨[], defaultWhitespace, false, rejectUnknown, none⟩

/-- Whether a scanner of the current definitions is at hand. -/
def isCompiled (tokenizer : Tokenizer) : Bool :=
  tokenizer.scanner.isSome

/-- Add a definition, or replace the one of the same name in its place. A definition that is
wrong taken alone is refused, and one that is there already changes nothing. -/
def define (tokenizer : Tokenizer) (definition : Definition) : Except TokenizerError Tokenizer :=
  match definition.validate with
  | .error error => .error error
  | .ok () =>
      -- The scanner at hand remains right if nothing changes.
      if tokenizer.definitions.find? (·.name == definition.name) = some definition then
        .ok tokenizer
      else
        .ok { tokenizer with
          definitions := definition.insertInto tokenizer.definitions
          scanner := none }

/-- Add definitions in order, up to the first that is refused. -/
def defineAll (tokenizer : Tokenizer) : List Definition → Except TokenizerError Tokenizer
  | [] => .ok tokenizer
  | definition :: definitions => do
      let next ← tokenizer.define definition
      next.defineAll definitions

/-- The tokenizer of a list of definitions. -/
def ofDefinitions (definitions : List Definition) : Except TokenizerError Tokenizer :=
  empty.defineAll definitions

/-- Say whether white space becomes tokens too. -/
def withWhitespaceKept (tokenizer : Tokenizer) (keep : Bool) : Tokenizer :=
  { tokenizer with keepWhitespace := keep }

/-- Say what becomes of spans without a match. -/
def withUnknownHandler (tokenizer : Tokenizer) (handler : UnknownHandler) : Tokenizer :=
  { tokenizer with onUnknown := handler }

/-- The definitions that the scanner is made from: those given and, where none of them is white
space, the pattern of white space last. -/
def effectiveDefinitions (tokenizer : Tokenizer) : List Definition :=
  if tokenizer.definitions.any Definition.isWhitespace then tokenizer.definitions
  else tokenizer.definitions ++ [.whitespace tokenizer.whitespaceSource]

/-- The scanner at hand, or else a new one. -/
def prepare (tokenizer : Tokenizer) : Except TokenizerError Scanner :=
  match tokenizer.scanner with
  | some scanner => .ok scanner
  | none => Scanner.compile tokenizer.effectiveDefinitions

/-- Cut a text into tokens, and keep the scanner. -/
def scan (tokenizer : Tokenizer) (input : String) :
    Except TokenizerError (List Token) × Tokenizer :=
  match tokenizer.prepare with
  | .error error => (.error error, tokenizer)
  | .ok scanner =>
      (scanner.scan tokenizer.keepWhitespace tokenizer.onUnknown input,
        { tokenizer with scanner := some scanner })

/-- Cut a text into tokens, and put a parse at the first of them. -/
def tokenize (tokenizer : Tokenizer) (input : String) :
    Except TokenizerError ParseState × Tokenizer :=
  ((tokenizer.scan input).1.map ParseState.ofTokens, (tokenizer.scan input).2)

/-- The scanner at hand is used as it is. -/
theorem prepare_of_scanner {tokenizer : Tokenizer} {scanner : Scanner}
    (atHand : tokenizer.scanner = some scanner) : tokenizer.prepare = .ok scanner := by
  rw [prepare, atHand]

/-- A scan changes nothing but the scanner at hand. -/
@[simp] theorem definitions_scan (tokenizer : Tokenizer) (input : String) :
    (tokenizer.scan input).2.definitions = tokenizer.definitions := by
  rw [scan]
  cases tokenizer.prepare <;> rfl

/-- A definition in a summary. -/
def describeDefinition (definition : Definition) : String :=
  "PatternDef \x7b name: " ++ Text.quoted definition.name ++ ", source: " ++
    Text.quoted definition.source ++ " \x7d"

/-- A summary for diagnostics. -/
def describe (tokenizer : Tokenizer) : String :=
  "Tokenizer \x7b definitions: [" ++
    ", ".intercalate (tokenizer.definitions.map describeDefinition) ++
    "], whitespace_pattern: " ++ Text.quoted tokenizer.whitespaceSource ++
    ", keep_whitespace: " ++ toString tokenizer.keepWhitespace ++
    ", compiled: " ++ toString tokenizer.isCompiled ++ ", .. \x7d"

end Tokenizer

end TokenGrammar
