import TokenGrammar.Regex.Match
import TokenGrammar.Tokenizer.Scan

/-! # Scanners

All definitions are merged into one regular expression, each pattern in a group of its own. Of the
definitions that match at a place the first one counts.

* `Scanner`: the merged expression, with the group of each definition.
* `Scanner.compile`: merge definitions.
* `Scanner.scanFound`: cut a text into tokens, given the matches of the merged expression.
* `Scanner.scan`: cut a text into tokens. -/

namespace TokenGrammar

/-- A list of definitions made ready to cut texts. -/
structure Scanner where
  /-- The merged expression. -/
  expr : Regex.Expr
  /-- The definitions, each with the number of the group around its pattern. -/
  slots : List (Nat × Definition)
  deriving DecidableEq

namespace Scanner

/-- The name of the group around the pattern at an index. -/
def groupName (index : Nat) : String :=
  "descent_d" ++ toString index

/-- The pattern at an index in its group. -/
def wrap (index : Nat) (definition : Definition) : String :=
  "(?P<" ++ groupName index ++ ">" ++ definition.source ++ ")"

/-- The definitions from an index on, each in its group. -/
def wrapFrom : Nat → List Definition → List String
  | _, [] => []
  | index, definition :: definitions => wrap index definition :: wrapFrom (index + 1) definitions

/-- The merged pattern. -/
def mergedSource (definitions : List Definition) : String :=
  "|".intercalate (wrapFrom 0 definitions)

/-- The name that a fault in the merged pattern is reported under. -/
def mergedName : String :=
  "*"

/-- The groups of definitions from an index on. -/
def slotsFrom (expr : Regex.Expr) :
    Nat → List Definition → Except TokenizerError (List (Nat × Definition))
  | _, [] => .ok []
  | index, definition :: definitions =>
      match expr.groupOfName? (groupName index) with
      | none => .error (.invalidPattern definition.name .missingGroup)
      | some group => do
          let slots ← slotsFrom expr (index + 1) definitions
          pure ((group, definition) :: slots)

/-- Merge definitions. -/
def compile (definitions : List Definition) : Except TokenizerError Scanner :=
  match Regex.Expr.ofText (mergedSource definitions) with
  | .error error => .error (.invalidPattern mergedName (.malformed error))
  | .ok expr =>
      if expr.fits then do
        let slots ← slotsFrom expr 0 definitions
        pure ⟨expr, slots⟩
      else .error (.invalidPattern mergedName (.oversized Regex.sizeLimit))

/-- The first definition whose group took part in a match, with what the group recorded. -/
def winner? (slots : List (Nat × Definition)) (found : Regex.Found) : Option Hit :=
  slots.findSome? fun (group, definition) =>
    (found.thread.span? group).map fun span => ⟨definition.name, span⟩

/-- The matches of definitions among the matches of the merged expression. -/
def winners (slots : List (Nat × Definition)) (found : List Regex.Found) : List Hit :=
  found.filterMap (winner? slots)

/-- Cut a text into tokens, given the matches of the merged expression in it. -/
def scanFound {m : Type → Type} [Monad m] [MonadExceptOf TokenizerError m] (scanner : Scanner)
    (keepWhitespace : Bool) (handler : String → String → Nat → m Token) (input : String)
    (found : List Regex.Found) : m (List Token) :=
  scanHits keepWhitespace handler input.toList (winners scanner.slots found)

/-- Cut a text into tokens. -/
def scan (scanner : Scanner) (keepWhitespace : Bool) (handler : UnknownHandler)
    (input : String) : Except TokenizerError (List Token) :=
  scanner.scanFound keepWhitespace handler input
    (Regex.matchesIn scanner.expr.find? input.toList)

end Scanner

end TokenGrammar
