/-! # Errors of a parse

A parse that does not match is no error. It is one to give up input that a cut has committed to,
or to repeat a parser that matches without consuming anything.

* `ParseError`: the two causes, with the facts that a report needs.
* `ParseError.message`: the report. -/

namespace TokenGrammar

/-- Why a parse was aborted. -/
inductive ParseError where
  /-- A rollback to the token index `checkpoint`, at or before the cut `label` at the token index
  `cutPosition` and byte offset `offset`, was attempted with the parse stopped at `cursor`. -/
  | committed (label : String) (cutPosition offset checkpoint cursor : Nat)
  /-- A repeated parser matched and left the parse at the token index `cursor`. -/
  | noProgress (cursor : Nat)
  deriving DecidableEq

namespace ParseError

/-- Whether the grammar rather than the input is at fault. -/
def isConfiguration : ParseError → Bool
  | .committed .. => false
  | .noProgress _ => true

/-- Label of the cut that forbade the rollback. -/
def label? : ParseError → Option String
  | .committed label .. => some label
  | .noProgress _ => none

/-- Byte offset of the cut that forbade the rollback. -/
def offset? : ParseError → Option Nat
  | .committed _ _ offset _ _ => some offset
  | .noProgress _ => none

/-- Index of the token that the error is about. -/
def position : ParseError → Nat
  | .committed _ cutPosition _ _ _ => cutPosition
  | .noProgress cursor => cursor

/-- The report. -/
def message : ParseError → String
  | .committed label cutPosition offset checkpoint cursor =>
      "Committed at `" ++ label ++ "` (token " ++ toString cutPosition ++ ", offset " ++
        toString offset ++ "): cannot backtrack to token " ++ toString checkpoint ++
        ", stopped at token " ++ toString cursor
  | .noProgress cursor => "Repetition made no progress at token " ++ toString cursor

end ParseError

end TokenGrammar
