import TokenGrammar.Element.Basic
import TokenGrammar.ParseError

/-! # Parse states

The record that every parser reads and changes: the tokens, a cursor into them, the stack of the
elements built so far, and the mark of the last cut. The stack grows by appending at its end and
shrinks only back to a length that a checkpoint recorded.

* `ParseState`, `Checkpoint`, `CutMarker`: the data.
* `ParseState.restore`: roll back to a checkpoint, unless a cut at or after it forbids that.
* `ParseState.takeNode`: collect what was pushed since a checkpoint.
* `ParseState.WellFormed`: the cursor is within the tokens and no cut lies ahead of it. -/

namespace TokenGrammar

/-- A place to roll back to: how far the parse was and how many elements it had built. -/
structure Checkpoint where
  /-- Index of the next token. -/
  cursor : Nat
  /-- Number of elements on the stack. -/
  stackSize : Nat
  deriving DecidableEq

/-- The mark that a cut leaves. -/
structure CutMarker where
  /-- Label of the cut, for reports. -/
  label : String
  /-- Index of the token that was next when the cut was made. -/
  cursor : Nat
  deriving DecidableEq

/-- Everything a parse reads and changes. -/
structure ParseState where
  /-- The tokens of the input. -/
  tokens : List Token
  /-- Index of the next token. -/
  cursor : Nat
  /-- The elements built so far, oldest first. -/
  stack : List Element
  /-- The last cut. -/
  cut : Option CutMarker
  deriving DecidableEq

namespace ParseState

/-- The state before the first token. -/
def ofTokens (tokens : List Token) : ParseState :=
  ⟨tokens, 0, [], none⟩

/-- The next token. -/
def current? (state : ParseState) : Option Token :=
  state.tokens[state.cursor]?

/-- Whether every token has been consumed. -/
def atEnd (state : ParseState) : Bool :=
  state.cursor == state.tokens.length

/-- Whether there is a next token and it has the given name. -/
def peek (state : ParseState) (name : String) : Bool :=
  state.current?.any (·.name == name)

/-- Move the cursor past the next token. -/
def advance (state : ParseState) : ParseState :=
  { state with cursor := state.cursor + 1 }

/-- Put an element on the stack. -/
def push (state : ParseState) (element : Element) : ParseState :=
  { state with stack := state.stack ++ [element] }

/-- Put elements on the stack, the first one first. -/
def pushAll (state : ParseState) (elements : List Element) : ParseState :=
  { state with stack := state.stack ++ elements }

/-- Consume the next token and put it on the stack. -/
def keep? (state : ParseState) : Option ParseState :=
  state.current?.map fun token => (state.push (.leaf token)).advance

/-- Consume the next token and drop it. -/
def skip? (state : ParseState) : Option ParseState :=
  if state.cursor < state.tokens.length then some state.advance else none

/-- Commit to the tokens consumed so far. -/
def commit (state : ParseState) (label : String) : ParseState :=
  { state with cut := some ⟨label, state.cursor⟩ }

/-- The place to roll back to. -/
def checkpoint (state : ParseState) : Checkpoint :=
  ⟨state.cursor, state.stack.length⟩

/-- How many elements the stack holds beyond those of the checkpoint. -/
def pushedSince (state : ParseState) (checkpoint : Checkpoint) : Nat :=
  state.stack.length - checkpoint.stackSize

/-- Whether a cut lies at or after the checkpoint. -/
def committedPast (state : ParseState) (checkpoint : Checkpoint) : Bool :=
  state.cut.any fun marker => checkpoint.cursor ≤ marker.cursor

/-- Byte offset of the token at an index; past the last token, where that token ends. -/
def offsetOf (state : ParseState) (index : Nat) : Nat :=
  match state.tokens[index]? with
  | some token => token.position
  | none => (state.tokens.getLast?.map Token.stop).getD 0

/-- The error of rolling back over a cut. -/
def committedError (state : ParseState) (marker : CutMarker) (checkpoint : Checkpoint) :
    ParseError :=
  .committed marker.label marker.cursor (state.offsetOf marker.cursor) checkpoint.cursor
    state.cursor

/-- Move the cursor and the length of the stack back to a checkpoint. -/
def rollback (state : ParseState) (checkpoint : Checkpoint) : ParseState :=
  { state with cursor := checkpoint.cursor, stack := state.stack.take checkpoint.stackSize }

/-- Roll back to a checkpoint. A cut at or after the checkpoint forbids it. -/
def restore (state : ParseState) (checkpoint : Checkpoint) : Except ParseError ParseState :=
  match state.cut with
  | some marker =>
      if checkpoint.cursor ≤ marker.cursor then
        .error (state.committedError marker checkpoint)
      else .ok (state.rollback checkpoint)
  | none => .ok (state.rollback checkpoint)

/-- Take what was pushed since a checkpoint off the stack, as the children of a node. -/
def takeNode (state : ParseState) (checkpoint : Checkpoint) (name : String) :
    Node × ParseState :=
  (⟨name, state.stack.drop checkpoint.stackSize⟩,
    { state with stack := state.stack.take checkpoint.stackSize })

/-- What holds of every state that parsing reaches: the cursor is within the tokens, and the last
cut is not ahead of it. -/
def WellFormed (state : ParseState) : Prop :=
  state.cursor ≤ state.tokens.length ∧ ∀ marker ∈ state.cut, marker.cursor ≤ state.cursor

instance (state : ParseState) : Decidable state.WellFormed :=
  inferInstanceAs (Decidable (_ ∧ _))

@[simp] theorem peek_eq_true_iff {state : ParseState} {name : String} :
    state.peek name = true ↔ ∃ token, state.current? = some token ∧ token.name = name := by
  cases current : state.current? <;> simp [peek, current]

theorem committedPast_eq_true_iff {state : ParseState} {checkpoint : Checkpoint} :
    state.committedPast checkpoint = true ↔
      ∃ marker, state.cut = some marker ∧ checkpoint.cursor ≤ marker.cursor := by
  cases cut : state.cut <;> simp [committedPast, cut]

/-- Without a cut at or after the checkpoint a rollback succeeds. -/
theorem restore_of_not_committedPast {state : ParseState} {checkpoint : Checkpoint}
    (free : state.committedPast checkpoint = false) :
    state.restore checkpoint = .ok (state.rollback checkpoint) := by
  cases cut : state.cut with
  | none => simp [restore, cut]
  | some marker =>
      have : ¬ checkpoint.cursor ≤ marker.cursor := by simpa [committedPast, cut] using free
      simp [restore, cut, this]

/-- A cut at or after the checkpoint turns a rollback into an error about that cut. -/
theorem restore_of_cut {state : ParseState} {checkpoint : Checkpoint} {marker : CutMarker}
    (cut : state.cut = some marker) (past : checkpoint.cursor ≤ marker.cursor) :
    state.restore checkpoint = .error (state.committedError marker checkpoint) := by
  simp [restore, cut, past]

/-- The offset of a token depends on the tokens alone. -/
theorem offsetOf_congr {state other : ParseState} (tokens : state.tokens = other.tokens)
    (index : Nat) : state.offsetOf index = other.offsetOf index := by
  rw [offsetOf, offsetOf, tokens]

/-- The offset of a token that is there is its position. -/
theorem offsetOf_of_getElem? {state : ParseState} {index : Nat} {token : Token}
    (there : state.tokens[index]? = some token) : state.offsetOf index = token.position := by
  rw [offsetOf, there]

/-- The offset past the last token is where that token ends. -/
theorem offsetOf_length (state : ParseState) :
    state.offsetOf state.tokens.length = (state.tokens.getLast?.map Token.stop).getD 0 := by
  rw [offsetOf, List.getElem?_eq_none (Nat.le_refl _)]

/-- Rolling back at once changes nothing. -/
@[simp] theorem rollback_checkpoint (state : ParseState) :
    state.rollback state.checkpoint = state := by
  simp [rollback, checkpoint]

end ParseState

end TokenGrammar
