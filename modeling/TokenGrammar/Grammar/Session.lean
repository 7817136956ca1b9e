import TokenGrammar.ParseState

/-! # Runs of a grammar

What a run carries along and how it ends.

* `Session`: the parse state, the places a host has bookmarked, and the log of the run.
* `Outcome`: the verdict of a finished run, with the session it left.
* `Parser`: a function from sessions to outcomes that may run out of its allowance of nested
  calls. -/

namespace TokenGrammar

/-- An entry in the log of a run. -/
inductive Event where
  /-- A trace point was passed with the parse at `cursor`, `stackSize` elements built, and the last
  cut as given. -/
  | traced (label : String) (cursor stackSize : Nat) (cut : Option CutMarker)
  /-- A cut was made. -/
  | cut (marker : CutMarker)
  /-- In the given state a rollback to the checkpoint was asked for, and a cut forbade it. -/
  | refused (state : ParseState) (checkpoint : Checkpoint)
  /-- A repeated parser matched without consuming anything, and left the given state. -/
  | stalled (state : ParseState)
  deriving DecidableEq

/-- A parse in progress. -/
structure Session where
  /-- The state of the parse. -/
  state : ParseState
  /-- The places that host steps remember, latest first. -/
  bookmarks : List (String × Checkpoint)
  /-- What happened, oldest first. -/
  log : List Event
  deriving DecidableEq

/-- How a finished run ended. -/
inductive Verdict where
  /-- The grammar matched. -/
  | matched
  /-- The grammar did not match. -/
  | failed
  /-- The parse was given up. -/
  | aborted (error : ParseError)
  deriving DecidableEq

/-- A finished run. -/
structure Outcome where
  /-- How it ended. -/
  verdict : Verdict
  /-- What it left. -/
  session : Session
  deriving DecidableEq

/-- A function that parses. The result is `none` when the allowance of nested rule calls has run
out before the parse ended. -/
abbrev Parser := Session → Option Outcome

namespace Session

/-- A run at its start. -/
def ofState (state : ParseState) : Session :=
  ⟨state, [], []⟩

/-- The place to roll back to. -/
def checkpoint (session : Session) : Checkpoint :=
  session.state.checkpoint

/-- Replace the parse state. -/
def withState (session : Session) (state : ParseState) : Session :=
  { session with state := state }

/-- Add an entry to the log. -/
def note (session : Session) (event : Event) : Session :=
  { session with log := session.log ++ [event] }

/-- The session with a match reported. -/
def matched (session : Session) : Outcome :=
  ⟨.matched, session⟩

/-- The session with a failure reported. -/
def failed (session : Session) : Outcome :=
  ⟨.failed, session⟩

/-- The session with an abort reported. -/
def aborted (session : Session) (error : ParseError) : Outcome :=
  ⟨.aborted error, session⟩

/-- Match without a change if a test holds, and fail without a change otherwise. -/
def test (session : Session) (condition : Bool) : Outcome :=
  if condition then session.matched else session.failed

/-- Match with a new state, or fail without a change if there is none. -/
def step (session : Session) : Option ParseState → Outcome
  | some state => (session.withState state).matched
  | none => session.failed

/-- Roll back, and report the given verdict of the rolled back session. If a cut forbids the
rollback, the parse is given up as it stands. -/
def restore (session : Session) (checkpoint : Checkpoint) (report : Session → Outcome) :
    Outcome :=
  match session.state.restore checkpoint with
  | .ok state => report (session.withState state)
  | .error error => (session.note (.refused session.state checkpoint)).aborted error

@[simp] theorem state_ofState (state : ParseState) : (ofState state).state = state := rfl

@[simp] theorem state_withState (session : Session) (state : ParseState) :
    (session.withState state).state = state := rfl

@[simp] theorem state_note (session : Session) (event : Event) :
    (session.note event).state = session.state := rfl

@[simp] theorem checkpoint_eq (session : Session) :
    session.checkpoint = session.state.checkpoint := rfl

end Session

end TokenGrammar
