import TokenGrammar.Action
import TokenGrammar.Grammar.Session

/-! # Parsers from parsers

The operations that grammars are built from, on parsers as functions.

* `Parser.andThen`, `Parser.orElse`, `Parser.all`, `Parser.choice`: order without rollback.
* `Parser.backtrack`, `Parser.sequence`, `Parser.node`: order with rollback.
* `Parser.iterate`, `Parser.many`, `Parser.many1`: repetition. A parser that matches and does not
  move the cursor forward cannot be repeated, so the number of tokens left bounds the loop. -/

namespace TokenGrammar

namespace Session

/-- Finish a node rule whose body matched: collect what was pushed since the checkpoint, if that
is more than `minChildren` elements, and run the actions. A rejection rolls back; where a cut
forbids that, the parse is given up with the children on the stack as the body left them. -/
def closeNode (session : Session) (checkpoint : Checkpoint) (name : String) (minChildren : Nat)
    (actions : List Action) : Outcome :=
  if session.state.pushedSince checkpoint ≤ minChildren then session.matched
  else
    let (node, remaining) := session.state.takeNode checkpoint name
    match Action.runAll actions node with
    | .ok finished => (session.withState (remaining.push finished.toElement)).matched
    | .error _ =>
        -- The actions worked on a copy, so the children go back as the body built them.
        let vetoed :=
          if session.state.committedPast checkpoint then remaining.pushAll node.children
          else remaining
        (session.withState vetoed).restore checkpoint Session.failed

end Session

/-- How a repetition ended: the number of matches, or the error that ended it, with the session
it left. -/
structure Repetition where
  /-- Number of matches. -/
  result : Except ParseError Nat
  /-- What the repetition left. -/
  session : Session

namespace Parser

/-- Match without doing anything. -/
def succeed : Parser := fun session => some session.matched

/-- Fail without doing anything. -/
def fail : Parser := fun session => some session.failed

/-- Go on with a second parser where the first one matched. -/
def andThen (first second : Parser) : Parser := fun session =>
  (first session).bind fun outcome =>
    match outcome.verdict with
    | .matched => second outcome.session
    | _ => some outcome

/-- Go on with a second parser where the first one failed. -/
def orElse (first second : Parser) : Parser := fun session =>
  (first session).bind fun outcome =>
    match outcome.verdict with
    | .failed => second outcome.session
    | _ => some outcome

/-- Run parsers in order up to the first that does not match. -/
def all : List Parser → Parser
  | [] => succeed
  | part :: parts => part.andThen (all parts)

/-- Run parsers in order up to the first that does not fail. -/
def choice : List Parser → Parser
  | [] => fail
  | alternative :: alternatives => alternative.orElse (choice alternatives)

@[simp] theorem all_nil : all [] = succeed := rfl

@[simp] theorem all_cons (part : Parser) (parts : List Parser) :
    all (part :: parts) = part.andThen (all parts) := rfl

@[simp] theorem choice_nil : choice [] = fail := rfl

@[simp] theorem choice_cons (alternative : Parser) (alternatives : List Parser) :
    choice (alternative :: alternatives) = alternative.orElse (choice alternatives) := rfl

/-- After a match `andThen` goes on where the first parser stopped. -/
theorem andThen_of_matched {first : Parser} {session next : Session}
    (ran : first session = some next.matched) (second : Parser) :
    first.andThen second session = second next := by
  rw [andThen, ran]
  rfl

/-- After a failure `andThen` reports that failure. -/
theorem andThen_of_failed {first : Parser} {session next : Session}
    (ran : first session = some next.failed) (second : Parser) :
    first.andThen second session = some next.failed := by
  rw [andThen, ran]
  rfl

/-- Run parsers in order, and roll back to the checkpoint when one fails. -/
def sequenceFrom (checkpoint : Checkpoint) : List Parser → Parser
  | [], session => some session.matched
  | part :: parts, session =>
      (part session).bind fun outcome =>
        match outcome.verdict with
        | .matched => sequenceFrom checkpoint parts outcome.session
        | .failed => some (outcome.session.restore checkpoint Session.failed)
        | .aborted _ => some outcome

/-- Run parsers in order, and roll back to the start when one fails. -/
def sequence (parts : List Parser) : Parser := fun session =>
  sequenceFrom session.checkpoint parts session

/-- Roll back to the start when a parser fails. -/
def backtrack (body : Parser) : Parser := fun session =>
  (body session).map fun outcome =>
    match outcome.verdict with
    | .failed => outcome.session.restore session.checkpoint Session.failed
    | _ => outcome

/-- A failure is rolled back to the start. -/
theorem backtrack_of_failed {body : Parser} {session next : Session}
    (ran : body session = some next.failed) :
    body.backtrack session = some (next.restore session.checkpoint Session.failed) := by
  rw [backtrack, ran]
  rfl

/-- Match also where a parser fails. -/
def optional (body : Parser) : Parser := fun session =>
  (body session).map fun outcome =>
    match outcome.verdict with
    | .failed => outcome.session.matched
    | _ => outcome

/-- Run a parser until it fails, after `count` matches, at most `budget` times more. A match
that does not move the cursor forward is an error. -/
def iterate (body : Parser) : (budget count : Nat) → Session → Option Repetition
  | 0, _, _ => none
  | budget + 1, count, session =>
      (body session).bind fun outcome =>
        match outcome.verdict with
        | .matched =>
            if session.state.cursor < outcome.session.state.cursor then
              iterate body budget (count + 1) outcome.session
            -- Another call would find the same tokens ahead and match for ever.
            else
              some ⟨.error (.noProgress session.state.cursor),
                outcome.session.note (.stalled outcome.session.state)⟩
        | .failed => some ⟨.ok count, outcome.session⟩
        | .aborted error => some ⟨.error error, outcome.session⟩

/-- The most calls that a repetition can make: one for each token left, and a last one that
fails. -/
def iterationBudget (session : Session) : Nat :=
  session.state.tokens.length - session.state.cursor + 1

/-- Run a parser as often as it matches. -/
def «repeat» (body : Parser) (session : Session) : Option Repetition :=
  iterate body (iterationBudget session) 0 session

/-- Match a parser as often as possible. -/
def many (body : Parser) : Parser := fun session =>
  (body.repeat session).map fun repetition =>
    match repetition.result with
    | .ok _ => repetition.session.matched
    | .error error => repetition.session.aborted error

/-- Match a parser as often as possible, and roll back if that is not at all. -/
def many1 (body : Parser) : Parser := fun session =>
  (body.repeat session).map fun repetition =>
    match repetition.result with
    | .ok 0 => repetition.session.restore session.checkpoint Session.failed
    | .ok (_ + 1) => repetition.session.matched
    | .error error => repetition.session.aborted error

/-- Match a parser and collect what it pushed in a node. Roll back when it fails. -/
def node (name : String) (minChildren : Nat) (actions : List Action) (body : Parser) : Parser :=
  fun session =>
    (body session).map fun outcome =>
      match outcome.verdict with
      | .matched => outcome.session.closeNode session.checkpoint name minChildren actions
      | .failed => outcome.session.restore session.checkpoint Session.failed
      | .aborted _ => outcome

end Parser

end TokenGrammar
