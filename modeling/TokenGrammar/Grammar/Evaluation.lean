import TokenGrammar.Grammar.Steps
import TokenGrammar.Grammar.Syntax

/-! # Running grammars

* `Grammar.eval`: the parser of a grammar, given the parsers of the rules.
* `Grammar.run`: the parser of a grammar under rules that may refer to each other, with an allowance
  of nested rule calls.
* `Grammar.runState`: the run from a parse state, with the log of that run. -/

namespace TokenGrammar

namespace Session

/-- Roll back to the place remembered under a name, or fail if there is none. -/
def rewind (session : Session) (slot : String) : Outcome :=
  match session.bookmarks.lookup slot with
  | some checkpoint => session.restore checkpoint Session.matched
  | none => session.failed

/-- Remember this place under a name. -/
def bookmark (session : Session) (slot : String) : Session :=
  { session with bookmarks := (slot, session.checkpoint) :: session.bookmarks }

/-- The trace event of this moment. -/
def traceEvent (session : Session) (label : String) : Event :=
  .traced label session.state.cursor session.state.stack.length session.state.cut

/-- Commit to what has been consumed, and log the cut. -/
def commit (session : Session) (label : String) : Session :=
  (session.withState (session.state.commit label)).note (.cut ⟨label, session.state.cursor⟩)

end Session

namespace Grammar

mutual

/-- The parser of a grammar, given the parsers of the rules. -/
def eval (call : String → Parser) : Grammar → Parser
  | .peek name => fun session => some (session.test (session.state.peek name))
  | .token name => fun session =>
      some (session.step (if session.state.peek name then session.state.keep? else none))
  | .tokenExcept name => fun session =>
      some (session.step (if session.state.peek name then none else session.state.keep?))
  | .eat name => fun session =>
      some (session.step (if session.state.peek name then session.state.skip? else none))
  | .any => fun session => some (session.step session.state.keep?)
  | .skip => fun session => some (session.step session.state.skip?)
  | .endOfInput => fun session => some (session.test session.state.atEnd)
  | .cut label => fun session => some (session.commit label).matched
  | .trace label => fun session => some (session.note (session.traceEvent label)).matched
  | .succeed => .succeed
  | .fail => .fail
  | .all parts => .all (evalAll call parts)
  | .sequence parts => .sequence (evalAll call parts)
  | .choice alternatives => .choice (evalAll call alternatives)
  | .backtrack body => .backtrack (eval call body)
  | .optional body => .optional (eval call body)
  | .many body => .many (eval call body)
  | .many1 body => .many1 (eval call body)
  | .node name minChildren body actions => .node name minChildren actions (eval call body)
  | .rule name => call name
  | .bookmark slot => fun session => some (session.bookmark slot).matched
  | .rewind slot => fun session => some (session.rewind slot)
  | .push element => fun session =>
      some (session.withState (session.state.push element)).matched

/-- The parsers of a list of grammars. -/
def evalAll (call : String → Parser) : List Grammar → List Parser
  | [] => []
  | grammar :: grammars => eval call grammar :: evalAll call grammars

end

/-- The parser of a named rule under an allowance of nested rule calls. A name without a rule
fails. -/
def call (rules : Rules) : Nat → String → Parser
  | 0, _ => fun _ => none
  | allowance + 1, name =>
      match rules.lookup name with
      | some body => eval (call rules allowance) body
      | none => .fail

/-- The parser of a grammar under rules and an allowance of nested rule calls. -/
def run (rules : Rules) (allowance : Nat) (grammar : Grammar) : Parser :=
  eval (call rules allowance) grammar

/-- How deep rule calls nest at most in a run: more than any grammar needs that does not call
itself for ever. -/
def callLimit : Nat :=
  100000

/-- The run of a grammar from a parse state, with the log of that run. -/
def runState (rules : Rules) (grammar : Grammar) (state : ParseState) : Option Outcome :=
  run rules callLimit grammar (.ofState state)

theorem evalAll_eq_map (call : String → Parser) (grammars : List Grammar) :
    evalAll call grammars = grammars.map (eval call) := by
  induction grammars with
  | nil => rfl
  | cons grammar grammars induction => simp [evalAll, induction]

@[simp] theorem call_zero (rules : Rules) (name : String) (session : Session) :
    call rules 0 name session = none := rfl

theorem call_succ (rules : Rules) (allowance : Nat) (name : String) :
    call rules (allowance + 1) name =
      match rules.lookup name with
      | some body => run rules allowance body
      | none => .fail := rfl

section

variable (rules : Rules) (allowance : Nat)

@[simp] theorem run_all (parts : List Grammar) :
    run rules allowance (.all parts) = .all (parts.map (run rules allowance)) := by
  rw [run, eval, evalAll_eq_map]
  rfl

@[simp] theorem run_sequence (parts : List Grammar) :
    run rules allowance (.sequence parts) = .sequence (parts.map (run rules allowance)) := by
  rw [run, eval, evalAll_eq_map]
  rfl

@[simp] theorem run_choice (alternatives : List Grammar) :
    run rules allowance (.choice alternatives) =
      .choice (alternatives.map (run rules allowance)) := by
  rw [run, eval, evalAll_eq_map]
  rfl

@[simp] theorem run_backtrack (body : Grammar) :
    run rules allowance (.backtrack body) = (run rules allowance body).backtrack := rfl

@[simp] theorem run_optional (body : Grammar) :
    run rules allowance (.optional body) = (run rules allowance body).optional := rfl

@[simp] theorem run_many (body : Grammar) :
    run rules allowance (.many body) = (run rules allowance body).many := rfl

@[simp] theorem run_many1 (body : Grammar) :
    run rules allowance (.many1 body) = (run rules allowance body).many1 := rfl

@[simp] theorem run_node (name : String) (minChildren : Nat) (body : Grammar)
    (actions : List Action) :
    run rules allowance (.node name minChildren body actions) =
      .node name minChildren actions (run rules allowance body) := rfl

@[simp] theorem run_rule (name : String) :
    run rules allowance (.rule name) = call rules allowance name := rfl

end

end Grammar

end TokenGrammar
