import TokenGrammar.Proofs.Grammar.Advance

/-! # The frame of a parser call

A checkpoint is a pair of numbers, and nothing keeps a state from falling short of one: it may be
ahead of the cursor, or higher than the stack. Those that combinators take never are. A run in which
every use of a checkpoint is checked, and which breaks off where the check fails, is the run without
the checks.

* `ParseState.Covers`: a state that does not fall short of a checkpoint.
* `Session.discardChecked`, `Session.restoreChecked`, `Session.closeNodeChecked`: the operations
  that refer to a checkpoint, with checks.
* `Grammar.runChecked`: the run of a grammar with checks.
* `Grammar.runChecked_eq_run`: the checks never fail.
* `Grammar.run_frame`: what every run leaves alone. -/

namespace TokenGrammar

namespace ParseState

/-- Whether a state covers a checkpoint: the checkpoint is neither ahead of the cursor nor higher
than the stack. -/
def Covers (state : ParseState) (checkpoint : Checkpoint) : Prop :=
  checkpoint.cursor ≤ state.cursor ∧ checkpoint.stackSize ≤ state.stack.length

instance (state : ParseState) (checkpoint : Checkpoint) : Decidable (state.Covers checkpoint) :=
  inferInstanceAs (Decidable (_ ∧ _))

/-- What an operation that refers to a checkpoint gives. A state that does not cover the checkpoint
gives nothing. -/
def checked {α : Type} (state : ParseState) (checkpoint : Checkpoint) (result : α) : Option α :=
  if state.Covers checkpoint then some result else none

/-- A state that covers the checkpoint passes the check. -/
theorem checked_of_covers {α : Type} {state : ParseState} {checkpoint : Checkpoint}
    (covers : state.Covers checkpoint) (result : α) :
    state.checked checkpoint result = some result :=
  if_pos covers

/-- Taking off what was pushed since a checkpoint leaves a state that covers it. -/
theorem covers_takeNode {state : ParseState} {checkpoint : Checkpoint}
    (covers : state.Covers checkpoint) (name : String) :
    (state.takeNode checkpoint name).2.Covers checkpoint := by
  refine ⟨covers.1, Nat.le_of_eq ?_⟩
  rw [takeNode, List.length_take, Nat.min_eq_left covers.2]

/-- Pushing elements leaves a state that covers what it covered. -/
theorem covers_pushAll {state : ParseState} {checkpoint : Checkpoint}
    (covers : state.Covers checkpoint) (elements : List Element) :
    (state.pushAll elements).Covers checkpoint := by
  refine ⟨covers.1, ?_⟩
  rw [pushAll, List.length_append]
  exact Nat.le_add_right_of_le covers.2

end ParseState

namespace Session

/-- Report a match, and drop the checkpoint that it made superfluous. -/
def discardChecked (session : Session) (checkpoint : Checkpoint) : Option Outcome :=
  session.state.checked checkpoint session.matched

/-- `Session.restore` after a failure, with a check. -/
def restoreChecked (session : Session) (checkpoint : Checkpoint) : Option Outcome :=
  session.state.checked checkpoint (session.restore checkpoint Session.failed)

/-- `Session.closeNode`, with a check wherever it refers to the checkpoint. -/
def closeNodeChecked (session : Session) (checkpoint : Checkpoint) (name : String)
    (minChildren : Nat) (actions : List Action) : Option Outcome := do
  let pushed ← session.state.checked checkpoint (session.state.pushedSince checkpoint)
  if pushed ≤ minChildren then some session.matched
  else
    let (node, remaining) ←
      session.state.checked checkpoint (session.state.takeNode checkpoint name)
    match Action.runAll actions node with
    | .ok finished => some (session.withState (remaining.push finished.toElement)).matched
    | .error _ =>
        let vetoed :=
          if session.state.committedPast checkpoint then remaining.pushAll node.children
          else remaining
        (session.withState vetoed).restoreChecked checkpoint

variable {session : Session} {checkpoint : Checkpoint}

/-- Where the state covers the checkpoint a match may drop it. -/
theorem discardChecked_eq (covers : session.state.Covers checkpoint) :
    session.discardChecked checkpoint = some session.matched :=
  ParseState.checked_of_covers covers _

/-- Where the state covers the checkpoint the rollback passes its check. -/
theorem restoreChecked_eq (covers : session.state.Covers checkpoint) :
    session.restoreChecked checkpoint = some (session.restore checkpoint Session.failed) :=
  ParseState.checked_of_covers covers _

/-- Where the state covers the checkpoint a node is closed as without checks. -/
theorem closeNodeChecked_eq (covers : session.state.Covers checkpoint) (name : String)
    (minChildren : Nat) (actions : List Action) :
    session.closeNodeChecked checkpoint name minChildren actions =
      some (session.closeNode checkpoint name minChildren actions) := by
  have left := ParseState.covers_takeNode covers name
  rw [closeNodeChecked, closeNode, ParseState.checked_of_covers covers,
    ParseState.checked_of_covers covers, Option.bind_eq_bind, Option.bind_some]
  split
  · rfl
  · rw [Option.bind_eq_bind, Option.bind_some]
    generalize session.state.takeNode checkpoint name = taken at left
    obtain ⟨node, remaining⟩ := taken
    simp only
    cases Action.runAll actions node with
    | ok finished => rfl
    | error rejection =>
        refine restoreChecked_eq ?_
        -- The children are put back on top of what the checkpoint is about.
        cases session.state.committedPast checkpoint with
        | true => exact ParseState.covers_pushAll left node.children
        | false => exact left

end Session

/-- A session that parsing came to covers the checkpoint of its start. -/
theorem Session.Advances.covers {before after : Session} {events : List Event}
    (advances : before.Advances events after) : after.state.Covers before.checkpoint :=
  ⟨advances.cursor_le, advances.stack.length_le⟩

namespace Parser

/-! ## Combinators with checks -/

/-- `Parser.backtrack`, with a check wherever it refers to its checkpoint. -/
def backtrackChecked (body : Parser) : Parser := fun session =>
  (body session).bind fun outcome =>
    match outcome.verdict with
    | .matched => outcome.session.discardChecked session.checkpoint
    | .failed => outcome.session.restoreChecked session.checkpoint
    | .aborted _ => some outcome

/-- `Parser.sequenceFrom`, with a check wherever it refers to the checkpoint. -/
def sequenceFromChecked (checkpoint : Checkpoint) : List Parser → Parser
  | [], session => some session.matched
  | part :: parts, session =>
      (part session).bind fun outcome =>
        match outcome.verdict with
        | .matched => sequenceFromChecked checkpoint parts outcome.session
        | .failed => outcome.session.restoreChecked checkpoint
        | .aborted _ => some outcome

/-- `Parser.sequence`, with a check wherever it refers to its checkpoint. -/
def sequenceChecked (parts : List Parser) : Parser := fun session =>
  sequenceFromChecked session.checkpoint parts session

/-- `Parser.many1`, with a check wherever it refers to its checkpoint. -/
def many1Checked (body : Parser) : Parser := fun session =>
  (body.repeat session).bind fun repetition =>
    match repetition.result with
    | .ok 0 => repetition.session.restoreChecked session.checkpoint
    | .ok (_ + 1) => some repetition.session.matched
    | .error error => some (repetition.session.aborted error)

/-- `Parser.node`, with a check wherever it refers to its checkpoint. -/
def nodeChecked (name : String) (minChildren : Nat) (actions : List Action) (body : Parser) :
    Parser := fun session =>
  (body session).bind fun outcome =>
    match outcome.verdict with
    | .matched => outcome.session.closeNodeChecked session.checkpoint name minChildren actions
    | .failed => outcome.session.restoreChecked session.checkpoint
    | .aborted _ => some outcome

/-! ## The checks do not fail -/

/-- A parser that moves forward at most can be rolled back. -/
theorem backtrackChecked_eq {body : Parser} (advancing : body.Advancing) :
    body.backtrackChecked = body.backtrack := by
  funext before
  rw [backtrackChecked, backtrack]
  cases start : body before with
  | none => rfl
  | some inner =>
      obtain ⟨events, follows⟩ := advancing start
      have covers := follows.advances.covers
      rw [Option.bind_some, Option.map_some]
      cases verdict : inner.verdict with
      | matched =>
          have same : inner.session.matched = inner := by rw [Session.matched, ← verdict]
          simp only [Session.discardChecked_eq covers, same]
      | failed => exact Session.restoreChecked_eq covers
      | aborted error => rfl

/-- Parts that move forward at most can be rolled back to where the first of them started. -/
theorem sequenceFromChecked_eq {parts : List Parser} (advancing : ∀ part ∈ parts, part.Advancing)
    {start session : Session} {events : List Event} (advances : start.Advances events session) :
    sequenceFromChecked start.checkpoint parts session =
      sequenceFrom start.checkpoint parts session := by
  induction parts generalizing session events with
  | nil => rfl
  | cons part parts induction =>
      rw [sequenceFromChecked, sequenceFrom]
      cases ran : part session with
      | none => rfl
      | some middle =>
          obtain ⟨later, follows⟩ := advancing part List.mem_cons_self ran
          have onward := advances.trans follows.advances
          rw [Option.bind_some, Option.bind_some]
          cases middle.verdict with
          | matched =>
              exact induction (fun other member => advancing other (.tail _ member)) onward
          | failed => exact Session.restoreChecked_eq onward.covers
          | aborted error => rfl

/-- Parts that move forward at most can be rolled back. -/
theorem sequenceChecked_eq {parts : List Parser} (advancing : ∀ part ∈ parts, part.Advancing) :
    sequenceChecked parts = sequence parts := by
  funext before
  exact sequenceFromChecked_eq advancing (.refl before)

/-- A repetition of a parser that moves forward at most can be rolled back. -/
theorem many1Checked_eq {body : Parser} (advancing : body.Advancing) :
    body.many1Checked = body.many1 := by
  funext before
  rw [many1Checked, many1]
  cases repeated : body.repeat before with
  | none => rfl
  | some repetition =>
      obtain ⟨events, advances, -⟩ := advancing.iterate _ _ repeated
      rw [Option.bind_some, Option.map_some]
      rcases repetition.result with error | count
      · rfl
      · cases count with
        | zero => exact Session.restoreChecked_eq advances.covers
        | succ count => rfl

/-- What a parser that moves forward at most has pushed can be collected in a node. -/
theorem nodeChecked_eq (name : String) (minChildren : Nat) (actions : List Action)
    {body : Parser} (advancing : body.Advancing) :
    nodeChecked name minChildren actions body = .node name minChildren actions body := by
  funext before
  rw [nodeChecked, node]
  cases start : body before with
  | none => rfl
  | some inner =>
      obtain ⟨events, follows⟩ := advancing start
      have covers := follows.advances.covers
      rw [Option.bind_some, Option.map_some]
      cases inner.verdict with
      | matched => exact Session.closeNodeChecked_eq covers name minChildren actions
      | failed => exact Session.restoreChecked_eq covers
      | aborted error => rfl

end Parser

namespace Grammar

mutual

/-- `Grammar.eval`, with a check wherever a combinator refers to its checkpoint. -/
def evalChecked (call : String → Parser) : Grammar → Parser
  | .all parts => .all (evalAllChecked call parts)
  | .sequence parts => .sequenceChecked (evalAllChecked call parts)
  | .choice alternatives => .choice (evalAllChecked call alternatives)
  | .backtrack body => .backtrackChecked (evalChecked call body)
  | .optional body => .optional (evalChecked call body)
  | .many body => .many (evalChecked call body)
  | .many1 body => .many1Checked (evalChecked call body)
  | .node name minChildren body actions =>
      .nodeChecked name minChildren actions (evalChecked call body)
  | grammar => grammar.eval call

/-- The parsers of a list of grammars, with checks. -/
def evalAllChecked (call : String → Parser) : List Grammar → List Parser
  | [] => []
  | grammar :: grammars => evalChecked call grammar :: evalAllChecked call grammars

end

/-- `Grammar.call`, with checks. -/
def callChecked (rules : Rules) : Nat → String → Parser
  | 0, _ => fun _ => none
  | allowance + 1, name =>
      match rules.lookup name with
      | some body => evalChecked (callChecked rules allowance) body
      | none => .fail

/-- `Grammar.run`, with checks: the run breaks off without an outcome where a combinator refers to a
checkpoint that the state does not cover. -/
def runChecked (rules : Rules) (allowance : Nat) (grammar : Grammar) : Parser :=
  evalChecked (callChecked rules allowance) grammar

section

variable {call : String → Parser}

mutual

/-- The checks of a grammar do not fail if its rules move forward at most. -/
theorem evalChecked_eq_eval (calls : ∀ name, (call name).Advancing) :
    (grammar : Grammar) → grammar.Combinator → grammar.evalChecked call = grammar.eval call
  | .peek _, _ | .token _, _ | .tokenExcept _, _ | .eat _, _ | .any, _ | .skip, _
  | .endOfInput, _ | .cut _, _ | .trace _, _ | .succeed, _ | .fail, _ | .rule _, _ => rfl
  | .all parts, combinators =>
      congrArg Parser.all (evalAllChecked_eq_evalAll calls parts combinators)
  | .choice alternatives, combinators =>
      congrArg Parser.choice (evalAllChecked_eq_evalAll calls alternatives combinators)
  | .optional body, combinator =>
      congrArg Parser.optional (evalChecked_eq_eval calls body combinator)
  | .many body, combinator => congrArg Parser.many (evalChecked_eq_eval calls body combinator)
  | .sequence parts, combinators => by
      have advancing : ∀ parser ∈ evalAll call parts, parser.Advancing := by
        rw [evalAll_eq_map]
        intro parser member
        obtain ⟨part, among, rfl⟩ := List.mem_map.mp member
        exact eval_closed Parser.closed_advancing calls
          (combinatorAll_iff.mp combinators part among)
      rw [evalChecked, evalAllChecked_eq_evalAll calls parts combinators, eval]
      exact Parser.sequenceChecked_eq advancing
  | .backtrack body, combinator => by
      have advancing : (eval call body).Advancing :=
        eval_closed Parser.closed_advancing calls combinator
      rw [evalChecked, evalChecked_eq_eval calls body combinator, eval]
      exact Parser.backtrackChecked_eq advancing
  | .many1 body, combinator => by
      have advancing : (eval call body).Advancing :=
        eval_closed Parser.closed_advancing calls combinator
      rw [evalChecked, evalChecked_eq_eval calls body combinator, eval]
      exact Parser.many1Checked_eq advancing
  | .node name minChildren body actions, combinator => by
      have advancing : (eval call body).Advancing :=
        eval_closed Parser.closed_advancing calls combinator
      rw [evalChecked, evalChecked_eq_eval calls body combinator, eval]
      exact Parser.nodeChecked_eq name minChildren actions advancing

/-- The checks of a list of grammars do not fail if their rules move forward at most. -/
theorem evalAllChecked_eq_evalAll (calls : ∀ name, (call name).Advancing) :
    (grammars : List Grammar) → CombinatorAll grammars →
      evalAllChecked call grammars = evalAll call grammars
  | [], _ => rfl
  | grammar :: grammars, combinators => by
      rw [evalAllChecked, evalChecked_eq_eval calls grammar combinators.1,
        evalAllChecked_eq_evalAll calls grammars combinators.2, evalAll]

end

end

variable {rules : Rules}

/-- Calls of rules move forward at most. -/
theorem call_advancing (combinators : rules.Combinator) (allowance : Nat) (name : String) :
    (call rules allowance name).Advancing := by
  have combinator : (Grammar.rule name).Combinator := trivial
  exact run_advancing combinators combinator allowance

/-- The checks of rules do not fail. -/
theorem callChecked_eq_call (combinators : rules.Combinator) (allowance : Nat) :
    callChecked rules allowance = call rules allowance := by
  induction allowance with
  | zero => rfl
  | succ allowance induction =>
      funext name
      rw [callChecked, call, induction]
      cases found : rules.lookup name with
      | none => rfl
      | some body =>
          exact evalChecked_eq_eval (call_advancing combinators allowance) body
            (combinators.of_lookup found)

/-- The checks never fail. -/
theorem runChecked_eq_run (combinators : rules.Combinator) {grammar : Grammar}
    (combinator : grammar.Combinator) (allowance : Nat) :
    grammar.runChecked rules allowance = grammar.run rules allowance := by
  rw [runChecked, callChecked_eq_call combinators allowance]
  exact evalChecked_eq_eval (call_advancing combinators allowance) grammar combinator

/-- **The frame of a parser call.** Whatever the outcome of a run, the tokens are those of the
start, the cursor lies between that of the start and the end of the tokens, the elements that were
on the stack are still there below any new ones, and the mark of the last cut is that of the start
or lies between the two cursors. No combinator refers to a checkpoint that is ahead of the cursor or
higher than the stack: with a check of all of them the run ends in the same way. -/
theorem run_frame (combinators : rules.Combinator) {grammar : Grammar}
    (combinator : grammar.Combinator) {allowance : Nat} {before : Session}
    (wellFormed : before.state.WellFormed) {outcome : Outcome}
    (ran : grammar.run rules allowance before = some outcome) :
    let after := outcome.session.state
    after.tokens = before.state.tokens ∧
      before.state.cursor ≤ after.cursor ∧ after.cursor ≤ before.state.tokens.length ∧
      before.state.stack <+: after.stack ∧
      (after.cut = before.state.cut ∨
        ∃ marker, after.cut = some marker ∧
          before.state.cursor ≤ marker.cursor ∧ marker.cursor ≤ after.cursor) ∧
      after.WellFormed ∧
      grammar.runChecked rules allowance before = some outcome := by
  intro after
  obtain ⟨events, follows⟩ := run_advancing combinators combinator allowance ran
  have advances := follows.advances
  have within : after.cursor ≤ before.state.tokens.length :=
    advances.cursor_le_length wellFormed.1
  have cut : after.cut = before.state.cut ∨
      ∃ marker, after.cut = some marker ∧
        before.state.cursor ≤ marker.cursor ∧ marker.cursor ≤ after.cursor := by
    cases last : lastCut? events with
    | none => exact .inl (by rw [advances.cut, last, Option.none_or])
    | some marker =>
        exact .inr ⟨marker, by rw [advances.cut, last, Option.some_or],
          advances.cut_between marker last⟩
  have behind : ∀ marker ∈ after.cut, marker.cursor ≤ after.cursor := by
    rcases cut with same | ⟨made, new, -, le⟩
    · intro marker old
      rw [same] at old
      exact Nat.le_trans (wellFormed.2 marker old) advances.cursor_le
    · intro marker last
      rw [new] at last
      cases Option.some.inj last
      exact le
  refine ⟨advances.tokens, advances.cursor_le, within, advances.stack, cut, ⟨?_, behind⟩, ?_⟩
  · rw [advances.tokens]
    exact within
  · rw [runChecked_eq_run combinators combinator allowance]
    exact ran

/-- A node whose rejection a cut forbids to undo: its child is back on the stack, above the element
that was there. -/
theorem run_frame_rejected :
    let rules : Rules := [("item", .node "item" 0 (.all [.token "a", .cut "after a"])
      [Action.reverse, Action.reject "no"])]
    let grammar : Grammar := .many1 (.choice [.rule "item", .any])
    let tokens : List Token := [⟨"z", "z", 0⟩, ⟨"a", "a", 1⟩]
    let before : Session := .ofState ⟨tokens, 1, [.leaf ⟨"z", "z", 0⟩], some ⟨"z", 1⟩⟩
    ∃ outcome, grammar.run rules 1 before = some outcome ∧
      outcome.verdict = .aborted (.committed "after a" 2 2 1 2) ∧
      before.state.stack <+: outcome.session.state.stack ∧
      outcome.session.state.stack = [.leaf ⟨"z", "z", 0⟩, .leaf ⟨"a", "a", 1⟩] ∧
      grammar.runChecked rules 1 before = some outcome := by
  intro rules grammar tokens before
  have combinators : rules.Combinator := .single ⟨trivial, trivial, trivial⟩
  have combinator : grammar.Combinator := ⟨trivial, trivial, trivial⟩
  have wellFormed : before.state.WellFormed := by decide
  let last : ParseState :=
    ⟨tokens, 2, [.leaf ⟨"z", "z", 0⟩, .leaf ⟨"a", "a", 1⟩], some ⟨"after a", 2⟩⟩
  have ran : grammar.run rules 1 before =
      some ⟨.aborted (.committed "after a" 2 2 1 2),
        ⟨last, [], [.cut ⟨"after a", 2⟩, .refused last ⟨1, 1⟩]⟩⟩ := by decide
  obtain ⟨-, -, -, kept, -, -, checked⟩ := run_frame combinators combinator wellFormed ran
  exact ⟨_, ran, rfl, kept, rfl, checked⟩

end Grammar

end TokenGrammar
