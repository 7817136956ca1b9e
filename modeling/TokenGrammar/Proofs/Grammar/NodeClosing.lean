import TokenGrammar.Proofs.Grammar.Advance

/-! # How a node rule closes

A node rule that matches wraps just what its body pushed, and hands the node through its actions in
order. Where an action turns the node down it is as if the body had not matched.

* `Action.composition`: a chain of actions as a single one.
* `Parser.node_of_composition_eq`: a node rule depends on its chain through that one alone.
* `Grammar.run_node_eq_matched_iff`: what a matching node rule leaves, and that its chain can be
  regrouped.
* `Grammar.run_node_of_rejected`: a rejection is the failure of the body, in every respect. -/

namespace TokenGrammar

namespace Action

/-- One action after another. -/
def andThen (first second : Action) : Action := fun node => (first node).bind second

/-- A chain of actions as a single one; without actions, that which accepts a node as it is. -/
def composition (actions : List Action) : Action :=
  actions.foldr andThen fun node => .ok node

@[simp] theorem composition_nil (node : Node) : composition [] node = .ok node := rfl

@[simp] theorem composition_cons (action : Action) (actions : List Action) :
    composition (action :: actions) = action.andThen (composition actions) := rfl

/-- Running a chain is running its composition. -/
theorem runAll_eq_composition (actions : List Action) : runAll actions = composition actions := by
  induction actions with
  | nil => rfl
  | cons action actions induction =>
      funext node
      rw [runAll_cons, induction]
      rfl

/-- A chain in two parts composes to one part after the other. -/
theorem composition_append (first second : List Action) :
    composition (first ++ second) = (composition first).andThen (composition second) := by
  funext node
  rw [← runAll_eq_composition, runAll_append, runAll_eq_composition, runAll_eq_composition]
  rfl

/-- The chain of a single action composes to that action. -/
theorem composition_singleton (action : Action) : composition [action] = action := by
  funext node
  rw [composition_cons, andThen]
  cases action node <;> rfl

end Action

namespace Session

/-- How a node closes depends on the composition of the chain alone. -/
theorem closeNode_of_composition_eq {actions actions' : List Action}
    (same : Action.composition actions = Action.composition actions') (session : Session)
    (checkpoint : Checkpoint) (name : String) (minChildren : Nat) :
    session.closeNode checkpoint name minChildren actions =
      session.closeNode checkpoint name minChildren actions' := by
  rw [closeNode, closeNode, Action.runAll_eq_composition, Action.runAll_eq_composition, same]

end Session

namespace ParseState

variable {before after : ParseState} {pushed : List Element}

/-- What was pushed since a checkpoint is what stands above the stack of that time. -/
theorem pushedSince_of_stack_eq (stack : after.stack = before.stack ++ pushed) :
    after.pushedSince before.checkpoint = pushed.length := by
  rw [pushedSince, stack, List.length_append]
  exact Nat.add_sub_cancel_left ..

/-- A node takes what stands above the stack of that time, and leaves that stack. -/
theorem takeNode_of_stack_eq (stack : after.stack = before.stack ++ pushed) (name : String) :
    after.takeNode before.checkpoint name =
      (⟨name, pushed⟩, { after with stack := before.stack }) := by
  simp [takeNode, stack, checkpoint]

end ParseState

namespace Parser

/-- A node rule depends on its chain through the composition alone. -/
theorem node_of_composition_eq {actions actions' : List Action}
    (same : Action.composition actions = Action.composition actions') (name : String)
    (minChildren : Nat) (body : Parser) :
    node name minChildren actions body = node name minChildren actions' body := by
  funext session
  simp only [node, Session.closeNode_of_composition_eq same]

end Parser

namespace Session

variable {before inner : Session} {pushed : List Element}

/-- What a body pushed stays as it is if it is no more than the threshold, and otherwise becomes the
children of a node, which the chain of actions accepts or rejects. -/
theorem closeNode_of_stack_eq (stack : inner.state.stack = before.state.stack ++ pushed)
    (name : String) (minChildren : Nat) (actions : List Action) :
    inner.closeNode before.checkpoint name minChildren actions =
      if pushed.length ≤ minChildren then inner.matched
      else
        match Action.composition actions ⟨name, pushed⟩ with
        | .ok finished => (inner.withState { inner.state with
            stack := before.state.stack ++ [finished.toElement] }).matched
        | .error _ => inner.restore before.checkpoint Session.failed := by
  have count : inner.state.pushedSince before.checkpoint = pushed.length :=
    ParseState.pushedSince_of_stack_eq stack
  have taken : inner.state.takeNode before.checkpoint name =
      (⟨name, pushed⟩, { inner.state with stack := before.state.stack }) :=
    ParseState.takeNode_of_stack_eq stack name
  have chain : Action.runAll actions (inner.state.takeNode before.checkpoint name).1 =
      Action.composition actions ⟨name, pushed⟩ := by
    rw [taken, Action.runAll_eq_composition]
  by_cases few : pushed.length ≤ minChildren
  · rw [if_pos few, closeNode_of_few (count ▸ few)]
  · have many : ¬ inner.state.pushedSince before.checkpoint ≤ minChildren := count ▸ few
    rw [if_neg few]
    cases ending : Action.composition actions ⟨name, pushed⟩ with
    | ok finished =>
        rw [closeNode_of_accepted many (chain.trans ending), taken]
        rfl
    | error rejection => exact closeNode_of_rejected many (chain.trans ending)

/-- A node rule whose body matched matches if no action rejects the node, should there be one. -/
theorem closeNode_eq_matched_iff (stack : inner.state.stack = before.state.stack ++ pushed)
    (name : String) (minChildren : Nat) (actions : List Action) {outcome : Outcome} :
    inner.closeNode before.checkpoint name minChildren actions = outcome ∧
        outcome.verdict = .matched ↔
      if pushed.length ≤ minChildren then outcome = inner.matched
      else ∃ finished, Action.composition actions ⟨name, pushed⟩ = .ok finished ∧
        outcome = (inner.withState { inner.state with
          stack := before.state.stack ++ [finished.toElement] }).matched := by
  rw [closeNode_of_stack_eq stack]
  split
  · constructor
    · rintro ⟨rfl, -⟩
      rfl
    · rintro rfl
      exact ⟨rfl, rfl⟩
  · cases Action.composition actions ⟨name, pushed⟩ with
    | ok finished =>
        constructor
        · rintro ⟨rfl, -⟩
          exact ⟨finished, rfl, rfl⟩
        · rintro ⟨_, same, rfl⟩
          cases same
          exact ⟨rfl, rfl⟩
    | error rejection =>
        constructor
        · rintro ⟨rfl, matched⟩
          exact absurd matched (verdict_restore_failed_ne inner _)
        · rintro ⟨_, accepted, -⟩
          cases accepted

end Session

namespace Grammar

variable {rules : Rules} {body : Grammar} {allowance : Nat}

/-- A run that matches leaves what was on the stack below what it pushed. -/
theorem exists_pushed (combinators : rules.Combinator) (combinator : body.Combinator)
    {before : Session} {outcome : Outcome} (ran : body.run rules allowance before = some outcome) :
    ∃ pushed, outcome.session.state.stack = before.state.stack ++ pushed := by
  obtain ⟨events, follows⟩ := run_advancing combinators combinator allowance ran
  obtain ⟨pushed, whole⟩ := follows.advances.stack
  exact ⟨pushed, whole.symm⟩

/-- **A node rule wraps just what its body pushed.** It matches where its body does and either
pushed no more than the threshold, and then what the body left is left, or every action accepts the
node of what was pushed, and then the last of these nodes stands in its place and all else is as the
body left it. A chain of actions may be regrouped: a chain in two parts acts as the chain of their
two compositions, and as the single action that does one after the other. -/
theorem run_node_eq_matched_iff (combinators : rules.Combinator) (combinator : body.Combinator)
    (name : String) (minChildren : Nat) :
    (∀ actions before outcome,
      (node name minChildren body actions).run rules allowance before = some outcome ∧
          outcome.verdict = .matched ↔
        ∃ inner pushed, body.run rules allowance before = some (Session.matched inner) ∧
          inner.state.stack = before.state.stack ++ pushed ∧
          if pushed.length ≤ minChildren then outcome = inner.matched
          else ∃ finished, Action.composition actions ⟨name, pushed⟩ = .ok finished ∧
            outcome = (inner.withState { inner.state with
              stack := before.state.stack ++ [finished.toElement] }).matched) ∧
      ∀ first second,
        (node name minChildren body (first ++ second)).run rules allowance =
            (node name minChildren body
              [Action.composition first, Action.composition second]).run rules allowance ∧
          (node name minChildren body (first ++ second)).run rules allowance =
            (node name minChildren body
              [(Action.composition first).andThen (Action.composition second)]).run
                rules allowance := by
  refine ⟨?_, ?_⟩
  · intro actions before outcome
    rw [run_node]
    constructor
    · rintro ⟨ran, matched⟩
      obtain ⟨inner, start, ⟨verdict, rfl⟩ | ⟨-, rfl⟩ | ⟨error, aborted, rfl⟩⟩ :=
        Parser.node_eq_some_iff.mp ran
      · obtain ⟨pushed, stack⟩ := exists_pushed combinators combinator start
        have same : inner.session.matched = inner := by rw [Session.matched, ← verdict]
        exact ⟨inner.session, pushed, by rw [start, same], stack,
          (Session.closeNode_eq_matched_iff stack name minChildren actions).mp ⟨rfl, matched⟩⟩
      · exact absurd matched (Session.verdict_restore_failed_ne inner.session _)
      · rw [aborted] at matched
        cases matched
    · rintro ⟨inner, pushed, start, stack, closing⟩
      obtain ⟨closed, matched⟩ :=
        (Session.closeNode_eq_matched_iff stack name minChildren actions).mpr closing
      exact ⟨Parser.node_eq_some_iff.mpr ⟨_, start, .inl ⟨rfl, closed.symm⟩⟩, matched⟩
  · intro first second
    simp only [run_node]
    constructor
    · refine Parser.node_of_composition_eq ?_ ..
      rw [Action.composition_append, Action.composition_cons, Action.composition_singleton]
    · refine Parser.node_of_composition_eq ?_ ..
      rw [Action.composition_append, Action.composition_singleton]

/-- Of two tokens a rule makes a node, which one action renames and another one turns around; a
single token it leaves as it is. -/
theorem run_node_eq_matched_iff_pair :
    let tokens : List Token := [⟨"a", "1", 0⟩, ⟨"a", "2", 1⟩]
    let one : Element := .leaf ⟨"a", "1", 0⟩
    let two : Element := .leaf ⟨"a", "2", 1⟩
    let rule (actions : List Action) : Grammar := .node "x" 1 (.many (.token "a")) actions
    (∃ outcome, (rule [.rename "pair", .reverse]).run [] 0 (.ofState (.ofTokens tokens)) =
        some outcome ∧
      outcome.verdict = .matched ∧
      outcome.session.state = ⟨tokens, 2, [.node "pair" [two, one]], none⟩ ∧
      (rule [(Action.composition [.rename "pair"]).andThen (Action.composition [.reverse])]).run []
        0 (.ofState (.ofTokens tokens)) = some outcome) ∧
      ∃ outcome, (rule [.rename "pair"]).run [] 0 (.ofState ⟨tokens, 1, [one], none⟩) =
          some outcome ∧
        outcome.verdict = .matched ∧ outcome.session.state = ⟨tokens, 2, [one, two], none⟩ := by
  intro tokens one two rule
  have combinators : Rules.Combinator [] := fun _ member => nomatch member
  have combinator : (Grammar.many (.token "a")).Combinator := trivial
  obtain ⟨wraps, regroup⟩ := @run_node_eq_matched_iff [] _ 0 combinators combinator "x" 1
  have both : (Grammar.many (.token "a")).run [] 0 (.ofState (.ofTokens tokens)) =
      some (Session.ofState ⟨tokens, 2, [one, two], none⟩).matched := by decide
  have last : (Grammar.many (.token "a")).run [] 0 (.ofState ⟨tokens, 1, [one], none⟩) =
      some (Session.ofState ⟨tokens, 2, [one, two], none⟩).matched := by decide
  obtain ⟨ran, matched⟩ := (wraps [.rename "pair", .reverse] _ _).mpr
    ⟨_, [one, two], both, rfl, ⟨"pair", [two, one]⟩, rfl, rfl⟩
  obtain ⟨kept, matched'⟩ := (wraps [.rename "pair"] _ _).mpr ⟨_, [two], last, rfl, rfl⟩
  refine ⟨⟨_, ran, matched, rfl, ?_⟩, _, kept, matched', rfl⟩
  rw [← (regroup [.rename "pair"] [.reverse]).2]
  exact ran

/-- **A rejection is the failure of the body.** A node rule of which an action rejects the node ends
just as the body with a failure after it does, rolled back. That is: where no cut lies at or after
the start it fails and leaves the state of the start, and otherwise the report is about that cut and
the state is the one that the body left, with what it pushed on the stack as the body pushed it. -/
theorem run_node_of_rejected (combinators : rules.Combinator) (combinator : body.Combinator)
    {name : String} {minChildren : Nat} {actions : List Action} {before inner : Session}
    {pushed : List Element} (ran : body.run rules allowance before = some inner.matched)
    (stack : inner.state.stack = before.state.stack ++ pushed) (many : minChildren < pushed.length)
    {rejection : Rejection}
    (rejected : Action.composition actions ⟨name, pushed⟩ = .error rejection) :
    let rule : Grammar := .node name minChildren body actions
    let failing : Grammar := .backtrack (.all [body, .fail])
    rule.run rules allowance before = failing.run rules allowance before ∧
      ((∀ marker ∈ inner.state.cut, marker.cursor < before.state.cursor) →
        ∃ outcome, rule.run rules allowance before = some outcome ∧
          outcome.verdict = .failed ∧ outcome.session.state = before.state) ∧
      ∀ marker, inner.state.cut = some marker → before.state.cursor ≤ marker.cursor →
        ∃ outcome, rule.run rules allowance before = some outcome ∧
          outcome.verdict = .aborted (.committed marker.label marker.cursor
            (inner.state.offsetOf marker.cursor) before.state.cursor inner.state.cursor) ∧
          outcome.session.state = inner.state ∧
          outcome.session.state.stack = before.state.stack ++ pushed := by
  intro rule failing
  have undone : rule.run rules allowance before =
      some (inner.restore before.checkpoint Session.failed) := by
    have closed := Session.closeNode_of_stack_eq stack name minChildren actions
    rw [if_neg (Nat.not_le.mpr many), rejected] at closed
    exact Parser.node_eq_some_iff.mpr ⟨_, ran, .inl ⟨rfl, closed.symm⟩⟩
  have failed : (Grammar.all [body, .fail]).run rules allowance before = some inner.failed := by
    rw [run_all, List.map_cons, Parser.all_cons, Parser.andThen_of_matched ran]
    rfl
  obtain ⟨events, follows⟩ := run_advancing combinators combinator allowance ran
  have advances : before.Advances events inner := follows.advances
  refine ⟨?_, ?_, ?_⟩
  · rw [undone, run_backtrack, Parser.backtrack_of_failed failed]
  · intro free
    rcases advances.restore with ⟨-, restored⟩ | ⟨error, refusal, -⟩
    · rw [undone, restored]
      exact ⟨_, rfl, rfl, rfl⟩
    · obtain ⟨marker, cut, past, -⟩ := ParseState.restore_eq_error_iff.mp refusal
      exact absurd past (Nat.not_le.mpr (free marker cut))
  · intro marker cut past
    rw [undone, Session.restore_of_error (ParseState.restore_of_cut cut past)]
    exact ⟨_, rfl, rfl, rfl, stack⟩

/-- A second action turns down what the first one has emptied: without a cut nothing is left of the
match, and after a cut the tokens are back on the stack. -/
theorem run_node_of_rejected_emptied :
    let rule (last : Grammar) : Grammar :=
      .node "x" 1 (.all [.token "a", .token "b", last]) [.clear, .reject "no"]
    let tokens : List Token := [⟨"z", "z", 0⟩, ⟨"a", "a", 1⟩, ⟨"b", "b", 2⟩]
    let below : Element := .leaf ⟨"z", "z", 0⟩
    let before : ParseState := ⟨tokens, 1, [below], some ⟨"z", 0⟩⟩
    (∃ outcome, (rule .succeed).run [] 0 (.ofState before) = some outcome ∧
      outcome.verdict = .failed ∧ outcome.session.state = before) ∧
      ∃ outcome, (rule (.cut "b")).run [] 0 (.ofState before) = some outcome ∧
        outcome.verdict = .aborted (.committed "b" 3 3 1 3) ∧
        outcome.session.state.stack = [below, .leaf ⟨"a", "a", 1⟩, .leaf ⟨"b", "b", 2⟩] ∧
        (backtrack (.all [.all [.token "a", .token "b", .cut "b"], .fail])).run [] 0
          (.ofState before) = some outcome := by
  intro rule tokens below before
  have combinators : Rules.Combinator [] := fun _ member => nomatch member
  let pushed : List Element := [.leaf ⟨"a", "a", 1⟩, .leaf ⟨"b", "b", 2⟩]
  have more : 1 < pushed.length := by decide
  have rejected : Action.composition [.clear, .reject "no"] ⟨"x", pushed⟩ = .error ⟨"no"⟩ := rfl
  refine ⟨?_, ?_⟩
  · have combinator : (Grammar.all [.token "a", .token "b", .succeed]).Combinator :=
      ⟨trivial, trivial, trivial, trivial⟩
    have ran : (Grammar.all [.token "a", .token "b", .succeed]).run [] 0 (.ofState before) =
        some (Session.ofState { before with cursor := 3, stack := below :: pushed }).matched := by
      decide
    obtain ⟨-, failed, -⟩ := run_node_of_rejected combinators combinator ran rfl more rejected
    exact failed (by decide)
  · have combinator : (Grammar.all [.token "a", .token "b", .cut "b"]).Combinator :=
      ⟨trivial, trivial, trivial, trivial⟩
    let inner : Session := ⟨⟨tokens, 3, below :: pushed, some ⟨"b", 3⟩⟩, [], [.cut ⟨"b", 3⟩]⟩
    have ran : (Grammar.all [.token "a", .token "b", .cut "b"]).run [] 0 (.ofState before) =
        some inner.matched := by decide
    obtain ⟨same, -, aborted⟩ := run_node_of_rejected combinators combinator ran rfl more rejected
    obtain ⟨outcome, closed, error, -, stack⟩ := aborted ⟨"b", 3⟩ rfl (by decide)
    exact ⟨outcome, closed, error, stack, by rw [← same]; exact closed⟩

end Grammar

end TokenGrammar
