import TokenGrammar.Proofs.Grammar.Advance

/-! # Failures leave no trace

A parser that rolls back when it fails leaves the parse state exactly as it found it, whatever its
parts consumed, pushed and committed on the way: the rollback is refused after a cut, and without
one the cursor and the height of the stack are all that has changed.

* `Grammar.Restores`: the grammars that roll back when they fail.
* `Parser.Restoring`: a parser that leaves the state alone when it fails.
* `Grammar.run_restoring`: grammars that roll back leave the state alone when they fail, and no cut
  was made then.
* `Grammar.state_eq_of_failed`: in particular the state is the one before. -/

namespace TokenGrammar

namespace Grammar

/-- The grammars that roll back when they fail, or have nothing to roll back. What they are built
from is arbitrary, except that alternatives and rules must roll back themselves. -/
inductive Restores (rules : Rules) : Grammar → Prop where
  /-- A primitive changes nothing when it fails. -/
  | primitive {grammar : Grammar} (primitive : grammar.Primitive) : Restores rules grammar
  /-- A body that is rolled back. -/
  | backtrack (body : Grammar) : Restores rules (.backtrack body)
  /-- Parts that are rolled back. -/
  | sequence (parts : List Grammar) : Restores rules (.sequence parts)
  /-- A repetition that needs one match is rolled back without one. -/
  | many1 (body : Grammar) : Restores rules (.many1 body)
  /-- A node rule is rolled back. -/
  | node (name : String) (minChildren : Nat) (body : Grammar) (actions : List Action) :
      Restores rules (.node name minChildren body actions)
  /-- An optional part does not fail. -/
  | optional (body : Grammar) : Restores rules (.optional body)
  /-- A repetition does not fail. -/
  | many (body : Grammar) : Restores rules (.many body)
  /-- Alternatives that roll back. -/
  | choice {alternatives : List Grammar}
      (restores : ∀ alternative ∈ alternatives, Restores rules alternative) :
      Restores rules (.choice alternatives)
  /-- A rule that rolls back. -/
  | rule {name : String} (restores : ∀ body, rules.lookup name = some body → Restores rules body) :
      Restores rules (.rule name)

end Grammar

namespace Parser

/-- A parser that leaves the state alone when it fails, and made no cut then. -/
def Restoring (parser : Parser) : Prop :=
  ∀ ⦃before : Session⦄ ⦃outcome : Outcome⦄, parser before = some outcome →
    outcome.verdict = .failed →
    outcome.session.state = before.state ∧
      ∃ events, outcome.session.log = before.log ++ events ∧ lastCut? events = none

/-- A rollback to the start that succeeds leaves the state of the start. -/
theorem state_eq_of_restore {before after : Session} {events : List Event}
    (advances : before.Advances events after)
    (failed : (after.restore before.checkpoint Session.failed).verdict = .failed) :
    (after.restore before.checkpoint Session.failed).session.state = before.state ∧
      ∃ more, (after.restore before.checkpoint Session.failed).session.log = before.log ++ more ∧
        lastCut? more = none := by
  rcases advances.restore with ⟨noCut, restored⟩ | ⟨error, -, refused⟩
  · rw [restored]
    exact ⟨rfl, events, advances.log, noCut⟩
  · rw [refused] at failed
    cases failed

/-- A primitive that fails has done nothing. -/
theorem restoring_primitive (grammar : Grammar) (primitive : grammar.Primitive)
    (call : String → Parser) : Restoring (grammar.eval call) := by
  have unchanged : ∀ {before : Session} {outcome : Outcome}, outcome.session = before →
      outcome.session.state = before.state ∧
        ∃ events, outcome.session.log = before.log ++ events ∧ lastCut? events = none := by
    rintro before outcome rfl
    exact ⟨rfl, [], (List.append_nil _).symm, rfl⟩
  -- A step that was made is a match.
  have notStepped : ∀ {before : Session} {next? : Option ParseState},
      (before.step next?).verdict = .failed → (before.step next?).session = before := by
    intro before next? failed
    cases next? with
    | none => rfl
    | some next => cases failed
  have tested : ∀ (before : Session) (condition : Bool),
      (before.test condition).session = before := by
    intro before condition
    cases condition <;> rfl
  intro before outcome ran failed
  cases grammar with
  | peek | endOfInput =>
      cases Option.some.inj ran
      exact unchanged (tested before _)
  | token | tokenExcept | eat | any | skip =>
      cases Option.some.inj ran
      exact unchanged (notStepped failed)
  | fail =>
      cases Option.some.inj ran
      exact unchanged rfl
  | cut | trace | succeed =>
      cases Option.some.inj ran
      cases failed
  | _ => exact primitive.elim

/-- A failure that is rolled back leaves no trace. -/
theorem Advancing.restoring_backtrack {body : Parser} (advancing : body.Advancing) :
    body.backtrack.Restoring := by
  intro before outcome ran failed
  obtain ⟨inner, start, ⟨-, rfl⟩ | ⟨unfailed, rfl⟩⟩ := backtrack_eq_some_iff.mp ran
  · obtain ⟨events, follows⟩ := advancing start
    exact state_eq_of_restore follows.advances failed
  · exact absurd failed unfailed

/-- A repetition that fails for want of a match leaves no trace. -/
theorem Advancing.restoring_many1 {body : Parser} (advancing : body.Advancing) :
    body.many1.Restoring := by
  intro before outcome ran failed
  obtain ⟨repetition, repeated, ⟨-, rfl⟩ | ⟨count, -, rfl⟩ | ⟨error, -, rfl⟩⟩ :=
    many1_eq_some_iff.mp ran
  · obtain ⟨events, advances, -⟩ := advancing.iterate _ _ repeated
    exact state_eq_of_restore advances failed
  · cases failed
  · cases failed

/-- A node rule that fails, for want of a match or because an action rejected the node, leaves no
trace. -/
theorem Advancing.restoring_node (name : String) (minChildren : Nat) (actions : List Action)
    {body : Parser} (advancing : body.Advancing) :
    (Parser.node name minChildren actions body).Restoring := by
  intro before outcome ran failed
  obtain ⟨inner, start, closing⟩ := node_eq_some_iff.mp ran
  obtain ⟨events, follows⟩ := advancing start
  rcases closing with ⟨-, rfl⟩ | ⟨-, rfl⟩ | ⟨error, aborted, rfl⟩
  · rcases inner.session.closeNode_cases before.checkpoint name minChildren actions with
      kept | ⟨element, replaced⟩ | undone
    · rw [kept] at failed
      cases failed
    · rw [replaced] at failed
      cases failed
    · rw [undone] at failed ⊢
      exact state_eq_of_restore follows.advances failed
  · exact state_eq_of_restore follows.advances failed
  · rw [aborted] at failed
    cases failed

/-- An optional part does not fail. -/
theorem restoring_optional (body : Parser) : body.optional.Restoring := by
  intro before outcome ran failed
  obtain ⟨inner, -, ⟨-, rfl⟩ | ⟨unfailed, rfl⟩⟩ := optional_eq_some_iff.mp ran
  · cases failed
  · exact absurd failed unfailed

/-- A repetition does not fail. -/
theorem restoring_many (body : Parser) : body.many.Restoring := by
  intro before outcome ran failed
  obtain ⟨repetition, -, ⟨count, -, rfl⟩ | ⟨error, -, rfl⟩⟩ := many_eq_some_iff.mp ran
  · cases failed
  · cases failed

/-- An alternative that fails hands the state of the start on to the next one. -/
theorem Restoring.orElse {first second : Parser} (left : first.Restoring)
    (right : second.Restoring) : (first.orElse second).Restoring := by
  intro before outcome ran failed
  obtain ⟨middle, start, ⟨failedFirst, rest⟩ | ⟨unfailed, rfl⟩⟩ := orElse_eq_some_iff.mp ran
  · obtain ⟨sameFirst, events, logFirst, noCutFirst⟩ := left start failedFirst
    obtain ⟨sameSecond, later, logSecond, noCutSecond⟩ := right rest failed
    refine ⟨sameSecond.trans sameFirst, events ++ later, ?_, ?_⟩
    · rw [logSecond, logFirst, List.append_assoc]
    · rw [lastCut?_append, noCutSecond, noCutFirst]
      rfl
  · exact absurd failed unfailed

/-- Alternatives that leave the state alone do so together. -/
theorem restoring_choice {alternatives : List Parser}
    (restoring : ∀ alternative ∈ alternatives, Restoring alternative) :
    (choice alternatives).Restoring := by
  induction alternatives with
  | nil => exact restoring_primitive .fail trivial fun _ => .fail
  | cons alternative alternatives induction =>
      rw [choice_cons]
      exact (restoring alternative List.mem_cons_self).orElse
        (induction fun other member => restoring other (List.mem_cons_of_mem _ member))

end Parser

namespace Grammar

/-- Grammars that roll back when they fail leave the state alone then, and made no cut. -/
theorem run_restoring {rules : Rules} (combinators : rules.Combinator) {grammar : Grammar}
    (restores : grammar.Restores rules) (combinator : grammar.Combinator) (allowance : Nat) :
    (grammar.run rules allowance).Restoring := by
  induction restores generalizing allowance with
  | primitive primitive => exact Parser.restoring_primitive _ primitive (call rules allowance)
  | backtrack body =>
      have inner : body.Combinator := combinator
      have advancing := run_advancing combinators inner allowance
      exact advancing.restoring_backtrack
  | sequence parts =>
      have inner : (Grammar.all parts).Combinator := combinator
      have advancing := run_advancing combinators inner allowance
      rw [run_all] at advancing
      rw [run_sequence, Parser.sequence_eq_backtrack_all]
      exact advancing.restoring_backtrack
  | many1 body =>
      have inner : body.Combinator := combinator
      have advancing := run_advancing combinators inner allowance
      exact advancing.restoring_many1
  | node name minChildren body actions =>
      have inner : body.Combinator := combinator
      have advancing := run_advancing combinators inner allowance
      exact advancing.restoring_node name minChildren actions
  | optional body => exact Parser.restoring_optional _
  | many body => exact Parser.restoring_many _
  | choice restores induction =>
      rw [run_choice]
      refine Parser.restoring_choice fun parser member => ?_
      obtain ⟨alternative, among, rfl⟩ := List.mem_map.mp member
      exact induction alternative among (combinatorAll_iff.mp combinator alternative among)
        allowance
  | @rule name restores induction =>
      cases allowance with
      | zero => exact fun _ _ ran => nomatch ran
      | succ allowance =>
          rw [run_rule, call_succ]
          cases found : rules.lookup name with
          | none => exact Parser.restoring_primitive .fail trivial (call rules allowance)
          | some body => exact induction body found (combinators.of_lookup found) allowance

/-- **Failures leave no trace.** When a grammar that rolls back fails, the tokens, the cursor, every
element of the stack and the mark of the last cut are those of the start. -/
theorem state_eq_of_failed {rules : Rules} (combinators : rules.Combinator) {grammar : Grammar}
    (restores : grammar.Restores rules) (combinator : grammar.Combinator) {allowance : Nat}
    {before : Session} {outcome : Outcome} (ran : grammar.run rules allowance before = some outcome)
    (failed : outcome.verdict = .failed) : outcome.session.state = before.state :=
  (run_restoring combinators restores combinator allowance ran failed).1

/-- Neither a rule that kept a token of its pair nor a sequence that kept another leaves anything
behind. -/
theorem state_eq_of_failed_choice :
    let rules : Rules := [("pair", .node "pair" 0 (.all [.token "a", .token "b"]) [])]
    let grammar : Grammar :=
      .choice [.rule "pair", .sequence [.token "a", .many1 (.token "c")]]
    let before : Session := .ofState
      ⟨[⟨"z", "z", 0⟩, ⟨"a", "a", 1⟩, ⟨"d", "d", 2⟩], 1, [.leaf ⟨"z", "z", 0⟩], some ⟨"z", 0⟩⟩
    ∃ outcome, grammar.run rules 1 before = some outcome ∧ outcome.verdict = .failed ∧
      outcome.session.state = before.state := by
  intro rules grammar before
  have combinators : rules.Combinator := .single ⟨trivial, trivial, trivial⟩
  have combinator : grammar.Combinator := by
    simp [grammar, Combinator, CombinatorAll]
  have restores : grammar.Restores rules := by
    refine .choice fun alternative among => ?_
    rcases List.mem_cons.mp among with rfl | among
    · refine .rule fun body found => ?_
      cases Option.some.inj found
      exact .node ..
    · rw [List.mem_singleton.mp among]
      exact .sequence _
  have ran : grammar.run rules 1 before = some before.failed := by decide
  exact ⟨before.failed, ran, rfl, state_eq_of_failed combinators restores combinator ran rfl⟩

end Grammar

end TokenGrammar
