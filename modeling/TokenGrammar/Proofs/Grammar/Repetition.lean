import TokenGrammar.Proofs.Grammar.Regrouping
import TokenGrammar.Proofs.Grammar.Rounds
import TokenGrammar.Proofs.Grammar.StateAlone

/-! # What repetitions do

A repetition goes on as long as it can. Its body does not match what it leaves, so that it does
nothing where it is run again. The repetition that needs one match and the one that needs none can
be expressed in terms of each other, as long as the first round does not stall and no cut is in the
way of a rollback.

* `Parser.FailsCleanly`: a parser that leaves the state alone when it fails.
* `Parser.many1_eq_sequence_many`, `Parser.many_eq_optional_many1`: repetitions by their first call.
* `Grammar.run_many_bounded_and_maximal`: how often a repetition calls its body, and what it leaves.
* `Grammar.run_many1_and_many`: the two repetitions in terms of each other. -/

namespace TokenGrammar

namespace Parser

/-- A parser that leaves the state alone when it fails. -/
def FailsCleanly (parser : Parser) : Prop :=
  ∀ ⦃before after : Session⦄, parser before = some after.failed → after.state = before.state

variable {body : Parser} {before inner : Session} {outcome : Outcome}

/-- Where a parser does not fail, nothing is rolled back. -/
theorem backtrack_of_unfailed
    (unfailed : ∀ outcome, body before = some outcome → outcome.verdict ≠ .failed) :
    body.backtrack before = body before := by
  cases ran : body before with
  | none => rw [backtrack, ran]; rfl
  | some outcome =>
      exact backtrack_eq_some_iff.mpr ⟨outcome, ran, .inr ⟨unfailed outcome ran, rfl⟩⟩

/-- Where a parser does not fail, it is optional anyway. -/
theorem optional_of_unfailed
    (unfailed : ∀ outcome, body before = some outcome → outcome.verdict ≠ .failed) :
    body.optional before = body before := by
  cases ran : body before with
  | none => rw [optional, ran]; rfl
  | some outcome =>
      exact optional_eq_some_iff.mpr ⟨outcome, ran, .inr ⟨unfailed outcome ran, rfl⟩⟩

/-! ## Repetitions by their first call -/

/-- A repetition does not fail. -/
theorem verdict_many_ne_failed (ran : body.many before = some outcome) :
    outcome.verdict ≠ .failed := by
  obtain ⟨repetition, -, ⟨count, -, rfl⟩ | ⟨error, -, rfl⟩⟩ := many_eq_some_iff.mp ran <;> nofun

/-- A repetition whose first call does not finish does not finish. -/
theorem many_of_none (ran : body before = none) : body.many before = none := by
  rw [many, «repeat», iterationBudget, iterate, ran]
  rfl

/-- A repetition that needs one match and whose first call does not finish does not finish. -/
theorem many1_of_none (ran : body before = none) : body.many1 before = none := by
  rw [many1, «repeat», iterationBudget, iterate, ran]
  rfl

/-- A repetition that ends with its first call. -/
theorem LastRound.many_eq (lastRound : body.LastRound before outcome) :
    body.many before = some outcome := by
  obtain ⟨repetition, repeated, same⟩ := lastRound.iterate _ 0
  exact Option.map_eq_some_iff.mpr ⟨repetition, repeated, same⟩

/-- A repetition that matches ends with a failure of its body. -/
theorem LastRound.failed_of_matched (lastRound : body.LastRound before inner.matched) :
    body before = some inner.failed := by
  cases lastRound with
  | failed ran => exact ran

section

variable (advancing : body.Advancing) (stops : body.StopsAtEnd)

include advancing stops

/-- A repetition that needs one match is its body and then a repetition that needs none, if the
first call of the body does not match without moving the cursor. -/
theorem many1_eq_sequence_many
    (moves : ∀ outcome, body before = some outcome → outcome.verdict = .matched →
      before.state.cursor < outcome.session.state.cursor) :
    body.many1 before = sequence [body, body.many] before := by
  rw [sequence_eq_backtrack_all, all_cons, all_cons, all_nil, andThen_succeed]
  -- Both sides begin with the same call of the body, and its outcome says how they go on.
  cases start : body before with
  | none => rw [many1_of_none start, backtrack, andThen, start]; rfl
  | some first =>
      obtain ⟨verdict, middle⟩ := first
      cases verdict with
      | matched =>
          -- What follows the first round is a repetition either way, and does not fail.
          have rest : body.andThen body.many before = body.many middle :=
            andThen_of_matched start _
          have unfailed : ∀ outcome, body.andThen body.many before = some outcome →
              outcome.verdict ≠ .failed := by
            intro outcome ran
            exact verdict_many_ne_failed (rest.symm.trans ran)
          have moved : before.state.cursor < middle.state.cursor := moves _ start rfl
          rw [many1_eq_many start (by simp), many_of_round advancing stops start moved,
            backtrack_of_unfailed unfailed, rest]
      | failed =>
          rw [many1_of_failed start rfl]
          exact (backtrack_of_failed (andThen_of_failed start _)).symm
      | aborted error =>
          rw [many1_eq_many start (by simp), (LastRound.aborted start).many_eq, backtrack, andThen,
            start]
          rfl

end

/-- A repetition that needs no match is the optional form of one that needs a match, if the body
fails cleanly and no cut is in the way of the rollback to the start. -/
theorem many_eq_optional_many1 (clean : body.FailsCleanly)
    (free : before.state.committedPast before.checkpoint = false) :
    body.many before = body.many1.optional before := by
  cases start : body before with
  | none => rw [many_of_none start, optional, many1_of_none start]; rfl
  | some first =>
      obtain ⟨verdict, middle⟩ := first
      by_cases failed : verdict = .failed
      · subst failed
        -- The repetition that needs a match rolls back where there is nothing to roll back.
        have same : middle.state = before.state := clean start
        have restored : middle.state.restore before.checkpoint = .ok middle.state := by
          rw [same, ParseState.restore_of_not_committedPast free, Session.checkpoint_eq,
            ParseState.rollback_checkpoint]
        rw [(LastRound.failed start).many_eq, optional, many1_of_failed start rfl,
          Session.restore_of_ok restored]
        rfl
      · have alike : body.many1 before = body.many before := many1_eq_many start failed
        have unfailed : ∀ outcome, body.many1 before = some outcome →
            outcome.verdict ≠ .failed := by
          intro outcome ran
          exact verdict_many_ne_failed (alike.symm.trans ran)
        rw [optional_of_unfailed unfailed, alike]

end Parser

namespace Grammar

variable {rules : Rules} {body : Grammar} {allowance : Nat}

/-- Grammars that roll back fail cleanly. -/
theorem Restores.failsCleanly (restores : body.Restores rules) (combinators : rules.Combinator)
    (combinator : body.Combinator) (allowance : Nat) :
    (body.run rules allowance).FailsCleanly :=
  fun _ _ ran => (run_restoring combinators restores combinator allowance ran rfl).1

section

variable (combinators : rules.Combinator) (combinator : body.Combinator)

include combinators combinator

/-- A body that fails cleanly fails again where a repetition of it has matched. -/
theorem exists_failed_of_many (clean : (body.run rules allowance).FailsCleanly)
    {before after again : Session}
    (ran : (many body).run rules allowance before = some after.matched)
    (same : again.state = after.state) :
    ∃ last : Session, body.run rules allowance again = some last.failed ∧
      last.state = again.state := by
  obtain ⟨count, last, -, lastRound⟩ := (Parser.many_eq_some_iff_rounds
    (run_advancing combinators combinator allowance)
    (run_stopsAtEnd combinators combinator allowance)).mp ran
  have failed := lastRound.failed_of_matched
  -- What the repetition left is the state in which its body was called last.
  have kept : after.state = last.state := clean failed
  obtain ⟨other, failedAgain, left⟩ := exists_failed_of_state_eq combinators combinator
    (kept.symm.trans same.symm) failed
  exact ⟨other, failedAgain, left.trans same.symm⟩

/-- **Repetitions are bounded, maximal and idempotent.** Whatever a repetition does, it calls its
body at most once for each token left and once more, and it finishes if all these calls do. It is
rounds that move the cursor and a call that ends it, and it never fails. Where it has matched, a
body that fails cleanly fails and leaves the state alone, and so the repetition matches again and
leaves the state alone. -/
theorem run_many_bounded_and_maximal (before : Session) :
    (∀ count last, (body.run rules allowance).Rounds before count last →
        count + 1 ≤ before.state.tokens.length - before.state.cursor + 1) ∧
      ((∀ count last, (body.run rules allowance).Rounds before count last →
          (body.run rules allowance last).isSome) →
        ((many body).run rules allowance before).isSome) ∧
      (∀ outcome, (many body).run rules allowance before = some outcome ↔
        ∃ count last, (body.run rules allowance).Rounds before count last ∧
          (body.run rules allowance).LastRound last outcome) ∧
      (∀ outcome, (many body).run rules allowance before = some outcome →
        outcome.verdict ≠ .failed) ∧
      ((body.run rules allowance).FailsCleanly → ∀ after : Session,
        (many body).run rules allowance before = some after.matched →
        ∀ again : Session, again.state = after.state →
          ∃ last : Session, body.run rules allowance again = some last.failed ∧
            (many body).run rules allowance again = some last.matched ∧
            last.state = again.state) := by
  have advancing := run_advancing combinators combinator allowance
  have stops := run_stopsAtEnd combinators combinator allowance
  refine ⟨?_, ?_, ?_, ?_, ?_⟩
  · intro count last rounds
    exact Nat.succ_le_succ (rounds.count_le advancing stops)
  · exact Parser.isSome_many_of_rounds advancing stops
  · intro outcome
    exact Parser.many_eq_some_iff_rounds advancing stops
  · intro outcome ran
    exact Parser.verdict_many_ne_failed ran
  · intro clean after ran again same
    obtain ⟨last, failed, left⟩ := exists_failed_of_many combinators combinator clean ran same
    exact ⟨last, failed, (Parser.LastRound.failed failed).many_eq, left⟩

end

/-- Items with a cut after their first token: the mark of the last cut is not in the way of the call
that ends the repetition, and it stays where it is. -/
theorem run_many_bounded_and_maximal_items :
    let item : Grammar := .sequence [.token "a", .cut "item", .eat ";"]
    let tokens : List Token :=
      [⟨"a", "a", 0⟩, ⟨";", ";", 1⟩, ⟨"a", "a", 2⟩, ⟨";", ";", 3⟩, ⟨"b", "b", 4⟩]
    let before : Session := .ofState (.ofTokens tokens)
    let after : ParseState :=
      ⟨tokens, 4, [.leaf ⟨"a", "a", 0⟩, .leaf ⟨"a", "a", 2⟩], some ⟨"item", 3⟩⟩
    ∃ outcome, (many item).run [] 0 before = some outcome ∧ outcome.verdict ≠ .failed ∧
      outcome.session.state = after ∧
      (∃ count last, (item.run [] 0).Rounds before count last ∧ count + 1 ≤ 6 ∧
        (item.run [] 0).LastRound last outcome) ∧
      ∃ last : Session, item.run [] 0 (.ofState after) = some last.failed ∧
        (many item).run [] 0 (.ofState after) = some last.matched ∧ last.state = after := by
  intro item tokens before after
  have combinators : Rules.Combinator [] := nofun
  have combinator : item.Combinator := ⟨trivial, trivial, trivial, trivial⟩
  have clean : (item.run [] 0).FailsCleanly :=
    (Restores.sequence _).failsCleanly combinators combinator 0
  have ran : (many item).run [] 0 before =
      some (Session.matched ⟨after, [], [.cut ⟨"item", 1⟩, .cut ⟨"item", 3⟩]⟩) := by decide
  obtain ⟨bounded, -, inRounds, unfailed, maximal⟩ :=
    run_many_bounded_and_maximal combinators combinator before
  obtain ⟨count, last, rounds, lastRound⟩ := (inRounds _).mp ran
  exact ⟨_, ran, unfailed _ ran, rfl, ⟨count, last, rounds, bounded count last rounds, lastRound⟩,
    maximal clean _ ran _ rfl⟩

section

variable (combinators : rules.Combinator) (combinator : body.Combinator)

include combinators combinator

/-- **The repetitions agree with each other.** One that needs a match is its body and then one that
needs none, unless the first call of the body matches without moving the cursor. One that needs no
match is the optional form of one that needs a match, if the body fails cleanly and no cut lies at
or after the cursor. They agree in the verdict, error and all, and in the session they leave, and
they agree on whether they finish. -/
theorem run_many1_and_many (before : Session) :
    ((∀ outcome, body.run rules allowance before = some outcome → outcome.verdict = .matched →
        before.state.cursor < outcome.session.state.cursor) →
      (many1 body).run rules allowance before =
        (sequence [body, many body]).run rules allowance before) ∧
      ((body.run rules allowance).FailsCleanly →
        (∀ marker ∈ before.state.cut, marker.cursor < before.state.cursor) →
          (many body).run rules allowance before =
            (optional (many1 body)).run rules allowance before) := by
  constructor
  · intro moves
    have advancing := run_advancing combinators combinator allowance
    have stops := run_stopsAtEnd combinators combinator allowance
    rw [run_sequence]
    exact Parser.many1_eq_sequence_many advancing stops moves
  · intro clean behind
    apply Parser.many_eq_optional_many1 clean
    refine Bool.eq_false_iff.mpr fun past => ?_
    obtain ⟨marker, cut, notBehind⟩ := ParseState.committedPast_eq_true_iff.mp past
    exact Nat.not_le_of_lt (behind marker cut) notBehind

end

/-- Items with a cut after their first token, the second of which is not complete: all four ways to
repeat them are given up with the same report. -/
theorem run_many1_and_many_items :
    let item : Grammar := .sequence [.token "a", .cut "item", .token "b"]
    let tokens : List Token := [⟨"a", "a", 0⟩, ⟨"b", "b", 2⟩, ⟨"a", "a", 4⟩, ⟨"c", "c", 6⟩]
    let before : Session := .ofState (.ofTokens tokens)
    ∃ outcome, (many1 item).run [] 0 before = some outcome ∧
      (sequence [item, many item]).run [] 0 before = some outcome ∧
      (many item).run [] 0 before = some outcome ∧
      (optional (many1 item)).run [] 0 before = some outcome ∧
      outcome.verdict = .aborted (.committed "item" 3 6 2 3) := by
  intro item tokens before
  have combinators : Rules.Combinator [] := nofun
  have combinator : item.Combinator := ⟨trivial, trivial, trivial, trivial⟩
  have clean : (item.run [] 0).FailsCleanly :=
    (Restores.sequence _).failsCleanly combinators combinator 0
  have moves : ∀ outcome, item.run [] 0 before = some outcome → outcome.verdict = .matched →
      before.state.cursor < outcome.session.state.cursor := by
    intro outcome ran _
    have first : item.run [] 0 before = some (Session.matched
        ⟨⟨tokens, 2, [.leaf ⟨"a", "a", 0⟩, .leaf ⟨"b", "b", 2⟩], some ⟨"item", 1⟩⟩, [],
          [.cut ⟨"item", 1⟩]⟩) := by decide
    cases Option.some.inj (first.symm.trans ran)
    decide
  obtain ⟨inOrder, asOptional⟩ := run_many1_and_many combinators combinator before
  have sequential := inOrder moves
  have optional := asOptional clean nofun
  let last : ParseState := ⟨tokens, 3,
    [.leaf ⟨"a", "a", 0⟩, .leaf ⟨"b", "b", 2⟩, .leaf ⟨"a", "a", 4⟩], some ⟨"item", 3⟩⟩
  let events : List Event := [.cut ⟨"item", 1⟩, .cut ⟨"item", 3⟩, .refused last ⟨2, 2⟩]
  have ran1 : (many1 item).run [] 0 before =
      some (Session.aborted ⟨last, [], events⟩ (.committed "item" 3 6 2 3)) := by decide
  have ran : (many item).run [] 0 before =
      some (Session.aborted ⟨last, [], events⟩ (.committed "item" 3 6 2 3)) := by decide
  exact ⟨_, ran1, sequential.symm.trans ran1, ran, optional.symm.trans ran, rfl⟩

end Grammar

end TokenGrammar
