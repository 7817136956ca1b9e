import TokenGrammar.Proofs.Grammar.Rollback
import TokenGrammar.Proofs.ParseState.Calls

/-! # Cuts are final

A cut cannot be undone: a parser that made one and rolls back when it fails does not fail any more,
it matches or gives the parse up. What it reports then is the truth about the state that it leaves,
however deep the alternatives, repetitions and nodes are nested around the place of the failure.

* `Session.Explains.of_committed`, `Session.Explains.of_noProgress`: what the two reports say.
* `Grammar.run_final_and_truthful`: the finality of cuts and the truth of reports. -/

namespace TokenGrammar

namespace Session

/-- An abort about a cut is about the last cut, names the place where the parse stopped, and leaves
the state in which the rollback was refused. -/
theorem Explains.of_committed {session : Session} {label : String}
    {cutPosition offset checkpoint cursor : Nat}
    (explains : session.Explains (.committed label cutPosition offset checkpoint cursor)) :
    session.state.cut = some ⟨label, cutPosition⟩ ∧ checkpoint ≤ cutPosition ∧
      cursor = session.state.cursor ∧ offset = session.state.offsetOf cutPosition ∧
      ∃ place : Checkpoint, place.cursor = checkpoint ∧
        session.log.getLast? = some (.refused session.state place) := by
  cases explains with
  | @refused place _ last refusal =>
      obtain ⟨marker, cut, past, report⟩ := ParseState.restore_eq_error_iff.mp refusal
      rw [ParseState.committedError] at report
      cases report
      exact ⟨cut, past, rfl, rfl, place, rfl, last⟩

/-- An abort about a repetition names the place where the parse stopped, and leaves the state in
which the repetition stalled. -/
theorem Explains.of_noProgress {session : Session} {cursor : Nat}
    (explains : session.Explains (.noProgress cursor)) :
    cursor = session.state.cursor ∧ session.log.getLast? = some (.stalled session.state) := by
  cases explains with
  | refused last refusal =>
      obtain ⟨marker, -, -, report⟩ := ParseState.restore_eq_error_iff.mp refusal
      cases report
  | stalled last => exact ⟨rfl, last⟩

end Session

namespace Grammar

/-- **Cuts are final, and aborts are reported truthfully.** A grammar that rolls back when it fails
does not fail after a cut. Where a cut ends the parse, the report is about the last cut made, or the
one of the start if none was made; it lies between the place to roll back to and the place where the
parse stopped; and the state that is left is the one in which the rollback was refused. Where a
repetition ends the parse, the report names the place of the state that is left, and that is the
state in which the repetition stalled. -/
theorem run_final_and_truthful {rules : Rules} (combinators : rules.Combinator)
    {grammar : Grammar} (combinator : grammar.Combinator) {allowance : Nat} {state : ParseState}
    {outcome : Outcome} (ran : grammar.run rules allowance (.ofState state) = some outcome) :
    (∀ marker, grammar.Restores rules → Event.cut marker ∈ outcome.session.log →
        outcome.verdict ≠ .failed) ∧
      (∀ label cutPosition offset checkpoint cursor, state.Reachable →
        outcome.verdict = .aborted (.committed label cutPosition offset checkpoint cursor) →
          outcome.session.state.cut = some ⟨label, cutPosition⟩ ∧
            (lastCut? outcome.session.log).or state.cut = some ⟨label, cutPosition⟩ ∧
            checkpoint ≤ cutPosition ∧ cutPosition ≤ cursor ∧
            cursor = outcome.session.state.cursor ∧
            offset = outcome.session.state.offsetOf cutPosition ∧
            ∃ place : Checkpoint, place.cursor = checkpoint ∧
              outcome.session.log.getLast? = some (.refused outcome.session.state place)) ∧
      (∀ cursor, outcome.verdict = .aborted (.noProgress cursor) →
          cursor = outcome.session.state.cursor ∧
            outcome.session.log.getLast? = some (.stalled outcome.session.state)) := by
  obtain ⟨events, follows⟩ := run_advancing combinators combinator allowance ran
  have log : outcome.session.log = events := follows.advances.log
  refine ⟨?_, ?_, ?_⟩
  · intro marker restores made failed
    obtain ⟨-, more, logged, noCut⟩ :=
      run_restoring combinators restores combinator allowance ran failed
    rw [logged] at made
    exact lastCut?_eq_none_iff.mp noCut marker made
  · intro label cutPosition offset checkpoint cursor reachable aborted
    obtain ⟨cut, past, stopped, start, refused⟩ := (follows.explained _ aborted).of_committed
    have last : (lastCut? outcome.session.log).or state.cut = some ⟨label, cutPosition⟩ := by
      rw [log, ← cut]
      exact follows.advances.cut.symm
    refine ⟨cut, last, past, ?_, stopped, start, refused⟩
    rw [stopped]
    -- The cut was made on the way, or it was there before and not ahead of the cursor.
    cases made : lastCut? events with
    | some marker =>
        rw [log, made] at last
        cases Option.some.inj last
        exact (follows.advances.cut_between _ made).2
    | none =>
        rw [log, made] at last
        exact Nat.le_trans (reachable.cut_le _ last) follows.advances.cursor_le
  · intro cursor aborted
    exact (follows.explained _ aborted).of_noProgress

/-- A cut within a rule within an alternative within a repetition ends the parse, and so does a
repetition of a test. -/
theorem run_final_and_truthful_nested :
    let rules : Rules := [("item", .backtrack (.all [.token "a", .cut "after a", .token "c"]))]
    let tokens : List Token := [⟨"z", "z", 0⟩, ⟨"a", "a", 2⟩, ⟨"b", "b", 4⟩]
    let start : ParseState := ((ParseState.ofTokens tokens).after (.commit "z")).after .keep
    let stopped : ParseState :=
      ⟨tokens, 2, [.leaf ⟨"z", "z", 0⟩, .leaf ⟨"a", "a", 2⟩], some ⟨"after a", 2⟩⟩
    (∃ outcome,
      (Grammar.many1 (.choice [.rule "item", .token "b"])).run rules 1 (.ofState start) =
          some outcome ∧
        outcome.verdict ≠ .failed ∧ outcome.session.state = stopped ∧
        outcome.session.state.cut = some ⟨"after a", 2⟩ ∧ 2 = outcome.session.state.cursor ∧
        4 = outcome.session.state.offsetOf 2 ∧
        outcome.session.log.getLast? = some (.refused stopped ⟨1, 1⟩)) ∧
      ∃ outcome, (Grammar.many (.peek "a")).run rules 1 (.ofState start) = some outcome ∧
        outcome.verdict = .aborted (.noProgress 1) ∧ 1 = outcome.session.state.cursor := by
  intro rules tokens start stopped
  have combinators : rules.Combinator := .single ⟨trivial, trivial, trivial, trivial⟩
  have reachable : start.Reachable := ((ParseState.Reachable.start tokens).call _).call _
  refine ⟨?_, ?_⟩
  · have combinator : (Grammar.many1 (.choice [.rule "item", .token "b"])).Combinator :=
      ⟨trivial, trivial, trivial⟩
    have ran : (Grammar.many1 (.choice [.rule "item", .token "b"])).run rules 1 (.ofState start) =
        some ⟨.aborted (.committed "after a" 2 4 1 2),
          ⟨stopped, [], [.cut ⟨"after a", 2⟩, .refused stopped ⟨1, 1⟩]⟩⟩ := by decide
    obtain ⟨final, committed, -⟩ := run_final_and_truthful combinators combinator ran
    obtain ⟨cut, -, -, -, cursor, offset, -⟩ := committed "after a" 2 4 1 2 reachable rfl
    exact ⟨_, ran, final ⟨"after a", 2⟩ (.many1 _) (by decide), rfl, cut, cursor, offset, rfl⟩
  · have combinator : (Grammar.many (.peek "a")).Combinator := trivial
    have ran : (Grammar.many (.peek "a")).run rules 1 (.ofState start) =
        some ⟨.aborted (.noProgress 1), ⟨start, [], [.stalled start]⟩⟩ := by decide
    obtain ⟨-, -, stalled⟩ := run_final_and_truthful combinators combinator ran
    exact ⟨_, ran, rfl, (stalled 1 rfl).1⟩

end Grammar

end TokenGrammar
