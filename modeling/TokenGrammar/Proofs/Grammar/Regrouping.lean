import TokenGrammar.Proofs.Grammar.Lockstep
import TokenGrammar.Proofs.Grammar.Rollback

/-! # Sequences can be regrouped

The last parts of a sequence can be put into a sequence of their own. That one rolls back to a place
further on than the sequence around it, so that the two may notice a cut at different places. The
parse comes out the same, and where a cut ends it, the report is about the same cut.

* `Parser.andThen_assoc`, `Parser.all_append`: parts in order can be regrouped freely.
* `Parser.backtrack_backtrack`: a second rollback finds nothing to roll back.
* `Outcome.Regrouped`: two outcomes that differ at most in what an abort says about the rollback.
* `Parser.regrouped_andThen`: the last parts may roll back on their own.
* `Grammar.run_sequence_regrouped`: the three together. -/

namespace TokenGrammar

namespace ParseState

/-- After a rollback to a checkpoint a second one to the same checkpoint changes nothing. -/
theorem restore_of_restore {state next : ParseState} {checkpoint : Checkpoint}
    (restored : state.restore checkpoint = .ok next) : next.restore checkpoint = .ok next := by
  obtain ⟨free, rfl⟩ := restore_eq_ok_iff.mp restored
  have again : (state.rollback checkpoint).rollback checkpoint = state.rollback checkpoint := by
    simp [rollback, List.take_take]
  -- The mark of the cut is not rolled back, and forbids the second rollback no more than the first.
  exact restore_eq_ok_iff.mpr ⟨free, again.symm⟩

end ParseState

namespace Parser

/-- A match at the end of parts in order changes nothing. -/
@[simp] theorem andThen_succeed (parser : Parser) : parser.andThen succeed = parser := by
  funext before
  rw [andThen]
  cases parser before with
  | none => rfl
  | some outcome =>
      obtain ⟨verdict, session⟩ := outcome
      cases verdict <;> rfl

/-- Parts in order can be regrouped. -/
theorem andThen_assoc (first second third : Parser) :
    (first.andThen second).andThen third = first.andThen (second.andThen third) := by
  funext before
  rw [andThen, andThen, andThen]
  cases first before with
  | none => rfl
  | some middle =>
      simp only [Option.bind_some]
      cases verdict : middle.verdict with
      | matched => rfl
      | failed | aborted => simp only [Option.bind_some, verdict]

/-- Two lists of parts, one after the other. -/
theorem all_append (first second : List Parser) :
    all (first ++ second) = (all first).andThen (all second) := by
  induction first with
  | nil =>
      funext before
      rfl
  | cons part parts induction =>
      rw [List.cons_append, all_cons, all_cons, induction, andThen_assoc]

/-- A second rollback finds nothing to roll back. -/
theorem backtrack_backtrack (body : Parser) : body.backtrack.backtrack = body.backtrack := by
  funext before
  rw [backtrack]
  cases ran : body.backtrack before with
  | none => rfl
  | some outcome =>
      rw [Option.map_some]
      obtain ⟨inner, -, ⟨-, rfl⟩ | ⟨unfailed, rfl⟩⟩ := backtrack_eq_some_iff.mp ran
      · cases restored : inner.session.state.restore before.checkpoint with
        | ok state =>
            have again : (inner.session.withState state).state.restore before.checkpoint =
                .ok state := ParseState.restore_of_restore restored
            rw [Session.restore_of_ok restored]
            exact congrArg some (Session.restore_of_ok again Session.failed)
        | error error => rw [Session.restore_of_error restored]; rfl
      · cases verdict : outcome.verdict with
        | failed => exact absurd verdict unfailed
        | matched | aborted => rfl

end Parser

/-- Two outcomes of runs from the same state that may differ in what an abort because of a cut says
about the rollback: which place it was to lead to, and how far the parse had come. -/
inductive Outcome.Regrouped (before : ParseState) : Outcome → Outcome → Prop where
  /-- Both matched, in the same state. -/
  | matched {after after' : Session} (same : after'.state = after.state) :
      Regrouped before after.matched after'.matched
  /-- Both failed, in the state of the start. -/
  | failed {after after' : Session} (restored : after.state = before)
      (restored' : after'.state = before) : Regrouped before after.failed after'.failed
  /-- In both the same repetition made no progress. -/
  | stalled {after after' : Session} (cursor : Nat) (same : after'.state = after.state) :
      Regrouped before (after.aborted (.noProgress cursor)) (after'.aborted (.noProgress cursor))
  /-- In both a rollback was refused because of the same cut. -/
  | committed {after after' : Session} (label : String)
      (cutPosition offset checkpoint cursor checkpoint' cursor' : Nat) :
      Regrouped before (after.aborted (.committed label cutPosition offset checkpoint cursor))
        (after'.aborted (.committed label cutPosition offset checkpoint' cursor'))

namespace Outcome.Regrouped

/-- An outcome agrees with itself if a failure leaves the state of the start. -/
theorem refl {before : ParseState} {outcome : Outcome}
    (restored : outcome.verdict = .failed → outcome.session.state = before) :
    outcome.Regrouped before outcome := by
  obtain ⟨verdict, session⟩ := outcome
  cases verdict with
  | matched => exact .matched rfl
  | failed => exact .failed (restored rfl) (restored rfl)
  | aborted error =>
      cases error with
      | committed label cutPosition offset checkpoint cursor => exact .committed ..
      | noProgress cursor => exact .stalled cursor rfl

end Outcome.Regrouped

namespace Session.Advances

variable {before middle last : Session} {events later : List Event}

/-- A rollback that is refused to a place further on is refused to the start because of the same
cut. -/
theorem regrouped_of_refused (first : before.Advances events middle) {error : ParseError}
    (refused : last.state.restore middle.checkpoint = .error error) :
    (last.restore before.checkpoint Session.failed).Regrouped before.state
      (last.restore middle.checkpoint Session.failed) := by
  obtain ⟨marker, cut, past, rfl⟩ := ParseState.restore_eq_error_iff.mp refused
  have past' : before.checkpoint.cursor ≤ marker.cursor := Nat.le_trans first.cursor_le past
  have refused' := ParseState.restore_of_cut cut past'
  rw [restore_of_error refused, restore_of_error refused']
  exact .committed ..

/-- A rollback to a place further on that succeeds makes no difference to one to the start. -/
theorem regrouped_of_restored (first : before.Advances events middle)
    (second : middle.Advances later last) (noCut : lastCut? later = none) :
    (last.restore before.checkpoint Session.failed).Regrouped before.state
      ((last.withState middle.state).restore before.checkpoint Session.failed) := by
  have returned := first.trans (second.undo noCut)
  -- No cut was made since, and so both rollbacks find the same mark.
  have mark : last.state.cut = middle.state.cut := by
    rw [second.cut, noCut]
    rfl
  cases restored : last.state.restore before.checkpoint with
  | ok state =>
      obtain ⟨free, -⟩ := ParseState.restore_eq_ok_iff.mp restored
      have free' : middle.state.committedPast before.checkpoint = false := by
        rw [ParseState.committedPast, ← mark]
        exact free
      have restored' : (last.withState middle.state).state.restore before.checkpoint = .ok _ :=
        ParseState.restore_of_not_committedPast free'
      have undone := Parser.state_eq_of_restore (first.trans second)
      have undone' := Parser.state_eq_of_restore returned
      rw [restore_of_ok restored] at undone ⊢
      rw [restore_of_ok restored'] at undone' ⊢
      exact .failed (undone rfl).1 (undone' rfl).1
  | error error =>
      obtain ⟨marker, cut, past, rfl⟩ := ParseState.restore_eq_error_iff.mp restored
      have refused' : (last.withState middle.state).state.restore before.checkpoint = .error _ :=
        ParseState.restore_of_cut (mark ▸ cut) past
      have offset := ParseState.offsetOf_congr second.tokens marker.cursor
      rw [restore_of_error restored, restore_of_error refused', ParseState.committedError, offset]
      exact .committed ..

end Session.Advances

namespace Outcome

/-- A failure rolled back to a checkpoint, and any other outcome as it is. -/
def rolledBack (outcome : Outcome) (checkpoint : Checkpoint) : Outcome :=
  match outcome.verdict with
  | .failed => outcome.session.restore checkpoint Session.failed
  | _ => outcome

/-- What the last parts leave, rolled back to where they started or not, is rolled back to the start
of the whole alike. -/
theorem regrouped_rolledBack {before middle : Session} {events later : List Event} {last : Outcome}
    (first : before.Advances events middle) (second : last.Follows middle later) :
    (last.rolledBack before.checkpoint).Regrouped before.state
      ((last.rolledBack middle.checkpoint).rolledBack before.checkpoint) := by
  obtain ⟨verdict, session⟩ := last
  cases verdict with
  | matched => exact .refl nofun
  | aborted error => exact .refl nofun
  | failed =>
      -- The rollback to the start of the last parts succeeds, or a cut among them is in the way.
      rcases second.advances.restore with ⟨noCut, restored⟩ | ⟨error, refusal, refused⟩
      · rw [rolledBack, rolledBack, rolledBack, restored]
        exact first.regrouped_of_restored second.advances noCut
      · rw [rolledBack, rolledBack, rolledBack]
        have := first.regrouped_of_refused refusal
        rw [refused] at this ⊢
        exact this

end Outcome

namespace Parser

variable {first second : Parser}

/-- The last parts may roll back on their own. -/
theorem regrouped_andThen (left : first.Advancing) (right : second.Advancing) (before : Session) :
    Option.Rel (Outcome.Regrouped before.state) ((first.andThen second).backtrack before)
      ((first.andThen second.backtrack).backtrack before) := by
  have rollback : ∀ (body : Parser) (session : Session), body.backtrack session =
      (body session).map fun outcome => outcome.rolledBack session.checkpoint := fun _ _ => rfl
  rw [rollback, rollback]
  cases start : first before with
  | none =>
      rw [andThen, andThen, start]
      exact .none
  | some middle =>
      obtain ⟨events, follows⟩ := left start
      obtain ⟨verdict, session⟩ := middle
      cases verdict with
      | matched =>
          rw [andThen_of_matched start, andThen_of_matched start, rollback, Option.map_map]
          cases rest : second session with
          | none => exact .none
          | some last =>
              obtain ⟨later, goesOn⟩ := right rest
              exact .some (Outcome.regrouped_rolledBack follows.advances goesOn)
      | failed =>
          rw [andThen_of_failed start, andThen_of_failed start]
          refine .some (.refl fun failed => ?_)
          exact (state_eq_of_restore follows.advances failed).1
      | aborted error =>
          rw [andThen, andThen, start]
          exact .some (.refl fun failed => by cases failed)

end Parser

namespace Grammar

section

variable {rules : Rules} {allowance : Nat}

/-- **Sequences can be regrouped.** Whether the last parts of a sequence are its own or those of a
sequence at its end, from every state both runs finish or do not, and if they do, both match and
leave the same state, or both fail in the state of the start, or both are given up in the same
repetition that made no progress, or both because of the same cut, with the same label and place. A
sequence is its parts in order, rolled back on failure, in every respect, and what is rolled back on
failure already is not changed by being rolled back again. -/
theorem run_sequence_regrouped (combinators : rules.Combinator) {first second : List Grammar}
    (combinatorFirst : CombinatorAll first) (combinatorSecond : CombinatorAll second)
    (before : Session) :
    Option.Rel (Outcome.Regrouped before.state)
        ((sequence (first ++ second)).run rules allowance before)
        ((sequence (first ++ [sequence second])).run rules allowance before) ∧
      (∀ parts : List Grammar,
        (sequence parts).run rules allowance = (backtrack (all parts)).run rules allowance) ∧
      ∀ body : Grammar, (backtrack (backtrack body)).run rules allowance =
        (backtrack body).run rules allowance := by
  refine ⟨?_, fun parts => ?_, fun body => ?_⟩
  · have advancing : ∀ {parts : List Grammar}, CombinatorAll parts →
        (Parser.all (parts.map (run rules allowance))).Advancing := by
      intro parts combinator
      have inOrder : (all parts).Combinator := combinator
      rw [← run_all]
      exact run_advancing combinators inOrder allowance
    have regrouped :=
      Parser.regrouped_andThen (advancing combinatorFirst) (advancing combinatorSecond) before
    rw [run_sequence, run_sequence, Parser.sequence_eq_backtrack_all,
      Parser.sequence_eq_backtrack_all, List.map_append, List.map_append, Parser.all_append,
      Parser.all_append, List.map_singleton, Parser.all_cons, Parser.all_nil,
      Parser.andThen_succeed, run_sequence, Parser.sequence_eq_backtrack_all]
    exact regrouped
  · rw [run_sequence, Parser.sequence_eq_backtrack_all, run_backtrack, run_all]
  · rw [run_backtrack, run_backtrack, Parser.backtrack_backtrack]

end

/-- A cut that lies before the last parts: the sequence of these rolls back, and the one around it
notices the cut. -/
theorem run_sequence_regrouped_behind :
    let first : List Grammar := [.token "a", .cut "after a", .token "b"]
    let second : List Grammar := [.token "c", .token "d"]
    let tokens : List Token := [⟨"a", "a", 0⟩, ⟨"b", "b", 2⟩, ⟨"c", "c", 4⟩, ⟨"e", "e", 6⟩]
    let before : Session := .ofState (.ofTokens tokens)
    ∃ outcome outcome',
      (sequence (first ++ second)).run [] 0 before = some outcome ∧
        (sequence (first ++ [sequence second])).run [] 0 before = some outcome' ∧
        outcome.verdict = .aborted (.committed "after a" 1 2 0 3) ∧
        outcome.Regrouped before.state outcome' ∧
        ∃ checkpoint cursor, outcome'.verdict =
          .aborted (.committed "after a" 1 2 checkpoint cursor) := by
  intro first second tokens before
  have combinators : Rules.Combinator [] := nofun
  have combinatorFirst : CombinatorAll first := ⟨trivial, trivial, trivial, trivial⟩
  have combinatorSecond : CombinatorAll second := ⟨trivial, trivial, trivial⟩
  let last : ParseState := ⟨tokens, 3,
    [.leaf ⟨"a", "a", 0⟩, .leaf ⟨"b", "b", 2⟩, .leaf ⟨"c", "c", 4⟩], some ⟨"after a", 1⟩⟩
  have ran : (sequence (first ++ second)).run [] 0 before =
      some ⟨.aborted (.committed "after a" 1 2 0 3),
        ⟨last, [], [.cut ⟨"after a", 1⟩, .refused last ⟨0, 0⟩]⟩⟩ := by decide
  obtain ⟨related, -, -⟩ := @run_sequence_regrouped [] 0 combinators first second combinatorFirst
    combinatorSecond before
  rw [ran] at related
  cases nested : (sequence (first ++ [sequence second])).run [] 0 before with
  | none =>
      rw [nested] at related
      cases related
  | some outcome' =>
      rw [nested] at related
      cases related with
      | some regrouped =>
          refine ⟨_, outcome', ran, rfl, rfl, regrouped, ?_⟩
          cases regrouped with
          | committed => exact ⟨_, _, rfl⟩

end Grammar

end TokenGrammar
