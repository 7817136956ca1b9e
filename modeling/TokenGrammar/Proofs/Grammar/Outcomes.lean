import TokenGrammar.Grammar.Evaluation

/-! # Outcomes of combinators

What a combinator makes of the outcomes of its parts, said once for each combinator, so that no
later proof looks into its definition.

* `Session.restore_of_ok`, `Session.restore_of_error`: the two ways a rollback ends.
* `Session.closeNode_of_few`, `Session.closeNode_of_accepted`, `Session.closeNode_of_rejected`: the
  three ways a node rule ends after its body matched, and `Session.closeNode_cases` of them all.
* `Parser.andThen_eq_some_iff` and so on: the finished runs of a combinator.
* `Parser.sequence_eq_backtrack_all`: a sequence is the rolled back form of its parts in order. -/

namespace TokenGrammar

namespace ParseState

/-- A rollback that succeeds was not forbidden by a cut and moved the state to the checkpoint. -/
theorem restore_eq_ok_iff {state next : ParseState} {checkpoint : Checkpoint} :
    state.restore checkpoint = .ok next ↔
      state.committedPast checkpoint = false ∧ next = state.rollback checkpoint := by
  constructor
  · intro restored
    cases past : state.committedPast checkpoint with
    | true =>
        obtain ⟨marker, cut, le⟩ := committedPast_eq_true_iff.mp past
        rw [restore_of_cut cut le] at restored
        cases restored
    | false =>
        rw [restore_of_not_committedPast past] at restored
        exact ⟨rfl, (Except.ok.inj restored).symm⟩
  · rintro ⟨free, rfl⟩
    exact restore_of_not_committedPast free

/-- A rollback that fails was forbidden by a cut at or after the checkpoint. -/
theorem restore_eq_error_iff {state : ParseState} {checkpoint : Checkpoint} {error : ParseError} :
    state.restore checkpoint = .error error ↔
      ∃ marker, state.cut = some marker ∧ checkpoint.cursor ≤ marker.cursor ∧
        error = state.committedError marker checkpoint := by
  constructor
  · intro refused
    cases past : state.committedPast checkpoint with
    | true =>
        obtain ⟨marker, cut, le⟩ := committedPast_eq_true_iff.mp past
        rw [restore_of_cut cut le] at refused
        exact ⟨marker, cut, le, (Except.error.inj refused).symm⟩
    | false =>
        rw [restore_of_not_committedPast past] at refused
        cases refused
  · rintro ⟨marker, cut, le, rfl⟩
    exact restore_of_cut cut le

end ParseState

namespace Session

/-- A rollback that succeeds is reported as asked for. -/
theorem restore_of_ok {session : Session} {checkpoint : Checkpoint} {state : ParseState}
    (restored : session.state.restore checkpoint = .ok state) (report : Session → Outcome) :
    session.restore checkpoint report = report (session.withState state) := by
  rw [restore, restored]

/-- A rollback that fails ends the parse where it stands. -/
theorem restore_of_error {session : Session} {checkpoint : Checkpoint} {error : ParseError}
    (refused : session.state.restore checkpoint = .error error) (report : Session → Outcome) :
    session.restore checkpoint report =
      (session.note (.refused session.state checkpoint)).aborted error := by
  rw [restore, refused]

/-- A rollback of a failure ends in no match. -/
theorem verdict_restore_failed_ne (session : Session) (checkpoint : Checkpoint) :
    (session.restore checkpoint Session.failed).verdict ≠ .matched := by
  intro matched
  cases restored : session.state.restore checkpoint with
  | ok state =>
      rw [restore_of_ok restored] at matched
      cases matched
  | error error =>
      rw [restore_of_error restored] at matched
      cases matched

/-- A body that pushed no more than the threshold is left as it is. -/
theorem closeNode_of_few {session : Session} {checkpoint : Checkpoint} {minChildren : Nat}
    (few : session.state.pushedSince checkpoint ≤ minChildren) (name : String)
    (actions : List Action) :
    session.closeNode checkpoint name minChildren actions = session.matched := by
  rw [closeNode, if_pos few]

/-- A node that every action accepts takes the place of what the body pushed. -/
theorem closeNode_of_accepted {session : Session} {checkpoint : Checkpoint} {minChildren : Nat}
    (many : ¬ session.state.pushedSince checkpoint ≤ minChildren) {name : String}
    {actions : List Action} {finished : Node}
    (accepted : Action.runAll actions (session.state.takeNode checkpoint name).1 = .ok finished) :
    session.closeNode checkpoint name minChildren actions =
      (session.withState
        ((session.state.takeNode checkpoint name).2.push finished.toElement)).matched := by
  rw [closeNode, if_neg many]
  simp only [accepted]

/-- Without actions a node takes the place of what the body pushed. -/
theorem closeNode_of_actionless {session : Session} {checkpoint : Checkpoint} {minChildren : Nat}
    (many : ¬ session.state.pushedSince checkpoint ≤ minChildren) (name : String) :
    session.closeNode checkpoint name minChildren [] =
      (session.withState ((session.state.takeNode checkpoint name).2.push
        (session.state.takeNode checkpoint name).1.toElement)).matched :=
  closeNode_of_accepted many rfl

/-- A node that an action rejects is rolled back as a failure of the body is: where a cut forbids
the rollback the children are all back in their places, and otherwise they are dropped anyway. -/
theorem closeNode_of_rejected {session : Session} {checkpoint : Checkpoint} {minChildren : Nat}
    (many : ¬ session.state.pushedSince checkpoint ≤ minChildren) {name : String}
    {actions : List Action} {rejection : Rejection}
    (rejected :
      Action.runAll actions (session.state.takeNode checkpoint name).1 = .error rejection) :
    session.closeNode checkpoint name minChildren actions =
      session.restore checkpoint Session.failed := by
  rw [closeNode, if_neg many]
  simp only [rejected]
  cases past : session.state.committedPast checkpoint with
  | true =>
      have whole : (session.state.takeNode checkpoint name).2.pushAll
          (session.state.takeNode checkpoint name).1.children = session.state := by
        simp [ParseState.takeNode, ParseState.pushAll]
      rw [if_pos rfl, whole]
      rfl
  | false =>
      have taken : (session.state.takeNode checkpoint name).2.restore checkpoint =
          .ok (session.state.rollback checkpoint) := by
        have free : (session.state.takeNode checkpoint name).2.committedPast checkpoint = false :=
          past
        rw [ParseState.restore_of_not_committedPast free]
        simp [ParseState.takeNode, ParseState.rollback, List.take_take]
      rw [if_neg Bool.false_ne_true, restore_of_ok taken,
        restore_of_ok (ParseState.restore_of_not_committedPast past)]
      rfl

/-- A node rule whose body matched keeps what the body pushed, puts one element in its place, or
rolls back. -/
theorem closeNode_cases (session : Session) (checkpoint : Checkpoint) (name : String)
    (minChildren : Nat) (actions : List Action) :
    session.closeNode checkpoint name minChildren actions = session.matched ∨
      (∃ element, session.closeNode checkpoint name minChildren actions =
        (session.withState ((session.state.takeNode checkpoint name).2.push element)).matched) ∨
      session.closeNode checkpoint name minChildren actions =
        session.restore checkpoint Session.failed := by
  by_cases few : session.state.pushedSince checkpoint ≤ minChildren
  · exact .inl (closeNode_of_few few name actions)
  · cases checked : Action.runAll actions (session.state.takeNode checkpoint name).1 with
    | ok finished =>
        exact .inr (.inl ⟨finished.toElement, closeNode_of_accepted few checked⟩)
    | error rejection => exact .inr (.inr (closeNode_of_rejected few checked))

end Session

namespace Parser

/-- Parts in order end where the first of them does not match. -/
theorem andThen_eq_some_iff {first second : Parser} {before : Session} {outcome : Outcome} :
    first.andThen second before = some outcome ↔
      ∃ middle, first before = some middle ∧
        ((middle.verdict = .matched ∧ second middle.session = some outcome) ∨
          (middle.verdict ≠ .matched ∧ outcome = middle)) := by
  rw [andThen, Option.bind_eq_some_iff]
  refine exists_congr fun middle => and_congr_right fun _ => ?_
  cases verdict : middle.verdict <;> simp [eq_comm]

/-- Alternatives in order end where the first of them does not fail. -/
theorem orElse_eq_some_iff {first second : Parser} {before : Session} {outcome : Outcome} :
    first.orElse second before = some outcome ↔
      ∃ middle, first before = some middle ∧
        ((middle.verdict = .failed ∧ second middle.session = some outcome) ∨
          (middle.verdict ≠ .failed ∧ outcome = middle)) := by
  rw [orElse, Option.bind_eq_some_iff]
  refine exists_congr fun middle => and_congr_right fun _ => ?_
  cases verdict : middle.verdict <;> simp [eq_comm]

/-- Only a failure is rolled back. -/
theorem backtrack_eq_some_iff {body : Parser} {before : Session} {outcome : Outcome} :
    body.backtrack before = some outcome ↔
      ∃ inner, body before = some inner ∧
        ((inner.verdict = .failed ∧
            outcome = inner.session.restore before.checkpoint Session.failed) ∨
          (inner.verdict ≠ .failed ∧ outcome = inner)) := by
  rw [backtrack, Option.map_eq_some_iff]
  refine exists_congr fun inner => and_congr_right fun _ => ?_
  cases verdict : inner.verdict <;> simp [eq_comm]

/-- Only a failure is turned into a match. -/
theorem optional_eq_some_iff {body : Parser} {before : Session} {outcome : Outcome} :
    body.optional before = some outcome ↔
      ∃ inner, body before = some inner ∧
        ((inner.verdict = .failed ∧ outcome = inner.session.matched) ∨
          (inner.verdict ≠ .failed ∧ outcome = inner)) := by
  rw [optional, Option.map_eq_some_iff]
  refine exists_congr fun inner => and_congr_right fun _ => ?_
  cases verdict : inner.verdict <;> simp [eq_comm]

/-- A repetition goes on after a match that consumed something, and ends otherwise. -/
theorem iterate_succ_eq_some_iff {body : Parser} {budget count : Nat} {before : Session}
    {repetition : Repetition} :
    iterate body (budget + 1) count before = some repetition ↔
      ∃ outcome, body before = some outcome ∧
        ((outcome.verdict = .matched ∧
            before.state.cursor < outcome.session.state.cursor ∧
            iterate body budget (count + 1) outcome.session = some repetition) ∨
          (outcome.verdict = .matched ∧
            ¬ before.state.cursor < outcome.session.state.cursor ∧
            repetition = ⟨.error (.noProgress before.state.cursor),
              outcome.session.note (.stalled outcome.session.state)⟩) ∨
          (outcome.verdict = .failed ∧ repetition = ⟨.ok count, outcome.session⟩) ∨
          (∃ error, outcome.verdict = .aborted error ∧
            repetition = ⟨.error error, outcome.session⟩)) := by
  rw [iterate, Option.bind_eq_some_iff]
  refine exists_congr fun outcome => and_congr_right fun _ => ?_
  cases verdict : outcome.verdict with
  | matched =>
      by_cases moved : before.state.cursor < outcome.session.state.cursor
      · simp [moved]
      · simp [moved, eq_comm]
  | failed => simp [eq_comm]
  | aborted error => simp [eq_comm]

/-- A repetition matches, however often its body did, or hands on the error that ended it. -/
theorem many_eq_some_iff {body : Parser} {before : Session} {outcome : Outcome} :
    body.many before = some outcome ↔
      ∃ repetition, body.repeat before = some repetition ∧
        ((∃ count, repetition.result = .ok count ∧ outcome = repetition.session.matched) ∨
          (∃ error, repetition.result = .error error ∧
            outcome = repetition.session.aborted error)) := by
  rw [many, Option.map_eq_some_iff]
  refine exists_congr fun repetition => and_congr_right fun _ => ?_
  cases result : repetition.result <;> simp [eq_comm]

/-- A repetition that needs one match rolls back if there was none. -/
theorem many1_eq_some_iff {body : Parser} {before : Session} {outcome : Outcome} :
    body.many1 before = some outcome ↔
      ∃ repetition, body.repeat before = some repetition ∧
        ((repetition.result = .ok 0 ∧
            outcome = repetition.session.restore before.checkpoint Session.failed) ∨
          (∃ count, repetition.result = .ok (count + 1) ∧
            outcome = repetition.session.matched) ∨
          (∃ error, repetition.result = .error error ∧
            outcome = repetition.session.aborted error)) := by
  rw [many1, Option.map_eq_some_iff]
  refine exists_congr fun repetition => and_congr_right fun _ => ?_
  rcases result : repetition.result with error | count
  · simp [eq_comm]
  · cases count <;> simp [eq_comm]

/-- A node rule closes its node after a match and rolls back a failure. -/
theorem node_eq_some_iff {name : String} {minChildren : Nat} {actions : List Action}
    {body : Parser} {before : Session} {outcome : Outcome} :
    node name minChildren actions body before = some outcome ↔
      ∃ inner, body before = some inner ∧
        ((inner.verdict = .matched ∧
            outcome = inner.session.closeNode before.checkpoint name minChildren actions) ∨
          (inner.verdict = .failed ∧
            outcome = inner.session.restore before.checkpoint Session.failed) ∨
          (∃ error, inner.verdict = .aborted error ∧ outcome = inner)) := by
  rw [node, Option.map_eq_some_iff]
  refine exists_congr fun inner => and_congr_right fun _ => ?_
  cases verdict : inner.verdict <;> simp [eq_comm]

/-- A sequence that has come to its last parts rolls back a failure of these. -/
theorem sequenceFrom_eq_map (checkpoint : Checkpoint) (parts : List Parser) (before : Session) :
    sequenceFrom checkpoint parts before =
      (all parts before).map fun outcome =>
        match outcome.verdict with
        | .failed => outcome.session.restore checkpoint Session.failed
        | _ => outcome := by
  induction parts generalizing before with
  | nil => rfl
  | cons part parts induction =>
      rw [sequenceFrom, all_cons, andThen]
      cases part before with
      | none => rfl
      | some middle =>
          cases verdict : middle.verdict with
          | matched => simp only [Option.bind_some, verdict, induction]
          | failed => simp [verdict]
          | aborted error => simp [verdict]

/-- A sequence is the rolled back form of its parts in order. -/
theorem sequence_eq_backtrack_all (parts : List Parser) :
    sequence parts = (all parts).backtrack := by
  funext before
  exact sequenceFrom_eq_map before.checkpoint parts before

end Parser

end TokenGrammar
