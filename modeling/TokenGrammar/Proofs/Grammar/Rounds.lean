import TokenGrammar.Proofs.Grammar.Termination

/-! # The rounds of a repetition

A repetition calls its body over and over, and each round but the last one matches and moves the
cursor. There is no bound in this description, and none is needed: the cursor never passes the last
token, so that the tokens left bound the rounds.

* `Parser.Rounds`, `Parser.LastRound`: the rounds of a repetition, and the call that ends it.
* `Parser.StopsAtEnd`: a parser that does not move the cursor where no token is left.
* `Parser.Rounds.count_le`: there are no more rounds than tokens.
* `Parser.many_eq_some_iff_rounds`: a repetition is its rounds and the call that ends it.
* `Parser.many_of_round`: after a round a repetition goes on as if it started there. -/

namespace TokenGrammar

namespace Parser

/-- Rounds of a repetition from one session to another: each of them matches, moves the cursor and
leaves the session in which the body is called next. -/
inductive Rounds (body : Parser) : Session → Nat → Session → Prop where
  /-- No round yet. -/
  | start (session : Session) : Rounds body session 0 session
  /-- A round, and those after it. -/
  | round {before middle last : Session} {count : Nat} (ran : body before = some middle.matched)
      (moved : before.state.cursor < middle.state.cursor)
      (others : Rounds body middle count last) : Rounds body before (count + 1) last

/-- How a repetition ends with the call of its body in the given session. -/
inductive LastRound (body : Parser) (last : Session) : Outcome → Prop where
  /-- The body fails, and the repetition matches where that left the session. -/
  | failed {inner : Session} (ran : body last = some inner.failed) :
      LastRound body last inner.matched
  /-- The body matches without moving the cursor. -/
  | stalled {inner : Session} (ran : body last = some inner.matched)
      (still : ¬ last.state.cursor < inner.state.cursor) :
      LastRound body last
        ((inner.note (.stalled inner.state)).aborted (.noProgress last.state.cursor))
  /-- The body is given up. -/
  | aborted {inner : Session} {error : ParseError} (ran : body last = some (inner.aborted error)) :
      LastRound body last (inner.aborted error)

/-- A parser that does not move the cursor where no token is left. -/
def StopsAtEnd (parser : Parser) : Prop :=
  ∀ ⦃before : Session⦄ ⦃outcome : Outcome⦄, parser before = some outcome →
    before.state.tokens.length ≤ before.state.cursor →
      outcome.session.state.cursor = before.state.cursor

/-! ## No parser moves past the last token -/

namespace StopsAtEnd

variable {first second body : Parser}

/-- A rollback to the start leaves the cursor where it is, if it has not moved. -/
theorem cursor_restore {before after : Session} (same : after.state.cursor = before.state.cursor) :
    (after.restore before.checkpoint Session.failed).session.state.cursor =
      before.state.cursor := by
  cases restored : after.state.restore before.checkpoint with
  | ok state =>
      obtain ⟨-, rfl⟩ := ParseState.restore_eq_ok_iff.mp restored
      rw [Session.restore_of_ok restored]
      rfl
  | error error =>
      rw [Session.restore_of_error restored]
      exact same

/-- A primitive needs a token to move the cursor. -/
theorem of_primitive (grammar : Grammar) (primitive : grammar.Primitive) (call : String → Parser) :
    StopsAtEnd (grammar.eval call) := by
  intro before outcome ran atEnd
  have none : before.state.current? = none := List.getElem?_eq_none atEnd
  have noKeep : before.state.keep? = .none := by rw [ParseState.keep?, none]; rfl
  have noSkip : before.state.skip? = .none := if_neg (Nat.not_lt_of_le atEnd)
  cases grammar with
  | peek name =>
      cases Option.some.inj ran
      cases before.state.peek name <;> rfl
  | endOfInput =>
      cases Option.some.inj ran
      cases before.state.atEnd <;> rfl
  | token | tokenExcept | eat | any | skip =>
      cases Option.some.inj ran
      simp [noKeep, noSkip, Session.step, Session.failed]
  | cut | trace | succeed | fail =>
      cases Option.some.inj ran
      rfl
  | _ => exact primitive.elim

/-- Where no token is left, one parser after another leaves the cursor where it is. -/
theorem after (advancing : first.Advancing) (left : first.StopsAtEnd) (right : second.StopsAtEnd)
    {before : Session} {middle outcome : Outcome} (start : first before = some middle)
    (rest : second middle.session = some outcome)
    (atEnd : before.state.tokens.length ≤ before.state.cursor) :
    outcome.session.state.cursor = before.state.cursor := by
  have still := left start atEnd
  have atEndStill : middle.session.state.tokens.length ≤ middle.session.state.cursor := by
    rw [advancing.tokens_eq start, still]
    exact atEnd
  exact (right rest atEndStill).trans still

/-- Parts in order. -/
theorem andThen (advancing : first.Advancing) (left : first.StopsAtEnd)
    (right : second.StopsAtEnd) : (first.andThen second).StopsAtEnd := by
  intro before outcome ran
  obtain ⟨middle, start, ⟨-, rest⟩ | ⟨-, rfl⟩⟩ := andThen_eq_some_iff.mp ran
  · exact left.after advancing right start rest
  · exact left start

/-- Alternatives. -/
theorem orElse (advancing : first.Advancing) (left : first.StopsAtEnd)
    (right : second.StopsAtEnd) : (first.orElse second).StopsAtEnd := by
  intro before outcome ran
  obtain ⟨middle, start, ⟨-, rest⟩ | ⟨-, rfl⟩⟩ := orElse_eq_some_iff.mp ran
  · exact left.after advancing right start rest
  · exact left start

/-- Rollback on failure. -/
theorem backtrack (stops : body.StopsAtEnd) : body.backtrack.StopsAtEnd := by
  intro before outcome ran atEnd
  obtain ⟨inner, start, ⟨-, rfl⟩ | ⟨-, rfl⟩⟩ := backtrack_eq_some_iff.mp ran
  · exact cursor_restore (stops start atEnd)
  · exact stops start atEnd

/-- Optional parts. -/
theorem optional (stops : body.StopsAtEnd) : body.optional.StopsAtEnd := by
  intro before outcome ran atEnd
  obtain ⟨inner, start, ending⟩ := optional_eq_some_iff.mp ran
  have still := stops start atEnd
  rcases ending with ⟨-, rfl⟩ | ⟨-, rfl⟩
  · exact still
  · exact still

/-- Nodes. -/
theorem node (name : String) (minChildren : Nat) (actions : List Action)
    (stops : body.StopsAtEnd) : (Parser.node name minChildren actions body).StopsAtEnd := by
  intro before outcome ran atEnd
  obtain ⟨inner, start, closing⟩ := node_eq_some_iff.mp ran
  have still := stops start atEnd
  rcases closing with ⟨-, rfl⟩ | ⟨-, rfl⟩ | ⟨-, -, rfl⟩
  · rcases inner.session.closeNode_cases before.checkpoint name minChildren actions with
      kept | ⟨element, replaced⟩ | undone
    · rw [kept]
      exact still
    · rw [replaced]
      exact still
    · rw [undone]
      exact cursor_restore still
  · exact cursor_restore still
  · exact still

/-- Where no token is left, the first round of a repetition is the last one. -/
theorem iterate (stops : body.StopsAtEnd) {budget count : Nat} {before : Session}
    {repetition : Repetition} (ran : Parser.iterate body budget count before = some repetition)
    (atEnd : before.state.tokens.length ≤ before.state.cursor) :
    repetition.session.state.cursor = before.state.cursor := by
  cases budget with
  | zero => cases ran
  | succ budget =>
      obtain ⟨outcome, start, ending⟩ := iterate_succ_eq_some_iff.mp ran
      have still := stops start atEnd
      rcases ending with ⟨-, moved, -⟩ | ⟨-, -, rfl⟩ | ⟨-, rfl⟩ | ⟨error, -, rfl⟩
      · exact absurd still (Nat.ne_of_gt moved)
      · exact still
      · exact still
      · exact still

/-- Repetition. -/
theorem many (stops : body.StopsAtEnd) : body.many.StopsAtEnd := by
  intro before outcome ran atEnd
  obtain ⟨repetition, repeated, ⟨count, -, rfl⟩ | ⟨error, -, rfl⟩⟩ := many_eq_some_iff.mp ran
  · exact stops.iterate repeated atEnd
  · exact stops.iterate repeated atEnd

/-- Repetition with at least one match. -/
theorem many1 (stops : body.StopsAtEnd) : body.many1.StopsAtEnd := by
  intro before outcome ran atEnd
  obtain ⟨repetition, repeated, ending⟩ := many1_eq_some_iff.mp ran
  have still := stops.iterate repeated atEnd
  rcases ending with ⟨-, rfl⟩ | ⟨count, -, rfl⟩ | ⟨error, -, rfl⟩
  · exact cursor_restore still
  · exact still
  · exact still

end StopsAtEnd

/-- Every combinator stops at the last token if its parts do. -/
theorem closed_stopsAtEnd : Closed fun parser => parser.Advancing ∧ parser.StopsAtEnd where
  exhausted := ⟨closed_advancing.exhausted, fun _ _ ran => nomatch ran⟩
  primitive grammar primitive call :=
    ⟨closed_advancing.primitive grammar primitive call, .of_primitive grammar primitive call⟩
  andThen left right := ⟨left.1.andThen right.1, left.2.andThen left.1 right.2⟩
  orElse left right := ⟨left.1.orElse right.1, left.2.orElse left.1 right.2⟩
  backtrack body := ⟨body.1.backtrack, body.2.backtrack⟩
  optional body := ⟨body.1.optional, body.2.optional⟩
  many body := ⟨body.1.many, body.2.many⟩
  many1 body := ⟨body.1.many1, body.2.many1⟩
  node name minChildren actions _ body :=
    ⟨body.1.node name minChildren actions, body.2.node name minChildren actions⟩

/-! ## Rounds and tokens -/

section

variable {body : Parser} (advancing : body.Advancing) (stops : body.StopsAtEnd)

include advancing stops

/-- A parser that moves the cursor leaves fewer tokens, wherever it starts. -/
theorem tokensLeft_lt_of_moved {before : Session} {outcome : Outcome}
    (ran : body before = some outcome)
    (moved : before.state.cursor < outcome.session.state.cursor) :
    outcome.session.state.tokensLeft < before.state.tokensLeft := by
  have within : before.state.cursor < before.state.tokens.length := by
    refine Nat.lt_of_not_le fun atEnd => ?_
    have still := stops ran atEnd
    omega
  exact advancing.tokensLeft_lt ran (Nat.le_of_lt within) moved

/-- There are no more rounds than tokens left: each moves the cursor over one of them at least. -/
theorem Rounds.count_le {before last : Session} {count : Nat}
    (rounds : body.Rounds before count last) : count ≤ before.state.tokensLeft := by
  induction rounds with
  | start => exact Nat.zero_le _
  | round ran moved others induction =>
      exact Nat.lt_of_le_of_lt induction (tokensLeft_lt_of_moved advancing stops ran moved)

/-- A repetition finishes if every call of its body does. -/
theorem isSome_many_of_rounds {before : Session}
    (finishes : ∀ count last, body.Rounds before count last → (body last).isSome) :
    (body.many before).isSome := by
  -- The loop has one round for each token left and one more, and each round takes a token.
  have loop : ∀ (budget earlier : Nat) (session : Session),
      session.state.tokensLeft < budget →
      (∀ count last, body.Rounds session count last → (body last).isSome) →
        (iterate body budget earlier session).isSome := by
    intro budget
    induction budget with
    | zero =>
        intro earlier session enough
        cases enough
    | succ budget induction =>
        intro earlier session enough finishes
        obtain ⟨⟨verdict, middle⟩, start⟩ :=
          Option.isSome_iff_exists.mp (finishes 0 session (.start session))
        refine isSome_iterate start ?_
        rintro rfl moved
        have fewer := tokensLeft_lt_of_moved advancing stops start moved
        have enoughLater := Nat.lt_of_lt_of_le fewer (Nat.le_of_lt_succ enough)
        refine induction (earlier + 1) middle enoughLater ?_
        intro count last rounds
        exact finishes (count + 1) last (.round start moved rounds)
  rw [isSome_many]
  exact loop _ 0 before (Nat.lt_succ_self _) finishes

end

end Parser

/-- The outcome of a repetition that needs no match. -/
def Repetition.outcome (repetition : Repetition) : Outcome :=
  match repetition.result with
  | .ok _ => repetition.session.matched
  | .error error => repetition.session.aborted error

namespace Parser

variable {body : Parser} {before last : Session} {outcome : Outcome}

/-- A loop that ends has gone through rounds and ended with one more call. -/
theorem exists_rounds_of_iterate {budget earlier : Nat} {repetition : Repetition}
    (ran : iterate body budget earlier before = some repetition) :
    ∃ count last, body.Rounds before count last ∧ body.LastRound last repetition.outcome := by
  induction budget generalizing before earlier with
  | zero => cases ran
  | succ budget induction =>
      obtain ⟨⟨verdict, middle⟩, start, ending⟩ := iterate_succ_eq_some_iff.mp ran
      rcases ending with ⟨rfl, moved, rest⟩ | ⟨rfl, still, rfl⟩ | ⟨rfl, rfl⟩ | ⟨error, rfl, rfl⟩
      · obtain ⟨count, last, others, lastRound⟩ := induction rest
        exact ⟨count + 1, last, .round start moved others, lastRound⟩
      · exact ⟨0, before, .start before, .stalled start still⟩
      · exact ⟨0, before, .start before, .failed start⟩
      · exact ⟨0, before, .start before, .aborted start⟩

/-- The call that ends a repetition does not match further on. -/
theorem LastRound.still (lastRound : body.LastRound last outcome) {inner : Session}
    (ran : body last = some inner.matched) : ¬ last.state.cursor < inner.state.cursor := by
  cases lastRound with
  | failed other | aborted other => cases ran.symm.trans other
  | stalled other still =>
      cases Option.some.inj (ran.symm.trans other)
      exact still

/-- The call that ends a repetition ends its loop, if one more call is left. -/
theorem LastRound.iterate (lastRound : body.LastRound last outcome) (budget earlier : Nat) :
    ∃ repetition, Parser.iterate body (budget + 1) earlier last = some repetition ∧
      repetition.outcome = outcome := by
  cases lastRound with
  | failed ran => exact ⟨⟨.ok earlier, _⟩,
      iterate_succ_eq_some_iff.mpr ⟨_, ran, .inr (.inr (.inl ⟨rfl, rfl⟩))⟩, rfl⟩
  | stalled ran still => exact ⟨⟨.error _, _⟩,
      iterate_succ_eq_some_iff.mpr ⟨_, ran, .inr (.inl ⟨rfl, still, rfl⟩)⟩, rfl⟩
  | aborted ran => exact ⟨⟨.error _, _⟩,
      iterate_succ_eq_some_iff.mpr ⟨_, ran, .inr (.inr (.inr ⟨_, rfl, rfl⟩))⟩, rfl⟩

/-- A loop goes through the rounds and ends with the last call, if it may go round often enough. -/
theorem Rounds.iterate {count : Nat} (rounds : body.Rounds before count last)
    (lastRound : body.LastRound last outcome) {budget : Nat} (enough : count < budget)
    (earlier : Nat) :
    ∃ repetition, Parser.iterate body budget earlier before = some repetition ∧
      repetition.outcome = outcome := by
  induction rounds generalizing budget earlier with
  | start session =>
      obtain ⟨less, rfl⟩ : ∃ less, budget = less + 1 := ⟨budget - 1, by omega⟩
      exact lastRound.iterate less earlier
  | round ran moved others induction =>
      obtain ⟨less, rfl⟩ : ∃ less, budget = less + 1 := ⟨budget - 1, by omega⟩
      obtain ⟨repetition, rest, same⟩ :=
        induction lastRound (Nat.lt_of_succ_lt_succ enough) (earlier + 1)
      exact ⟨repetition, iterate_succ_eq_some_iff.mpr ⟨_, ran, .inl ⟨rfl, moved, rest⟩⟩, same⟩

/-- A repetition is its rounds and the call that ends it, however many these are. -/
theorem many_eq_some_iff_rounds (advancing : body.Advancing) (stops : body.StopsAtEnd) :
    body.many before = some outcome ↔
      ∃ count last, body.Rounds before count last ∧ body.LastRound last outcome := by
  constructor
  · intro ran
    obtain ⟨repetition, repeated, same⟩ := Option.map_eq_some_iff.mp ran
    obtain ⟨count, last, rounds, lastRound⟩ := exists_rounds_of_iterate repeated
    exact ⟨count, last, rounds, same ▸ lastRound⟩
  · rintro ⟨count, last, rounds, lastRound⟩
    have enough : count < iterationBudget before :=
      Nat.lt_succ_of_le (rounds.count_le advancing stops)
    obtain ⟨repetition, repeated, same⟩ := rounds.iterate lastRound enough 0
    exact Option.map_eq_some_iff.mpr ⟨repetition, repeated, same⟩

/-- After a round a repetition goes on as if it started there. -/
theorem many_of_round (advancing : body.Advancing) (stops : body.StopsAtEnd) {middle : Session}
    (ran : body before = some middle.matched)
    (moved : before.state.cursor < middle.state.cursor) : body.many before = body.many middle := by
  apply Option.ext
  intro outcome
  rw [many_eq_some_iff_rounds advancing stops, many_eq_some_iff_rounds advancing stops]
  constructor
  · rintro ⟨count, last, rounds, lastRound⟩
    cases rounds with
    | start => exact absurd moved (lastRound.still ran)
    | round again _ others =>
        cases Option.some.inj (ran.symm.trans again)
        exact ⟨_, last, others, lastRound⟩
  · rintro ⟨count, last, rounds, lastRound⟩
    exact ⟨count + 1, last, .round ran moved rounds, lastRound⟩

end Parser

namespace Grammar

variable {rules : Rules}

/-- Every grammar stops at the last token. -/
theorem run_stopsAtEnd (combinators : rules.Combinator) {grammar : Grammar}
    (combinator : grammar.Combinator) (allowance : Nat) :
    (grammar.run rules allowance).StopsAtEnd :=
  (run_closed Parser.closed_stopsAtEnd combinators combinator allowance).2

end Grammar

end TokenGrammar
