import TokenGrammar.Proofs.Grammar.Rewriting

/-! # Grammars without their cuts

A cut can end a parse, and it can do nothing else: a run that is not ended by a cut goes the same
way, step by step, in the grammar whose cuts do nothing.

* `Grammar.withoutCuts`: a grammar whose cuts do nothing.
* `Outcome.Tracks`: an outcome is that of the run without cuts, unless a cut ended the run.
* `Parser.Tracked`, `Parser.congruence_tracked`: every combinator keeps two runs in step.
* `Grammar.run_withoutCuts`: the two runs of a grammar end alike. -/

namespace TokenGrammar

/-- Cuts that do nothing. -/
def Grammar.idleCuts : Rewriting :=
  ⟨fun _ => .succeed, .node⟩

/-- A grammar whose cuts do nothing. -/
def Grammar.withoutCuts (grammar : Grammar) : Grammar :=
  grammar.rewrite idleCuts

/-- Rules whose cuts do nothing. -/
def Rules.withoutCuts (rules : Rules) : Rules :=
  rules.rewrite Grammar.idleCuts

/-- Whether the parse was given up because of a cut. -/
def Verdict.isCommitted : Verdict → Bool
  | .aborted (.committed ..) => true
  | _ => false

namespace ParseState

/-- A state without the mark of a cut. -/
def withoutCut (state : ParseState) : ParseState :=
  { state with cut := none }

/-- Keeping a token pays no attention to cuts. -/
theorem keep?_withoutCut (state : ParseState) :
    state.withoutCut.keep? = state.keep?.map withoutCut := by
  have current : state.withoutCut.current? = state.current? := rfl
  rw [keep?, keep?, current]
  cases state.current? <;> rfl

/-- Dropping a token pays no attention to cuts. -/
theorem skip?_withoutCut (state : ParseState) :
    state.withoutCut.skip? = state.skip?.map withoutCut := by
  by_cases within : state.cursor < state.tokens.length
  · have within' : state.withoutCut.cursor < state.withoutCut.tokens.length := within
    rw [skip?, skip?, if_pos within, if_pos within']
    rfl
  · have within' : ¬ state.withoutCut.cursor < state.withoutCut.tokens.length := within
    rw [skip?, skip?, if_neg within, if_neg within']
    rfl

end ParseState

/-- A second run ends as the first one does, but for the mark of a cut, unless a cut ended the
first one. -/
def Outcome.Tracks (outcome : Outcome) (other? : Option Outcome) : Prop :=
  outcome.verdict.isCommitted = true ∨
    ∃ other, other? = some other ∧ other.verdict = outcome.verdict ∧
      other.session.state = outcome.session.state.withoutCut

namespace Outcome.Tracks

variable {session session' : Session}

/-- Two matches. -/
theorem of_matched (same : session'.state = session.state.withoutCut) :
    session.matched.Tracks (some session'.matched) :=
  .inr ⟨_, rfl, rfl, same⟩

/-- Two failures. -/
theorem of_failed (same : session'.state = session.state.withoutCut) :
    session.failed.Tracks (some session'.failed) :=
  .inr ⟨_, rfl, rfl, same⟩

/-- A test of what both states have in common. -/
theorem of_test (same : session'.state = session.state.withoutCut) (condition : Bool) :
    (session.test condition).Tracks (some (session'.test condition)) := by
  cases condition
  · exact of_failed same
  · exact of_matched same

/-- A step that pays no attention to cuts. -/
theorem of_step (same : session'.state = session.state.withoutCut) (next? : Option ParseState) :
    (session.step next?).Tracks (some (session'.step (next?.map ParseState.withoutCut))) := by
  cases next? with
  | none => exact of_failed same
  | some next => exact of_matched rfl

/-- A rollback is refused because of a cut, or it is the same without the mark of the cut. -/
theorem of_restore (same : session'.state = session.state.withoutCut) (checkpoint : Checkpoint) :
    (session.restore checkpoint Session.failed).Tracks
      (some (session'.restore checkpoint Session.failed)) := by
  cases restored : session.state.restore checkpoint with
  | ok state =>
      obtain ⟨-, rfl⟩ := ParseState.restore_eq_ok_iff.mp restored
      -- Without a mark nothing can forbid the rollback of the other run.
      have restored' : session'.state.restore checkpoint =
          .ok (session.state.rollback checkpoint).withoutCut := by
        rw [same]
        rfl
      rw [Session.restore_of_ok restored, Session.restore_of_ok restored']
      exact of_failed rfl
  | error error =>
      obtain ⟨marker, -, -, rfl⟩ := ParseState.restore_eq_error_iff.mp restored
      rw [Session.restore_of_error restored]
      exact .inl rfl

/-- A node is closed alike, with or without the mark of a cut. -/
theorem of_closeNode (same : session'.state = session.state.withoutCut) (checkpoint : Checkpoint)
    (name : String) (minChildren : Nat) (actions : List Action) :
    (session.closeNode checkpoint name minChildren actions).Tracks
      (some (session'.closeNode checkpoint name minChildren actions)) := by
  have pushed : session'.state.pushedSince checkpoint = session.state.pushedSince checkpoint := by
    rw [same]
    rfl
  have taken : session'.state.takeNode checkpoint name =
      ((session.state.takeNode checkpoint name).1,
        (session.state.takeNode checkpoint name).2.withoutCut) := by
    rw [same]
    rfl
  by_cases few : session.state.pushedSince checkpoint ≤ minChildren
  · rw [Session.closeNode_of_few few, Session.closeNode_of_few (by rw [pushed]; exact few)]
    exact of_matched same
  · have few' : ¬ session'.state.pushedSince checkpoint ≤ minChildren := by rwa [pushed]
    -- The actions see the same node in both runs.
    cases checked : Action.runAll actions (session.state.takeNode checkpoint name).1 with
    | ok finished =>
        have checked' : Action.runAll actions (session'.state.takeNode checkpoint name).1 =
            .ok finished := by rwa [taken]
        rw [Session.closeNode_of_accepted few checked, Session.closeNode_of_accepted few' checked',
          taken]
        exact of_matched rfl
    | error rejection =>
        have checked' : Action.runAll actions (session'.state.takeNode checkpoint name).1 =
            .error rejection := by rwa [taken]
        rw [Session.closeNode_of_rejected few checked, Session.closeNode_of_rejected few' checked']
        exact of_restore same checkpoint

end Outcome.Tracks

/-- A second repetition ends as the first one does, but for the mark of a cut, unless a cut ended
the first one. -/
def Repetition.Tracks (repetition : Repetition) (other? : Option Repetition) : Prop :=
  (∃ error, repetition.result = .error error ∧ (Verdict.aborted error).isCommitted = true) ∨
    ∃ other, other? = some other ∧ other.result = repetition.result ∧
      other.session.state = repetition.session.state.withoutCut

namespace Parser

/-- Two parsers that go the same way from states that differ in the mark of a cut alone, until a cut
ends the run of the first. -/
def Tracked (parser parser' : Parser) : Prop :=
  ∀ ⦃before before' : Session⦄ ⦃outcome : Outcome⦄, before'.state = before.state.withoutCut →
    parser before = some outcome → outcome.Tracks (parser' before')

/-- States that differ in the mark of a cut alone have the same place to roll back to. -/
theorem checkpoint_eq_of_withoutCut {before before' : Session}
    (same : before'.state = before.state.withoutCut) : before'.checkpoint = before.checkpoint := by
  rw [Session.checkpoint_eq, Session.checkpoint_eq, same]
  rfl

/-- Primitives pay no attention to earlier cuts, and a cut just matches. -/
theorem tracked_primitive (grammar : Grammar) (primitive : grammar.Primitive)
    (call call' : String → Parser) :
    Tracked (grammar.eval call) ((grammar.rewrite Grammar.idleCuts).eval call') := by
  intro before before' outcome same ran
  have peeked : ∀ name, before'.state.peek name = before.state.peek name := by
    intro name
    rw [same]
    rfl
  have kept : before'.state.keep? = before.state.keep?.map ParseState.withoutCut := by
    rw [same, ParseState.keep?_withoutCut]
  have skipped : before'.state.skip? = before.state.skip?.map ParseState.withoutCut := by
    rw [same, ParseState.skip?_withoutCut]
  cases grammar with
  | peek name =>
      cases Option.some.inj ran
      simp only [Grammar.rewrite, Grammar.eval, peeked]
      exact .of_test same _
  | endOfInput =>
      cases Option.some.inj ran
      have ended : before'.state.atEnd = before.state.atEnd := by
        rw [same]
        rfl
      simp only [Grammar.rewrite, Grammar.eval, ended]
      exact .of_test same _
  | token name =>
      cases Option.some.inj ran
      simp only [Grammar.rewrite, Grammar.eval, peeked, kept]
      cases before.state.peek name
      · exact .of_step same none
      · exact .of_step same _
  | tokenExcept name =>
      cases Option.some.inj ran
      simp only [Grammar.rewrite, Grammar.eval, peeked, kept]
      cases before.state.peek name
      · exact .of_step same _
      · exact .of_step same none
  | eat name =>
      cases Option.some.inj ran
      simp only [Grammar.rewrite, Grammar.eval, peeked, skipped]
      cases before.state.peek name
      · exact .of_step same none
      · exact .of_step same _
  | any =>
      cases Option.some.inj ran
      simp only [Grammar.rewrite, Grammar.eval, kept]
      exact .of_step same _
  | skip =>
      cases Option.some.inj ran
      simp only [Grammar.rewrite, Grammar.eval, skipped]
      exact .of_step same _
  | cut label =>
      cases Option.some.inj ran
      exact .of_matched same
  | trace label =>
      cases Option.some.inj ran
      exact .of_matched same
  | succeed =>
      cases Option.some.inj ran
      exact .of_matched same
  | fail =>
      cases Option.some.inj ran
      exact .of_failed same
  | _ => exact primitive.elim

/-- Two runs that go on after the same verdict of their first parts, and only then, stay in step. -/
theorem Tracked.after {second second' : Parser} (right : Tracked second second')
    {verdict : Verdict} (uncommitted : verdict.isCommitted = false) {middle outcome : Outcome}
    {middle? : Option Outcome} (start : middle.Tracks middle?)
    (ending : (middle.verdict = verdict ∧ second middle.session = some outcome) ∨
      (middle.verdict ≠ verdict ∧ outcome = middle)) :
    outcome.verdict.isCommitted = true ∨
      ∃ other, (∃ middle', middle? = some middle' ∧
          ((middle'.verdict = verdict ∧ second' middle'.session = some other) ∨
            (middle'.verdict ≠ verdict ∧ other = middle'))) ∧
        other.verdict = outcome.verdict ∧
        other.session.state = outcome.session.state.withoutCut := by
  rcases start with committed | ⟨middle', start', same, state⟩
  · rcases ending with ⟨reached, -⟩ | ⟨-, rfl⟩
    · rw [reached, uncommitted] at committed
      cases committed
    · exact .inl committed
  · rcases ending with ⟨reached, rest⟩ | ⟨missed, rfl⟩
    · rcases right state rest with committed | ⟨other, rest', alike⟩
      · exact .inl committed
      · exact .inr ⟨other, ⟨middle', start', .inl ⟨same.trans reached, rest'⟩⟩, alike⟩
    · have missed' : middle'.verdict ≠ verdict := by rwa [same]
      exact .inr ⟨middle', ⟨middle', start', .inr ⟨missed', rfl⟩⟩, same, state⟩

/-- Parts in order stay in step. -/
theorem Tracked.andThen {first first' second second' : Parser} (left : Tracked first first')
    (right : Tracked second second') : Tracked (first.andThen second) (first'.andThen second') := by
  intro before before' outcome same ran
  obtain ⟨middle, start, ending⟩ := andThen_eq_some_iff.mp ran
  rcases right.after rfl (left same start) ending with committed | ⟨other, ran', alike⟩
  · exact .inl committed
  · exact .inr ⟨other, andThen_eq_some_iff.mpr ran', alike⟩

/-- Alternatives stay in step. -/
theorem Tracked.orElse {first first' second second' : Parser} (left : Tracked first first')
    (right : Tracked second second') : Tracked (first.orElse second) (first'.orElse second') := by
  intro before before' outcome same ran
  obtain ⟨middle, start, ending⟩ := orElse_eq_some_iff.mp ran
  rcases right.after rfl (left same start) ending with committed | ⟨other, ran', alike⟩
  · exact .inl committed
  · exact .inr ⟨other, orElse_eq_some_iff.mpr ran', alike⟩

/-- A rollback of the body stays in step. -/
theorem Tracked.backtrack {body body' : Parser} (tracked : Tracked body body') :
    Tracked body.backtrack body'.backtrack := by
  intro before before' outcome same ran
  obtain ⟨inner, start, ending⟩ := backtrack_eq_some_iff.mp ran
  rcases tracked same start with committed | ⟨inner', start', verdict, state⟩
  · rcases ending with ⟨failed, -⟩ | ⟨-, rfl⟩
    · rw [failed] at committed
      cases committed
    · exact .inl committed
  · rw [Parser.backtrack, start', Option.map_some, verdict, checkpoint_eq_of_withoutCut same]
    rcases ending with ⟨failed, rfl⟩ | ⟨unfailed, rfl⟩
    · rw [failed]
      exact .of_restore state before.checkpoint
    · cases reached : outcome.verdict with
      | failed => exact absurd reached unfailed
      | matched => exact .inr ⟨inner', rfl, verdict, state⟩
      | aborted error => exact .inr ⟨inner', rfl, verdict, state⟩

/-- An optional part stays in step. -/
theorem Tracked.optional {body body' : Parser} (tracked : Tracked body body') :
    Tracked body.optional body'.optional := by
  intro before before' outcome same ran
  obtain ⟨inner, start, ending⟩ := optional_eq_some_iff.mp ran
  rcases tracked same start with committed | ⟨inner', start', verdict, state⟩
  · rcases ending with ⟨failed, -⟩ | ⟨-, rfl⟩
    · rw [failed] at committed
      cases committed
    · exact .inl committed
  · rw [Parser.optional, start', Option.map_some, verdict]
    rcases ending with ⟨failed, rfl⟩ | ⟨unfailed, rfl⟩
    · rw [failed]
      exact .of_matched state
    · cases reached : outcome.verdict with
      | failed => exact absurd reached unfailed
      | matched => exact .inr ⟨inner', rfl, verdict, state⟩
      | aborted error => exact .inr ⟨inner', rfl, verdict, state⟩

/-- A repetition goes through as many matches of a body that stays in step. -/
theorem Tracked.iterate {body body' : Parser} (tracked : Tracked body body') (budget count : Nat)
    {before before' : Session} (same : before'.state = before.state.withoutCut)
    {repetition : Repetition} (ran : iterate body budget count before = some repetition) :
    repetition.Tracks (iterate body' budget count before') := by
  induction budget generalizing before before' count with
  | zero => cases ran
  | succ budget induction =>
      rw [Parser.iterate, Option.bind_eq_some_iff] at ran
      obtain ⟨outcome, start, ran⟩ := ran
      rcases tracked same start with committed | ⟨outcome', start', verdict', state⟩
      · cases verdict : outcome.verdict with
        | aborted error =>
            simp only [verdict] at ran
            cases Option.some.inj ran
            rw [verdict] at committed
            exact .inl ⟨error, rfl, committed⟩
        | _ =>
            rw [verdict] at committed
            cases committed
      · rw [Parser.iterate, start', Option.bind_some, verdict']
        cases verdict : outcome.verdict with
        | matched =>
            have forward : before'.state.cursor < outcome'.session.state.cursor ↔
                before.state.cursor < outcome.session.state.cursor := by
              rw [same, state]
              rfl
            -- Both runs find out in the same round that there is no progress.
            simp only [verdict, forward] at ran ⊢
            by_cases moved : before.state.cursor < outcome.session.state.cursor
            · rw [if_pos moved] at ran ⊢
              exact induction (count + 1) state ran
            · rw [if_neg moved] at ran ⊢
              cases Option.some.inj ran
              rw [same]
              exact .inr ⟨_, rfl, rfl, state⟩
        | failed =>
            simp only [verdict] at ran
            cases Option.some.inj ran
            exact .inr ⟨_, rfl, rfl, state⟩
        | aborted error =>
            simp only [verdict] at ran
            cases Option.some.inj ran
            exact .inr ⟨_, rfl, rfl, state⟩

/-- Repetitions from states that differ in the mark of a cut alone have the same budget. -/
theorem Tracked.repeat {body body' : Parser} (tracked : Tracked body body')
    {before before' : Session} (same : before'.state = before.state.withoutCut)
    {repetition : Repetition} (ran : body.repeat before = some repetition) :
    repetition.Tracks (body'.repeat before') := by
  have budget : iterationBudget before' = iterationBudget before := by
    rw [iterationBudget, iterationBudget, same]
    rfl
  rw [Parser.repeat, budget]
  exact tracked.iterate _ 0 same ran

/-- A repetition stays in step. -/
theorem Tracked.many {body body' : Parser} (tracked : Tracked body body') :
    Tracked body.many body'.many := by
  intro before before' outcome same ran
  obtain ⟨repetition, repeated, ending⟩ := many_eq_some_iff.mp ran
  rcases tracked.repeat same repeated with
    ⟨error, result, committed⟩ | ⟨other, repeated', result', state⟩
  · rcases ending with ⟨count, counted, -⟩ | ⟨_, given, rfl⟩
    · rw [counted] at result
      cases result
    · cases Except.error.inj (given.symm.trans result)
      exact .inl committed
  · rcases ending with ⟨count, counted, rfl⟩ | ⟨error, given, rfl⟩
    · exact .inr ⟨other.session.matched, many_eq_some_iff.mpr
        ⟨other, repeated', .inl ⟨count, result'.trans counted, rfl⟩⟩, rfl, state⟩
    · exact .inr ⟨other.session.aborted error, many_eq_some_iff.mpr
        ⟨other, repeated', .inr ⟨error, result'.trans given, rfl⟩⟩, rfl, state⟩

/-- A repetition that needs one match stays in step. -/
theorem Tracked.many1 {body body' : Parser} (tracked : Tracked body body') :
    Tracked body.many1 body'.many1 := by
  intro before before' outcome same ran
  obtain ⟨repetition, repeated, ending⟩ := many1_eq_some_iff.mp ran
  rcases tracked.repeat same repeated with
    ⟨error, result, committed⟩ | ⟨other, repeated', result', state⟩
  · rcases ending with ⟨none, -⟩ | ⟨count, counted, -⟩ | ⟨_, given, rfl⟩
    · rw [none] at result
      cases result
    · rw [counted] at result
      cases result
    · cases Except.error.inj (given.symm.trans result)
      exact .inl committed
  · rw [Parser.many1, repeated', Option.map_some, result', checkpoint_eq_of_withoutCut same]
    rcases ending with ⟨none, rfl⟩ | ⟨count, counted, rfl⟩ | ⟨error, given, rfl⟩
    · rw [none]
      exact .of_restore state before.checkpoint
    · rw [counted]
      exact .of_matched state
    · rw [given]
      exact .inr ⟨_, rfl, rfl, state⟩

/-- A node rule stays in step. -/
theorem Tracked.node (name : String) (minChildren : Nat) (actions : List Action)
    {body body' : Parser} (tracked : Tracked body body') :
    Tracked (.node name minChildren actions body) (.node name minChildren actions body') := by
  intro before before' outcome same ran
  obtain ⟨inner, start, ending⟩ := node_eq_some_iff.mp ran
  rcases tracked same start with committed | ⟨inner', start', verdict, state⟩
  · rcases ending with ⟨matched, -⟩ | ⟨failed, -⟩ | ⟨-, -, rfl⟩
    · rw [matched] at committed
      cases committed
    · rw [failed] at committed
      cases committed
    · exact .inl committed
  · rw [Parser.node, start', Option.map_some, verdict, checkpoint_eq_of_withoutCut same]
    rcases ending with ⟨matched, rfl⟩ | ⟨failed, rfl⟩ | ⟨error, aborted, rfl⟩
    · rw [matched]
      exact .of_closeNode state before.checkpoint name minChildren actions
    · rw [failed]
      exact .of_restore state before.checkpoint
    · rw [aborted]
      exact .inr ⟨inner', rfl, verdict, state⟩

/-- Every combinator keeps two runs in step, with and without cuts. -/
theorem congruence_tracked : Congruence Tracked Grammar.idleCuts where
  exhausted _ _ _ _ ran := nomatch ran
  primitive := tracked_primitive
  andThen := Tracked.andThen
  orElse := Tracked.orElse
  backtrack := Tracked.backtrack
  optional := Tracked.optional
  many := Tracked.many
  many1 := Tracked.many1
  node name minChildren actions _ _ _ := Tracked.node name minChildren actions

end Parser

namespace Grammar

/-- **Cuts only abort.** From a state without the mark of a cut, a run that a cut does not end has
the verdict, the tokens, the cursor and the stack of the run of the grammar whose cuts do
nothing. -/
theorem run_withoutCuts {rules : Rules} (combinators : rules.Combinator) {grammar : Grammar}
    (combinator : grammar.Combinator) {allowance : Nat} {state : ParseState}
    (uncut : state.cut = none) {outcome : Outcome}
    (ran : grammar.run rules allowance (.ofState state) = some outcome)
    (uncommitted : outcome.verdict.isCommitted = false) :
    ∃ other, grammar.withoutCuts.run rules.withoutCuts allowance (.ofState state) = some other ∧
      other.verdict = outcome.verdict ∧
      other.session.state = { outcome.session.state with cut := none } := by
  have tracked := run_related Parser.congruence_tracked combinators combinator allowance
  have same : (Session.ofState state).state = (Session.ofState state).state.withoutCut := by
    rw [Session.state_ofState, ParseState.withoutCut, ← uncut]
  rcases tracked same ran with committed | alike
  · rw [uncommitted] at committed
    cases committed
  · exact alike

/-- A repetition that goes past a cut builds the same node without it, and gives up in the same
place where it makes no progress. -/
theorem run_withoutCuts_many :
    let body : Grammar := .all [.token "a", .cut "after a", .token "b"]
    let rules : Rules := [("pair", .node "pair" 0 body [])]
    let grammar : Grammar := .all [.many (.rule "pair"), .many (.peek "z")]
    let tokens : List Token := [⟨"a", "a", 0⟩, ⟨"b", "b", 1⟩, ⟨"z", "z", 2⟩]
    ∃ other,
      grammar.withoutCuts.run rules.withoutCuts 1 (.ofState (.ofTokens tokens)) = some other ∧
        other.verdict = .aborted (.noProgress 2) ∧
        other.session.state = ⟨tokens, 2,
          [.node "pair" [.leaf ⟨"a", "a", 0⟩, .leaf ⟨"b", "b", 1⟩]], none⟩ := by
  intro body rules grammar tokens
  have combinators : rules.Combinator := .single ⟨trivial, trivial, trivial, trivial⟩
  have combinator : grammar.Combinator := ⟨trivial, trivial, trivial⟩
  let last : ParseState :=
    ⟨tokens, 2, [.node "pair" [.leaf ⟨"a", "a", 0⟩, .leaf ⟨"b", "b", 1⟩]], some ⟨"after a", 1⟩⟩
  have ran : grammar.run rules 1 (.ofState (.ofTokens tokens)) =
      some ⟨.aborted (.noProgress 2),
        ⟨last, [], [.cut ⟨"after a", 1⟩, .stalled last]⟩⟩ := by decide
  exact run_withoutCuts combinators combinator rfl ran rfl

end Grammar

end TokenGrammar
