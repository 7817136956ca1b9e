import TokenGrammar.Proofs.Grammar.Leaves
import TokenGrammar.Proofs.Grammar.Lockstep

/-! # The names ahead steer a parse

A parser looks at the names of the tokens from the cursor on, and at nothing else: not at their texts
and positions, not at the tokens behind the cursor, not at what is already on the stack. Two inputs
that agree in these names are parsed in the same way, into trees of the same form.

* `ParseError.withoutOffset`: an error but for the one field that depends on positions.
* `Element.Counterpart`: two trees of one form, with tokens from the same places at their leaves.
* `ParseState.Paired`: two runs over different tokens have come equally far.
* `ParseState.lockstep_paired`: no combinator can tell the two apart.
* `Grammar.run_sameNames`: the two runs of a grammar end alike. -/

namespace TokenGrammar

/-- An error without the byte offset that it reports. -/
def ParseError.withoutOffset : ParseError → ParseError
  | .committed label cutPosition _ checkpoint cursor =>
      .committed label cutPosition 0 checkpoint cursor
  | .noProgress cursor => .noProgress cursor

/-- A verdict without the byte offset that its error reports. -/
def Verdict.withoutOffset : Verdict → Verdict
  | .aborted error => .aborted error.withoutOffset
  | verdict => verdict

/-- Whether two lists of tokens have the same length and, from a place on, the same names. -/
structure SameNames (front : Nat) (tokens tokens' : List Token) : Prop where
  /-- The lists have the same length. -/
  length : tokens'.length = tokens.length
  /-- The tokens from the place on have the same names. -/
  names : ∀ place, front ≤ place →
    tokens'[place]?.map Token.name = tokens[place]?.map Token.name

namespace Element

variable (front : Nat) (tokens tokens' : List Token)

mutual

/-- Two trees of one form: where the first has a token of the first list, from a place at or after
the front, the second has the token of the second list from the same place. -/
inductive Counterpart : Element → Element → Prop where
  /-- Tokens from the same place. -/
  | leaf {place : Nat} {token token' : Token} (ahead : front ≤ place)
      (found : tokens[place]? = some token) (found' : tokens'[place]? = some token') :
      Counterpart (.leaf token) (.leaf token')
  /-- Nodes of the same name over trees of one form. -/
  | node (name : String) {children children' : List Element}
      (same : Counterparts children children') :
      Counterpart (.node name children) (.node name children')

/-- Two forests of one form. -/
inductive Counterparts : List Element → List Element → Prop where
  /-- No trees. -/
  | nil : Counterparts [] []
  /-- Trees of one form, and then forests of one form. -/
  | cons {element element' : Element} {elements elements' : List Element}
      (first : Counterpart element element') (others : Counterparts elements elements') :
      Counterparts (element :: elements) (element' :: elements')

end

variable {front : Nat} {tokens tokens' : List Token} {left left' right right' : List Element}

/-- Forests of one form side by side. -/
theorem Counterparts.append (first : Counterparts front tokens tokens' left left')
    (second : Counterparts front tokens tokens' right right') :
    Counterparts front tokens tokens' (left ++ right) (left' ++ right') := by
  induction left generalizing left' with
  | nil =>
      cases first
      exact second
  | cons element elements induction =>
      cases first with
      | cons first others => exact .cons first (induction others)

/-- One tree is a forest. -/
theorem Counterpart.single {element element' : Element}
    (same : Counterpart front tokens tokens' element element') :
    Counterparts front tokens tokens' [element] [element'] :=
  .cons same .nil

/-- Forests of one form have as many trees. -/
theorem Counterparts.length_eq (same : Counterparts front tokens tokens' left left') :
    left'.length = left.length := by
  induction left generalizing left' with
  | nil =>
      cases same
      rfl
  | cons element elements induction =>
      cases same with
      | cons _ others => exact congrArg (· + 1) (induction others)

end Element

namespace ParseState

/-- Two runs, each over its own tokens, got equally far and built forests of one form. -/
structure Paired (front : Nat) (tokens tokens' : List Token)
    (before before' after after' : ParseState) : Prop where
  /-- The tokens of the first run. -/
  input : after.tokens = tokens
  /-- The tokens of the second run. -/
  input' : after'.tokens = tokens'
  /-- The cursors are the same. -/
  cursor : after'.cursor = after.cursor
  /-- They are not behind the place from which on the names agree. -/
  front_le : front ≤ after.cursor
  /-- The marks of the last cut are the same. -/
  cut : after'.cut = after.cut
  /-- What was built is of one form. -/
  growth : ∃ built built', after.stack = before.stack ++ built ∧
    after'.stack = before'.stack ++ built' ∧ Element.Counterparts front tokens tokens' built built'

namespace Paired

variable {front : Nat} {tokens tokens' : List Token}
  {before before' middle middle' after after' : ParseState}

/-- Two runs that have come equally far may go on from any two stacks. -/
theorem rest (paired : Paired front tokens tokens' before before' after after') :
    Paired front tokens tokens' after after' after after' :=
  { paired with growth := ⟨[], [], by simp, by simp, .nil⟩ }

/-- What was built later stands above what was built before. -/
theorem trans (first : Paired front tokens tokens' before before' middle middle')
    (second : Paired front tokens tokens' middle middle' after after') :
    Paired front tokens tokens' before before' after after' where
  input := second.input
  input' := second.input'
  cursor := second.cursor
  front_le := second.front_le
  cut := second.cut
  growth := by
    obtain ⟨built, built', stack, stack', same⟩ := first.growth
    obtain ⟨more, more', stackAfter, stackAfter', sameMore⟩ := second.growth
    refine ⟨built ++ more, built' ++ more', ?_, ?_, same.append sameMore⟩
    · rw [stackAfter, stack, List.append_assoc]
    · rw [stackAfter', stack', List.append_assoc]

/-- The next tokens have the same name. -/
theorem peek (agree : SameNames front tokens tokens')
    (paired : Paired front tokens tokens' before before' after after') (name : String) :
    after'.peek name = after.peek name := by
  have names := agree.names after.cursor paired.front_le
  rw [ParseState.peek, ParseState.peek, current?, current?, paired.input, paired.input',
    paired.cursor]
  cases here : tokens[after.cursor]? <;> cases here' : tokens'[after.cursor]? <;>
    simp_all

/-- Tokens from the same place are kept. -/
theorem keep? (agree : SameNames front tokens tokens')
    (paired : Paired front tokens tokens' before before' before before') :
    Option.Rel (Paired front tokens tokens' before before') before.keep? before'.keep? := by
  have names := agree.names before.cursor paired.front_le
  rw [ParseState.keep?, ParseState.keep?, current?, current?, paired.input, paired.input',
    paired.cursor]
  cases here : tokens[before.cursor]? with
  | none =>
      rw [here] at names
      rw [Option.map_eq_none_iff.mp names]
      exact .none
  | some token =>
      rw [here] at names
      obtain ⟨token', here', -⟩ := Option.map_eq_some_iff.mp names
      rw [here']
      have leaves : Element.Counterpart front tokens tokens' (.leaf token) (.leaf token') :=
        .leaf paired.front_le here here'
      exact .some {
        input := paired.input
        input' := paired.input'
        cursor := congrArg (· + 1) paired.cursor
        front_le := Nat.le_succ_of_le paired.front_le
        cut := paired.cut
        growth := ⟨[.leaf token], [.leaf token'], rfl, rfl, leaves.single⟩ }

/-- Tokens from the same place are dropped. -/
theorem skip? (agree : SameNames front tokens tokens')
    (paired : Paired front tokens tokens' before before' before before') :
    Option.Rel (Paired front tokens tokens' before before') before.skip? before'.skip? := by
  rw [ParseState.skip?, ParseState.skip?, paired.input, paired.input', agree.length,
    paired.cursor]
  split
  · exact .some {
      input := paired.input
      input' := paired.input'
      cursor := congrArg (· + 1) paired.cursor
      front_le := Nat.le_succ_of_le paired.front_le
      cut := paired.cut
      growth := paired.growth }
  · exact .none

/-- The same cuts forbid a rollback. -/
theorem committedPast (start : Paired front tokens tokens' before before' before before')
    (paired : Paired front tokens tokens' before before' after after') :
    after'.committedPast before'.checkpoint = after.committedPast before.checkpoint := by
  change after'.cut.any (fun marker => before'.cursor ≤ marker.cursor) =
    after.cut.any fun marker => before.cursor ≤ marker.cursor
  rw [paired.cut, start.cursor]

/-- A rollback drops all that was built in both runs, though the stacks differ in height. -/
theorem rollback (start : Paired front tokens tokens' before before' before before')
    (paired : Paired front tokens tokens' before before' after after') :
    Paired front tokens tokens' before before' (after.rollback before.checkpoint)
      (after'.rollback before'.checkpoint) := by
  obtain ⟨built, built', stack, stack', -⟩ := paired.growth
  refine ⟨paired.input, paired.input', start.cursor, start.front_le, paired.cut, [], [], ?_, ?_,
    .nil⟩
  · simp [ParseState.rollback, ParseState.checkpoint, stack]
  · simp [ParseState.rollback, ParseState.checkpoint, stack']

/-- The error of a rollback that is refused says the same but for the offset. -/
theorem committedError (start : Paired front tokens tokens' before before' before before')
    (paired : Paired front tokens tokens' before before' after after') (marker : CutMarker) :
    (after'.committedError marker before'.checkpoint).withoutOffset =
      (after.committedError marker before.checkpoint).withoutOffset := by
  simp only [ParseState.committedError, ParseState.checkpoint, ParseError.withoutOffset,
    start.cursor, paired.cursor]

/-- Nodes without actions are closed alike: as many elements were pushed, though not onto stacks of
the same height. -/
theorem closeNode {before before' after after' : Session}
    (paired : Paired front tokens tokens' before.state before'.state after.state after'.state)
    (name : String) (minChildren : Nat) :
    (after.closeNode before.checkpoint name minChildren []).Alike
      (Paired front tokens tokens' before.state before'.state)
      (fun error error' => error'.withoutOffset = error.withoutOffset)
      (after'.closeNode before'.checkpoint name minChildren []) := by
  obtain ⟨built, built', stack, stack', same⟩ := paired.growth
  have pushed : after.state.pushedSince before.checkpoint = built.length := by
    simp [pushedSince, checkpoint, stack]
  have pushed' : after'.state.pushedSince before'.checkpoint = built.length := by
    simp [pushedSince, checkpoint, stack', same.length_eq]
  by_cases few : built.length ≤ minChildren
  · rw [Session.closeNode_of_few (Nat.le_trans (Nat.le_of_eq pushed) few),
      Session.closeNode_of_few (Nat.le_trans (Nat.le_of_eq pushed') few)]
    exact .matched paired
  · have many : ¬ after.state.pushedSince before.checkpoint ≤ minChildren := by rwa [pushed]
    have many' : ¬ after'.state.pushedSince before'.checkpoint ≤ minChildren := by rwa [pushed']
    rw [Session.closeNode_of_actionless many, Session.closeNode_of_actionless many']
    have nodes : Element.Counterpart front tokens tokens' (.node name built) (.node name built') :=
      .node name same
    refine .matched ⟨paired.input, paired.input', paired.cursor, paired.front_le, paired.cut,
      [.node name built], [.node name built'], ?_, ?_, nodes.single⟩
    · simp [takeNode, push, checkpoint, stack, Node.toElement]
    · simp [takeNode, push, checkpoint, stack', Node.toElement]

end Paired

/-- No combinator can tell a run from one over other tokens with the same names ahead. -/
theorem lockstep_paired {front : Nat} {tokens tokens' : List Token}
    (agree : SameNames front tokens tokens') :
    Lockstep Grammar.Actionless (Paired front tokens tokens')
      (fun error error' => error'.withoutOffset = error.withoutOffset) where
  cursor paired := paired.cursor
  length paired := by rw [paired.input, paired.input', agree.length]
  peek paired := paired.peek agree
  rest := .rest
  trans := .trans
  keep paired := paired.keep? agree
  skip paired := paired.skip? agree
  commit paired label _ :=
    { paired with
      cursor := paired.cursor
      cut := by simp only [commit, paired.cursor] }
  restore_ok := by
    intro before before' after after' next start paired restored
    obtain ⟨free, rfl⟩ := restore_eq_ok_iff.mp restored
    have free' : after'.committedPast before'.checkpoint = false :=
      (start.committedPast paired).trans free
    exact ⟨_, restore_of_not_committedPast free', start.rollback paired⟩
  restore_error := by
    intro before before' after after' error start paired refused
    obtain ⟨marker, cut, past, rfl⟩ := restore_eq_error_iff.mp refused
    refine ⟨_, restore_eq_error_iff.mpr ⟨marker, paired.cut.trans cut, ?_, rfl⟩,
      start.committedError paired marker⟩
    exact Nat.le_trans (Nat.le_of_eq start.cursor) past
  stalled _ := rfl

end ParseState

/-- Every combinator keeps two runs over tokens with the same names ahead in lockstep, if its nodes
have no actions. -/
theorem Parser.congruence_paired {front : Nat} {tokens tokens' : List Token}
    (agree : SameNames front tokens tokens') :
    CongruenceWithin Grammar.Actionless
      (InStep (ParseState.Paired front tokens tokens')
        (fun error error' => error'.withoutOffset = error.withoutOffset)) .identity := by
  refine (ParseState.lockstep_paired agree).congruenceWithin (fun _ => rfl) ?_
  intro name minChildren actions inner none body grammar call inStep before before' start
  cases none
  refine rel_map (inStep start) fun inner inner' alike => ?_
  cases alike with
  | matched paired => exact paired.closeNode name minChildren
  | failed paired => exact (ParseState.lockstep_paired agree).restore start paired
  | aborted same paired => exact .aborted same paired

namespace Grammar

/-- **The names ahead steer a parse.** From two states with the same cursor and the same mark of the
last cut, over as many tokens with the same names from the cursor on, a grammar without actions both
finishes or does not. If it does, it has the same verdict, with the same error but for the byte
offset if it is one, and leaves the same cursor and mark. On top of the two stacks, which need have
nothing in common, it has pushed trees of one form: where the one tree has a token from some place at
or after the cursor, the other one has its own token from that place. -/
theorem run_sameNames {rules : Rules} (combinators : rules.Combinator)
    (actionlessRules : rules.Throughout Actionless) {grammar : Grammar}
    (combinator : grammar.Combinator) (actionless : grammar.Throughout Actionless)
    (allowance : Nat) {before before' : Session}
    (cursor : before'.state.cursor = before.state.cursor)
    (cut : before'.state.cut = before.state.cut)
    (agree : SameNames before.state.cursor before.state.tokens before'.state.tokens) :
    Option.Rel
      (fun outcome other =>
        let last := outcome.session.state
        let last' := other.session.state
        other.verdict.withoutOffset = outcome.verdict.withoutOffset ∧
          last'.cursor = last.cursor ∧ last'.cut = last.cut ∧
          last.tokens = before.state.tokens ∧ last'.tokens = before'.state.tokens ∧
          ∃ built built', last.stack = before.state.stack ++ built ∧
            last'.stack = before'.state.stack ++ built' ∧
            Element.Counterparts before.state.cursor before.state.tokens before'.state.tokens
              built built')
      (grammar.run rules allowance before) (grammar.run rules allowance before') := by
  have inStep := run_relatedWithin (Parser.congruence_paired agree) combinators actionlessRules
    combinator actionless allowance
  rw [Rules.rewrite_identity, rewrite_identity] at inStep
  have start : ParseState.Paired before.state.cursor before.state.tokens before'.state.tokens
      before.state before'.state before.state before'.state :=
    ⟨rfl, rfl, cursor, Nat.le_refl _, cut, [], [], by simp, by simp, .nil⟩
  refine rel_imp (inStep start) ?_
  intro outcome other alike
  cases alike with
  | matched paired =>
      exact ⟨rfl, paired.cursor, paired.cut, paired.input, paired.input', paired.growth⟩
  | failed paired =>
      exact ⟨rfl, paired.cursor, paired.cut, paired.input, paired.input', paired.growth⟩
  | aborted same paired =>
      exact ⟨congrArg Verdict.aborted same, paired.cursor, paired.cut, paired.input,
        paired.input', paired.growth⟩

/-- Two lists of pairs over other texts, the one in the midst of a parse and the other with nothing
on the stack, are given up in the same place. -/
theorem run_sameNames_pairs :
    let pair : Grammar := .node "pair" 0 (.all [.token "a", .cut "after a", .token "b"]) []
    let grammar : Grammar := .many1 (.rule "pair")
    let tokens : List Token :=
      [⟨"x", "x", 0⟩, ⟨"a", "a", 1⟩, ⟨"b", "b", 2⟩, ⟨"a", "a", 3⟩, ⟨"c", "c", 4⟩]
    let tokens' : List Token :=
      [⟨"y", "why", 0⟩, ⟨"a", "one", 4⟩, ⟨"b", "two", 8⟩, ⟨"a", "three", 12⟩, ⟨"c", "", 18⟩]
    let other : ParseState := ⟨tokens', 1, [], none⟩
    ∃ outcome built', grammar.run [("pair", pair)] 1 (.ofState other) = some outcome ∧
      outcome.verdict.withoutOffset = .aborted (.committed "after a" 4 0 3 4) ∧
      outcome.session.state.cursor = 4 ∧ outcome.session.state.stack = built' ∧
      Element.Counterparts 1 tokens tokens'
        [.node "pair" [.leaf ⟨"a", "a", 1⟩, .leaf ⟨"b", "b", 2⟩], .leaf ⟨"a", "a", 3⟩] built' := by
  intro pair grammar tokens tokens' other
  let rules : Rules := [("pair", pair)]
  have combinators : rules.Combinator := .single (by simp [pair, Combinator, CombinatorAll])
  have actionlessRules : rules.Throughout Actionless :=
    .single (by simp [pair, Throughout, ThroughoutAll, Actionless])
  have combinator : grammar.Combinator := trivial
  have actionless : grammar.Throughout Actionless := by simp [grammar, Throughout, Actionless]
  have agree : SameNames 1 tokens tokens' := by
    refine ⟨rfl, fun place ahead => ?_⟩
    rcases place with _ | _ | _ | _ | _ | place
    · cases ahead
    all_goals rfl
  let first : ParseState := ⟨tokens, 1, [.leaf ⟨"x", "x", 0⟩], none⟩
  let pushed : List Element :=
    [.node "pair" [.leaf ⟨"a", "a", 1⟩, .leaf ⟨"b", "b", 2⟩], .leaf ⟨"a", "a", 3⟩]
  let last : ParseState := ⟨tokens, 4, .leaf ⟨"x", "x", 0⟩ :: pushed, some ⟨"after a", 4⟩⟩
  have ran : grammar.run rules 1 (.ofState first) =
      some ⟨.aborted (.committed "after a" 4 4 3 4),
        ⟨last, [], [.cut ⟨"after a", 2⟩, .cut ⟨"after a", 4⟩, .refused last ⟨3, 2⟩]⟩⟩ := by decide
  have related := @run_sameNames rules combinators actionlessRules grammar combinator actionless 1
    (.ofState first) (.ofState other) rfl rfl agree
  rw [ran] at related
  cases ran' : grammar.run rules 1 (.ofState other) with
  | none =>
      rw [ran'] at related
      cases related
  | some outcome =>
      rw [ran'] at related
      cases related with
      | some alike =>
          obtain ⟨verdict, cursor, -, -, -, built, built', stack, stack', same⟩ := alike
          have above : first.stack ++ pushed = first.stack ++ built := stack
          rw [← List.append_cancel_left above] at same
          exact ⟨outcome, built', rfl, verdict, cursor, stack', same⟩

end Grammar

end TokenGrammar
