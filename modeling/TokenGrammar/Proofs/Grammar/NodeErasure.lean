import TokenGrammar.Proofs.Grammar.Leaves
import TokenGrammar.Proofs.Grammar.Lockstep

/-! # Grammars without their nodes

A node that runs no action gathers up what its body built and is otherwise a rollback of its body: a
grammar recognises the same input whether it builds a tree or leaves its tokens side by side.

* `Grammar.withoutNodes`: a grammar whose nodes only roll back.
* `ParseState.Flattened`: a second run has built the leaves of what the first one built.
* `ParseState.lockstep_flattened`: no combinator can tell the two apart.
* `Grammar.run_withoutNodes`: the two runs of a grammar end alike. -/

namespace TokenGrammar

open Element (forestLeaves)

/-- Nodes that only roll back. -/
def Grammar.idleNodes : Rewriting :=
  ⟨.cut, fun _ _ body _ => .backtrack body⟩

/-- A grammar whose nodes only roll back. -/
def Grammar.withoutNodes (grammar : Grammar) : Grammar :=
  grammar.rewrite idleNodes

/-- Rules whose nodes only roll back. -/
def Rules.withoutNodes (rules : Rules) : Rules :=
  rules.rewrite Grammar.idleNodes

/-- A second run got from one state to another as the first one did, and built the leaves of what
the first one built. -/
structure ParseState.Flattened (before before' after after' : ParseState) : Prop where
  /-- The tokens are the same. -/
  tokens : after'.tokens = after.tokens
  /-- The cursors are the same. -/
  cursor : after'.cursor = after.cursor
  /-- The marks of the last cut are the same. -/
  cut : after'.cut = after.cut
  /-- What was built has the same leaves. -/
  growth : ∃ built, after.stack = before.stack ++ built ∧
    after'.stack = before'.stack ++ (forestLeaves built).map .leaf

namespace ParseState.Flattened

variable {before before' middle middle' after after' : ParseState}

/-- Two runs that agree on the input and on the last cut may start with any two stacks. -/
theorem start (tokens : before'.tokens = before.tokens) (cursor : before'.cursor = before.cursor)
    (cut : before'.cut = before.cut) : before.Flattened before' before before' :=
  ⟨tokens, cursor, cut, [], by simp, by simp⟩

/-- What was built later stands above what was built before. -/
theorem trans (first : before.Flattened before' middle middle')
    (second : middle.Flattened middle' after after') :
    before.Flattened before' after after' where
  tokens := second.tokens
  cursor := second.cursor
  cut := second.cut
  growth := by
    obtain ⟨built, stack, stack'⟩ := first.growth
    obtain ⟨more, stackAfter, stackAfter'⟩ := second.growth
    refine ⟨built ++ more, ?_, ?_⟩
    · rw [stackAfter, stack, List.append_assoc]
    · rw [stackAfter', stack', Element.forestLeaves_append, List.map_append, List.append_assoc]

/-- The next token is the same. -/
theorem current? (linked : before.Flattened before' after after') :
    after'.current? = after.current? := by
  rw [ParseState.current?, ParseState.current?, linked.tokens, linked.cursor]

/-- The same token is kept. -/
theorem keep? (linked : before.Flattened before' before before') :
    Option.Rel (before.Flattened before') before.keep? before'.keep? := by
  rw [ParseState.keep?, ParseState.keep?, linked.current?]
  cases before.current? with
  | none => exact .none
  | some token =>
      refine .some ⟨linked.tokens, ?_, linked.cut, [.leaf token], rfl, rfl⟩
      exact congrArg (· + 1) linked.cursor

/-- The same token is dropped. -/
theorem skip? (linked : before.Flattened before' before before') :
    Option.Rel (before.Flattened before') before.skip? before'.skip? := by
  rw [ParseState.skip?, ParseState.skip?, linked.tokens, linked.cursor]
  split
  · exact .some ⟨linked.tokens, congrArg (· + 1) linked.cursor, linked.cut, linked.growth⟩
  · exact .none

/-- The same cuts forbid a rollback. -/
theorem committedPast (start : before.Flattened before' before before')
    (linked : before.Flattened before' after after') :
    after'.committedPast before'.checkpoint = after.committedPast before.checkpoint := by
  change after'.cut.any (fun marker => before'.cursor ≤ marker.cursor) =
    after.cut.any fun marker => before.cursor ≤ marker.cursor
  rw [linked.cut, start.cursor]

/-- A rollback drops all that was built in both runs. -/
theorem rollback (start : before.Flattened before' before before')
    (linked : before.Flattened before' after after') :
    before.Flattened before' (after.rollback before.checkpoint)
      (after'.rollback before'.checkpoint) := by
  obtain ⟨built, stack, stack'⟩ := linked.growth
  refine ⟨linked.tokens, start.cursor, linked.cut, [], ?_, ?_⟩
  · simp [ParseState.rollback, ParseState.checkpoint, stack]
  · simp [ParseState.rollback, ParseState.checkpoint, stack']

/-- The error of a rollback that is refused says the same. -/
theorem committedError (start : before.Flattened before' before before')
    (linked : before.Flattened before' after after') (marker : CutMarker) :
    after'.committedError marker before'.checkpoint =
      after.committedError marker before.checkpoint := by
  have offset := ParseState.offsetOf_congr linked.tokens marker.cursor
  simp only [ParseState.committedError, ParseState.checkpoint, offset, start.cursor, linked.cursor]

/-- A node without actions has the leaves of its children. -/
theorem closeNode {before before' after after' : Session}
    (linked : before.state.Flattened before'.state after.state after'.state) (name : String)
    (minChildren : Nat) :
    (after.closeNode before.checkpoint name minChildren []).Alike
      (before.state.Flattened before'.state) Eq after'.matched := by
  by_cases few : after.state.pushedSince before.checkpoint ≤ minChildren
  · rw [Session.closeNode_of_few few]
    exact .matched linked
  · rw [Session.closeNode_of_actionless few]
    obtain ⟨built, stack, stack'⟩ := linked.growth
    refine .matched ⟨linked.tokens, linked.cursor, linked.cut, [.node name built], ?_, ?_⟩
    · simp [takeNode, push, checkpoint, stack, Node.toElement]
    · rw [Element.forestLeaves_cons, Element.leaves_node, Element.forestLeaves_nil,
        List.append_nil]
      exact stack'

end ParseState.Flattened

/-- No combinator can tell a run from one that has only built the leaves. -/
theorem ParseState.lockstep_flattened : Lockstep Grammar.Actionless ParseState.Flattened Eq where
  cursor linked := linked.cursor
  length linked := congrArg List.length linked.tokens
  peek linked name := by rw [peek, peek, linked.current?]
  rest linked := .start linked.tokens linked.cursor linked.cut
  trans := .trans
  keep linked := linked.keep?
  skip linked := linked.skip?
  commit linked label _ := by
    refine ⟨linked.tokens, linked.cursor, ?_, linked.growth⟩
    simp only [commit, linked.cursor]
  restore_ok := by
    intro before before' after after' next start linked restored
    obtain ⟨free, rfl⟩ := restore_eq_ok_iff.mp restored
    have free' : after'.committedPast before'.checkpoint = false :=
      (start.committedPast linked).trans free
    exact ⟨_, restore_of_not_committedPast free', start.rollback linked⟩
  restore_error := by
    intro before before' after after' error start linked refused
    obtain ⟨marker, cut, past, rfl⟩ := restore_eq_error_iff.mp refused
    refine ⟨_, restore_eq_error_iff.mpr ⟨marker, linked.cut.trans cut, ?_, rfl⟩,
      (start.committedError linked marker).symm⟩
    exact Nat.le_trans (Nat.le_of_eq start.cursor) past
  stalled _ := rfl

namespace Parser

/-- A node without actions goes the same way as a rollback of its body. -/
theorem inStep_node_backtrack (name : String) (minChildren : Nat) {body body' : Parser}
    (inStep : InStep ParseState.Flattened Eq body body') :
    InStep ParseState.Flattened Eq (.node name minChildren [] body) body'.backtrack := by
  intro before before' start
  refine rel_map (inStep start) fun inner inner' alike => ?_
  cases alike with
  | matched linked => exact linked.closeNode name minChildren
  | failed linked => exact ParseState.lockstep_flattened.restore start linked
  | aborted same linked => exact .aborted same linked

/-- Every combinator keeps two runs in lockstep, with and without nodes, if these have no
actions. -/
theorem congruence_flattened :
    CongruenceWithin Grammar.Actionless (InStep ParseState.Flattened Eq) Grammar.idleNodes := by
  refine ParseState.lockstep_flattened.congruenceWithin (fun _ => rfl) ?_
  intro name minChildren actions inner none body grammar call inStep
  cases none
  exact inStep_node_backtrack name minChildren inStep

end Parser

namespace Grammar

/-- **Nodes recognise nothing.** From every state, a grammar without actions and the grammar whose
nodes only roll back both finish or both do not. If they do, they have the same verdict, with the
same error if it is one, the same tokens, cursor and last cut, and what the second one has pushed
are the leaves of what the first one has pushed, from left to right. -/
theorem run_withoutNodes {rules : Rules} (combinators : rules.Combinator)
    (actionlessRules : rules.Throughout Actionless) {grammar : Grammar}
    (combinator : grammar.Combinator) (actionless : grammar.Throughout Actionless)
    (allowance : Nat) (before : Session) :
    Option.Rel
      (fun outcome other =>
        let last := outcome.session.state
        let last' := other.session.state
        other.verdict = outcome.verdict ∧
          last'.tokens = last.tokens ∧ last'.cursor = last.cursor ∧ last'.cut = last.cut ∧
          ∃ built, last.stack = before.state.stack ++ built ∧
            last'.stack = before.state.stack ++ (forestLeaves built).map .leaf)
      (grammar.run rules allowance before)
      (grammar.withoutNodes.run rules.withoutNodes allowance before) := by
  have inStep := run_relatedWithin Parser.congruence_flattened combinators actionlessRules
    combinator actionless allowance
  have start : before.state.Flattened before.state before.state before.state := .start rfl rfl rfl
  refine rel_imp (inStep start) ?_
  intro outcome other alike
  cases alike with
  | matched linked => exact ⟨rfl, linked.tokens, linked.cursor, linked.cut, linked.growth⟩
  | failed linked => exact ⟨rfl, linked.tokens, linked.cursor, linked.cut, linked.growth⟩
  | aborted same linked =>
      cases same
      exact ⟨rfl, linked.tokens, linked.cursor, linked.cut, linked.growth⟩

/-- A list of pairs that is given up in the midst of its second pair: one node is finished, two are
not. -/
theorem run_withoutNodes_half :
    let pair : Grammar := .node "pair" 0 (.all [.token "a", .cut "after a", .token "b"]) []
    let rules : Rules := [("pair", pair)]
    let grammar : Grammar := .node "list" 1 (.many1 (.rule "pair")) []
    let tokens : List Token := [⟨"a", "a", 0⟩, ⟨"b", "b", 1⟩, ⟨"a", "a", 2⟩, ⟨"c", "c", 3⟩]
    ∃ other,
      grammar.withoutNodes.run rules.withoutNodes 1 (.ofState (.ofTokens tokens)) = some other ∧
        other.verdict = .aborted (.committed "after a" 3 3 2 3) ∧
        other.session.state.stack =
          [.leaf ⟨"a", "a", 0⟩, .leaf ⟨"b", "b", 1⟩, .leaf ⟨"a", "a", 2⟩] := by
  intro pair rules grammar tokens
  have combinators : rules.Combinator := .single (by simp [pair, Combinator, CombinatorAll])
  have combinator : grammar.Combinator := trivial
  have actionlessRules : rules.Throughout Actionless :=
    .single (by simp [pair, Throughout, ThroughoutAll, Actionless])
  have actionless : grammar.Throughout Actionless := by
    simp [grammar, Throughout, Actionless]
  let last : ParseState :=
    ⟨tokens, 3, [.node "pair" [.leaf ⟨"a", "a", 0⟩, .leaf ⟨"b", "b", 1⟩], .leaf ⟨"a", "a", 2⟩],
      some ⟨"after a", 3⟩⟩
  have ran : grammar.run rules 1 (.ofState (.ofTokens tokens)) =
      some ⟨.aborted (.committed "after a" 3 3 2 3),
        ⟨last, [], [.cut ⟨"after a", 1⟩, .cut ⟨"after a", 3⟩, .refused last ⟨2, 1⟩]⟩⟩ := by decide
  have related := run_withoutNodes combinators actionlessRules combinator actionless 1
    (.ofState (.ofTokens tokens))
  rw [ran] at related
  cases flat : grammar.withoutNodes.run rules.withoutNodes 1 (.ofState (.ofTokens tokens)) with
  | none =>
      rw [flat] at related
      cases related
  | some other =>
      rw [flat] at related
      cases related with
      | some alike =>
          obtain ⟨verdict, -, -, -, built, stack, stack'⟩ := alike
          have same : last.stack = built := stack
          rw [← same] at stack'
          exact ⟨other, rfl, verdict, stack'⟩

end Grammar

end TokenGrammar
