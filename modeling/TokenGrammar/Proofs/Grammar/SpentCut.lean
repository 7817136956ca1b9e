import TokenGrammar.Proofs.Grammar.Advance
import TokenGrammar.Proofs.Grammar.CutRemoval
import TokenGrammar.Proofs.Grammar.Lockstep

/-! # Cuts that lie behind

A cut forbids to roll back to its place or further. The mark of a cut is never taken away, but once
the cursor has moved past it no checkpoint is taken at its place any more: from there on the run is
the same as without the mark.

* `Grammar.Cutless`: grammars that make no cut.
* `ParseState.marked`: a state with the mark of an old cut, unless it has a newer one.
* `ParseState.Spent`: two states that differ in the mark of a cut behind them alone.
* `ParseState.lockstep_spent`: no combinator can tell the two apart.
* `Grammar.run_spentCut`: the two runs of a grammar end alike. -/

namespace TokenGrammar

/-- Whether a grammar does not itself make a cut. -/
def Grammar.Cutless : Grammar → Prop
  | .cut _ => False
  | _ => True

namespace ParseState

/-- A state with the mark of an old cut, unless it has a newer one. -/
def marked (old : CutMarker) (state : ParseState) : ParseState :=
  { state with cut := state.cut.or (some old) }

/-- The first of two states has the mark of a cut behind it that the second one does not have, unless
both have the same newer one, which they must not in a grammar without cuts. -/
structure Spent (cutless : Prop) (old : CutMarker) (state state' : ParseState) : Prop where
  /-- The states differ in the old mark alone. -/
  eq : state = state'.marked old
  /-- The old cut lies behind. -/
  behind : old.cursor < state'.cursor
  /-- There is no newer mark without a cut. -/
  uncut : cutless → state'.cut = none

/-- Two errors that say the same, and not that the parse was given up because of a cut, if there is
none. -/
def SameUnlessCut (cutless : Prop) (error error' : ParseError) : Prop :=
  error' = error ∧ (cutless → (Verdict.aborted error).isCommitted = false)

namespace Spent

variable {cutless : Prop} {old : CutMarker} {before before' after after' : ParseState}

/-- Keeping a token pays no attention to the old mark. -/
theorem keep? (spent : before.Spent cutless old before') :
    Option.Rel (Spent cutless old) before.keep? before'.keep? := by
  have current : before.current? = before'.current? := by
    rw [spent.eq]
    rfl
  rw [ParseState.keep?, ParseState.keep?, current]
  cases before'.current? with
  | none => exact .none
  | some token =>
      refine .some ⟨?_, Nat.lt_succ_of_lt spent.behind, spent.uncut⟩
      rw [spent.eq]
      rfl

/-- Dropping a token pays no attention to the old mark. -/
theorem skip? (spent : before.Spent cutless old before') :
    Option.Rel (Spent cutless old) before.skip? before'.skip? := by
  rw [spent.eq]
  change Option.Rel _ (if before'.cursor < before'.tokens.length then _ else _) _
  rw [ParseState.skip?]
  split
  · exact .some ⟨rfl, Nat.lt_succ_of_lt spent.behind, spent.uncut⟩
  · exact .none

/-- A new cut takes the place of the old one. -/
theorem commit (spent : before.Spent cutless old before') (allowed : ¬ cutless) (label : String) :
    (before.commit label).Spent cutless old (before'.commit label) where
  eq := by
    rw [spent.eq]
    rfl
  behind := spent.behind
  uncut never := absurd never allowed

/-- States that differ in the old mark alone have the same place to roll back to. -/
theorem checkpoint_eq (spent : before.Spent cutless old before') :
    before.checkpoint = before'.checkpoint := by
  rw [spent.eq]
  rfl

/-- The old cut forbids no rollback that is asked for from now on. -/
theorem committedPast_eq (start : before.Spent cutless old before')
    (spent : after.Spent cutless old after') :
    after.committedPast before.checkpoint = after'.committedPast before'.checkpoint := by
  rw [start.checkpoint_eq, spent.eq]
  -- The checkpoint lies after the old cut, so only a newer one can count.
  have free : ¬ before'.checkpoint.cursor ≤ old.cursor := Nat.not_le_of_lt start.behind
  cases cut : after'.cut with
  | none => simp [ParseState.committedPast, marked, cut, free]
  | some marker => simp [ParseState.committedPast, marked, cut]

/-- A rollback stays behind the old cut. -/
theorem rollback (start : before.Spent cutless old before')
    (spent : after.Spent cutless old after') :
    (after.rollback before.checkpoint).Spent cutless old
      (after'.rollback before'.checkpoint) where
  eq := by
    rw [start.checkpoint_eq, spent.eq]
    rfl
  behind := start.behind
  uncut := spent.uncut

/-- A rollback that is refused is refused because of the same newer cut. -/
theorem restore_error (start : before.Spent cutless old before')
    (spent : after.Spent cutless old after') {error : ParseError}
    (refused : after.restore before.checkpoint = .error error) :
    ∃ error', after'.restore before'.checkpoint = .error error' ∧
      SameUnlessCut cutless error error' := by
  have past : after'.committedPast before'.checkpoint = true := by
    obtain ⟨marker, cut, le, -⟩ := restore_eq_error_iff.mp refused
    rw [← start.committedPast_eq spent]
    exact committedPast_eq_true_iff.mpr ⟨marker, cut, le⟩
  obtain ⟨marker, cut', le'⟩ := committedPast_eq_true_iff.mp past
  have cut : after.cut = some marker := by
    rw [spent.eq, marked, cut']
    rfl
  have le : before.checkpoint.cursor ≤ marker.cursor := by rwa [start.checkpoint_eq]
  rw [restore_of_cut cut le] at refused
  refine ⟨_, restore_of_cut cut' le', ?_, ?_⟩
  · rw [← Except.error.inj refused, start.checkpoint_eq, spent.eq]
    rfl
  · intro never
    rw [spent.uncut never] at cut'
    cases cut'

end Spent

/-- No combinator can tell a run from one that has the mark of a cut behind it. -/
theorem lockstep_spent (cutless : Prop) (old : CutMarker) :
    Lockstep (fun grammar => cutless → grammar.Cutless) (fun _ _ => Spent cutless old)
      (SameUnlessCut cutless) where
  cursor spent := by
    rw [spent.eq]
    rfl
  length spent := by
    rw [spent.eq]
    rfl
  peek spent name := by
    rw [spent.eq]
    rfl
  rest spent := spent
  trans _ spent := spent
  keep spent := spent.keep?
  skip spent := spent.skip?
  commit spent label permitted := spent.commit permitted label
  restore_ok := by
    intro before before' after after' next start spent restored
    obtain ⟨free, rfl⟩ := restore_eq_ok_iff.mp restored
    have free' : after'.committedPast before'.checkpoint = false := by
      rw [← start.committedPast_eq spent]
      exact free
    exact ⟨_, restore_of_not_committedPast free', start.rollback spent⟩
  restore_error start spent refused := start.restore_error spent refused
  stalled _ := ⟨rfl, fun _ => rfl⟩

end ParseState

namespace Parser

variable {cutless : Prop} {old : CutMarker}

/-- A node is closed alike, with or without the old mark. -/
theorem alike_closeNode {before before' after after' : Session}
    (start : before.state.Spent cutless old before'.state)
    (spent : after.state.Spent cutless old after'.state) (name : String) (minChildren : Nat)
    (actions : List Action) :
    (after.closeNode before.checkpoint name minChildren actions).Alike (ParseState.Spent cutless old)
      (ParseState.SameUnlessCut cutless)
      (after'.closeNode before'.checkpoint name minChildren actions) := by
  have pushed : after.state.pushedSince before.checkpoint =
      after'.state.pushedSince before'.checkpoint := by
    rw [Session.checkpoint_eq, start.checkpoint_eq, spent.eq]
    rfl
  have taken : after.state.takeNode before.checkpoint name =
      ((after'.state.takeNode before'.checkpoint name).1,
        (after'.state.takeNode before'.checkpoint name).2.marked old) := by
    rw [Session.checkpoint_eq, start.checkpoint_eq, spent.eq]
    rfl
  by_cases few' : after'.state.pushedSince before'.checkpoint ≤ minChildren
  · have few : after.state.pushedSince before.checkpoint ≤ minChildren := by rwa [pushed]
    rw [Session.closeNode_of_few few, Session.closeNode_of_few few']
    exact .matched spent
  · have many : ¬ after.state.pushedSince before.checkpoint ≤ minChildren := by rwa [pushed]
    -- The actions see the same node in both runs.
    cases checked' : Action.runAll actions (after'.state.takeNode before'.checkpoint name).1 with
    | ok finished =>
        have checked : Action.runAll actions (after.state.takeNode before.checkpoint name).1 =
            .ok finished := by rwa [taken]
        rw [Session.closeNode_of_accepted many checked, Session.closeNode_of_accepted few' checked',
          taken]
        exact .matched ⟨rfl, spent.behind, spent.uncut⟩
    | error rejection =>
        have checked : Action.runAll actions (after.state.takeNode before.checkpoint name).1 =
            .error rejection := by rwa [taken]
        rw [Session.closeNode_of_rejected many checked, Session.closeNode_of_rejected few' checked']
        exact (ParseState.lockstep_spent cutless old).restore start spent

/-- Every combinator keeps two runs in lockstep, with and without the mark of a cut behind them. -/
theorem congruence_spent (cutless : Prop) (old : CutMarker) :
    CongruenceWithin (fun grammar => cutless → grammar.Cutless)
      (InStep (fun _ _ => ParseState.Spent cutless old) (ParseState.SameUnlessCut cutless))
      .identity := by
  refine (ParseState.lockstep_spent cutless old).congruenceWithin (fun _ => rfl) ?_
  intro name minChildren actions inner permitted body grammar call inStep before before' start
  refine rel_map (inStep start) fun inner inner' alike => ?_
  cases alike with
  | matched spent => exact alike_closeNode start spent name minChildren actions
  | failed spent => exact (ParseState.lockstep_spent cutless old).restore start spent
  | aborted same spent => exact .aborted same spent

end Parser

/-- The last cut of a run, told from the marks that the two runs leave. -/
theorem lastCut?_eq_of_marks {old : CutMarker} {events events' : List Event}
    {cut cut' : Option CutMarker} (mark : cut = (lastCut? events).or (some old))
    (mark' : cut' = lastCut? events') (same : cut = cut'.or (some old))
    (new : old ∉ lastCut? events) (new' : old ∉ lastCut? events') :
    lastCut? events' = lastCut? events := by
  rw [mark, mark'] at same
  cases last : lastCut? events with
  | some marker =>
      cases last' : lastCut? events' with
      | some marker' =>
          rw [last, last'] at same
          exact same.symm
      | none =>
          rw [last, last'] at same
          cases Option.some.inj same
          exact absurd last new
  | none =>
      cases last' : lastCut? events' with
      | some marker' =>
          rw [last, last'] at same
          cases Option.some.inj same
          exact absurd last' new'
      | none => rfl

namespace Grammar

/-- **Spent cuts are inert.** From a state whose last cut lies behind the cursor and from the same
state without the mark of that cut, a grammar both finishes or does not. If it does, it has the same
verdict, with the same error if it is one, and leaves the same tokens, cursor and stack. It has made
the same last cut on the way: the mark that is left is that of this cut, and if there is none, the
old mark in the one run and no mark in the other. A grammar that makes no cut is not given up
because of one. -/
theorem run_spentCut {rules : Rules} (combinators : rules.Combinator) {grammar : Grammar}
    (combinator : grammar.Combinator) (allowance : Nat) {state : ParseState} {old : CutMarker}
    (cut : state.cut = some old) (behind : old.cursor < state.cursor) :
    Option.Rel
      (fun outcome other =>
        let last := outcome.session.state
        let last' := other.session.state
        let made := lastCut? outcome.session.log
        other.verdict = outcome.verdict ∧
          last'.tokens = last.tokens ∧ last'.cursor = last.cursor ∧ last'.stack = last.stack ∧
          lastCut? other.session.log = made ∧
          last.cut = made.or (some old) ∧ last'.cut = made ∧
          (rules.Throughout Cutless → grammar.Throughout Cutless →
            made = none ∧ outcome.verdict.isCommitted = false))
      (grammar.run rules allowance (.ofState state))
      (grammar.run rules allowance (.ofState state.withoutCut)) := by
  let cutless : Prop := rules.Throughout Cutless ∧ grammar.Throughout Cutless
  have permittedRules : rules.Throughout fun grammar => cutless → grammar.Cutless :=
    fun entry member => .of_imp fun never => never.1 entry member
  have permitted : grammar.Throughout fun grammar => cutless → grammar.Cutless :=
    .of_imp fun never => never.2
  have inStep := run_relatedWithin (Parser.congruence_spent cutless old) combinators
    permittedRules combinator permitted allowance
  rw [Rules.rewrite_identity, rewrite_identity] at inStep
  have start : state.Spent cutless old state.withoutCut := by
    refine ⟨?_, behind, fun _ => rfl⟩
    rw [ParseState.marked, ParseState.withoutCut, Option.none_or, ← cut]
  have related := @inStep (.ofState state) (.ofState state.withoutCut) start
  refine rel_imp (rel_attach related) ?_
  rintro outcome other ⟨ran, ran', alike⟩
  obtain ⟨verdict, uncommitted, spent⟩ : other.verdict = outcome.verdict ∧
      (cutless → outcome.verdict.isCommitted = false) ∧
      outcome.session.state.Spent cutless old other.session.state := by
    cases alike with
    | matched spent => exact ⟨rfl, fun _ => rfl, spent⟩
    | failed spent => exact ⟨rfl, fun _ => rfl, spent⟩
    | aborted same spent => exact ⟨congrArg Verdict.aborted same.1, same.2, spent⟩
  obtain ⟨events, follows⟩ := run_advancing combinators combinator allowance ran
  obtain ⟨events', follows'⟩ := run_advancing combinators combinator allowance ran'
  have log : outcome.session.log = events := follows.advances.log
  have log' : other.session.log = events' := follows'.advances.log
  have mark : outcome.session.state.cut = (lastCut? events).or (some old) := by
    rw [follows.advances.cut, Session.state_ofState, cut]
  have mark' : other.session.state.cut = lastCut? events' := by
    rw [follows'.advances.cut]
    exact Option.or_none
  -- A cut on the way lies at the start or after it, and so is not the old one.
  have made : lastCut? events' = lastCut? events := by
    refine lastCut?_eq_of_marks mark mark' (congrArg ParseState.cut spent.eq) ?_ ?_
    · intro last
      exact Nat.not_lt_of_le (follows.advances.cut_between old last).1 behind
    · intro last
      exact Nat.not_lt_of_le (follows'.advances.cut_between old last).1 behind
  rw [log, log']
  refine ⟨verdict, ?_, ?_, ?_, made, mark, mark'.trans made, ?_⟩
  · rw [spent.eq]
    rfl
  · rw [spent.eq]
    rfl
  · rw [spent.eq]
    rfl
  · intro neverRules never
    refine ⟨?_, uncommitted ⟨neverRules, never⟩⟩
    rw [← made, ← mark']
    exact spent.uncut ⟨neverRules, never⟩

/-- A second statement tries two readings after a first one was committed to, and is committed to in
its turn. -/
theorem run_spentCut_statement :
    let grammar : Grammar := .all [.choice [.sequence [.token "b", .token "d"], .token "b"],
      .cut "after b", .token "d"]
    let tokens : List Token := [⟨"a", "a", 0⟩, ⟨";", ";", 1⟩, ⟨"b", "b", 2⟩, ⟨"c", "c", 3⟩]
    let state : ParseState := ⟨tokens, 2, [], some ⟨"after a", 1⟩⟩
    ∃ other, grammar.run [] 0 (.ofState state.withoutCut) = some other ∧
      other.verdict = .failed ∧
      other.session.state.stack = [.leaf ⟨"b", "b", 2⟩] ∧
      other.session.state.cut = some ⟨"after b", 3⟩ := by
  intro grammar tokens state
  have combinators : Rules.Combinator [] := nofun
  have combinator : grammar.Combinator := by simp [grammar, Combinator, CombinatorAll]
  let last : ParseState := ⟨tokens, 3, [.leaf ⟨"b", "b", 2⟩], some ⟨"after b", 3⟩⟩
  have ran : grammar.run [] 0 (.ofState state) =
      some ⟨.failed, ⟨last, [], [.cut ⟨"after b", 3⟩]⟩⟩ := by decide
  have behind : 1 < state.cursor := by decide
  have related := run_spentCut combinators combinator 0 (rfl : state.cut = some ⟨"after a", 1⟩) behind
  rw [ran] at related
  cases bare : grammar.run [] 0 (.ofState state.withoutCut) with
  | none =>
      rw [bare] at related
      cases related
  | some other =>
      rw [bare] at related
      cases related with
      | some alike =>
          obtain ⟨verdict, -, -, stack, -, -, mark, -⟩ := alike
          exact ⟨other, rfl, verdict, stack, mark⟩

end Grammar

end TokenGrammar
