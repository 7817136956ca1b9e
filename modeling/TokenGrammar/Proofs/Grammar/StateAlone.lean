import TokenGrammar.Proofs.Grammar.Lockstep

/-! # A run depends on the parse state alone

A session carries a log and the bookmarks of a host besides the parse state. Combinators write the
log and never read it, so that a run ends alike whatever was logged before.

* `ParseState.lockstep_eq`: no combinator can tell two sessions in the same state apart.
* `Grammar.run_of_state_eq`: from the same state a grammar has the same verdict and leaves the same
  state.
* `Grammar.exists_failed_of_state_eq`: in particular it fails again where it failed. -/

namespace TokenGrammar

/-- Equal states are related states. -/
theorem rel_refl {α : Type} {Related : α → α → Prop} (reflexive : ∀ value, Related value value)
    (value? : Option α) : Option.Rel Related value? value? := by
  cases value? with
  | none => exact .none
  | some value => exact .some (reflexive value)

/-- No combinator can tell two sessions in the same state apart. -/
theorem ParseState.lockstep_eq :
    Lockstep (fun _ => True) (fun _ _ after after' => after = after') Eq where
  cursor := by rintro _ _ _ _ rfl; rfl
  length := by rintro _ _ _ _ rfl; rfl
  peek := by rintro _ _ _ _ rfl name; rfl
  rest := id
  trans _ second := second
  keep := by rintro _ _ rfl; exact rel_refl (fun _ => rfl) _
  skip := by rintro _ _ rfl; exact rel_refl (fun _ => rfl) _
  commit := by rintro _ _ rfl label _; rfl
  restore_ok := by
    rintro before _ after _ next rfl rfl restored
    exact ⟨next, restored, rfl⟩
  restore_error := by
    rintro before _ after _ error rfl rfl refused
    exact ⟨error, refused, rfl⟩
  stalled _ := rfl

namespace Parser

variable {before before' after after' : Session}

/-- From the same state a node closes alike. -/
theorem alike_closeNode_of_state_eq (start : before.state = before'.state)
    (same : after.state = after'.state) (name : String) (minChildren : Nat)
    (actions : List Action) :
    (after.closeNode before.checkpoint name minChildren actions).Alike Eq Eq
      (after'.closeNode before'.checkpoint name minChildren actions) := by
  have places : before'.checkpoint = before.checkpoint := congrArg ParseState.checkpoint start.symm
  have undone : (after.restore before.checkpoint Session.failed).Alike Eq Eq
      (after'.restore before'.checkpoint Session.failed) :=
    ParseState.lockstep_eq.restore start same
  rw [places] at undone ⊢
  by_cases few : after.state.pushedSince before.checkpoint ≤ minChildren
  · rw [Session.closeNode_of_few few, Session.closeNode_of_few (same ▸ few)]
    exact .matched same
  · have few' : ¬ after'.state.pushedSince before.checkpoint ≤ minChildren := same ▸ few
    cases checked : Action.runAll actions (after.state.takeNode before.checkpoint name).1 with
    | ok finished =>
        rw [Session.closeNode_of_accepted few checked,
          Session.closeNode_of_accepted few' (same ▸ checked), same]
        exact .matched rfl
    | error rejection =>
        rw [Session.closeNode_of_rejected few checked,
          Session.closeNode_of_rejected few' (same ▸ checked)]
        exact undone

/-- Every combinator goes the same way from the same state. -/
theorem congruence_sameState :
    CongruenceWithin (fun _ => True) (InStep (fun _ _ after after' => after = after') Eq)
      .identity := by
  refine ParseState.lockstep_eq.congruenceWithin (fun _ => rfl) ?_
  intro name minChildren actions inner _ body grammar call inStep before before' start
  refine rel_map (inStep start) fun inner inner' alike => ?_
  cases alike with
  | matched same => exact alike_closeNode_of_state_eq start same name minChildren actions
  | failed same => exact ParseState.lockstep_eq.restore start same
  | aborted report same => exact .aborted report same

end Parser

namespace Grammar

/-- From the same state a grammar both finishes or does not, has the same verdict and leaves the
same state, whatever was logged before. -/
theorem run_of_state_eq {rules : Rules} (combinators : rules.Combinator) {grammar : Grammar}
    (combinator : grammar.Combinator) (allowance : Nat) {before before' : Session}
    (start : before.state = before'.state) :
    Option.Rel (Outcome.Alike Eq Eq) (grammar.run rules allowance before)
      (grammar.run rules allowance before') := by
  have always : ∀ grammar : Grammar, grammar.Throughout fun _ => True :=
    throughout_of_forall fun _ => trivial
  have inStep := run_relatedWithin Parser.congruence_sameState combinators
    (fun entry _ => always entry.2) combinator (always grammar) allowance
  rw [Rules.rewrite_identity, rewrite_identity] at inStep
  exact inStep start

/-- Where a grammar fails from one session, it fails from every other one in the same state, and
leaves the same state. -/
theorem exists_failed_of_state_eq {rules : Rules} (combinators : rules.Combinator)
    {grammar : Grammar} (combinator : grammar.Combinator) {allowance : Nat}
    {before before' after : Session} (start : before.state = before'.state)
    (ran : grammar.run rules allowance before = some after.failed) :
    ∃ after' : Session, grammar.run rules allowance before' = some after'.failed ∧
      after'.state = after.state := by
  have related := run_of_state_eq combinators combinator allowance start
  rw [ran] at related
  cases ran' : grammar.run rules allowance before' with
  | none =>
      rw [ran'] at related
      cases related
  | some outcome =>
      rw [ran'] at related
      cases related with
      | some alike =>
          cases alike with
          | failed same => exact ⟨_, rfl, same.symm⟩

end Grammar

end TokenGrammar
