import TokenGrammar.ParseState

/-! # Calls on parse states

The states that come about when a host works on a parse state directly, in whatever order and with
whatever checkpoints.

* `ParseState.Call`, `ParseState.after`: the calls that change a state, and what they leave.
* `ParseState.Step`: the ways in which a call can change a state.
* `ParseState.Reachable`: the states that come about.
* `ParseState.Reachable.cut_le`: no cut lies ahead of the cursor in such a state. -/

namespace TokenGrammar

namespace ParseState

/-- A call that changes a parse state. -/
inductive Call where
  /-- Consume the next token and put it on the stack. -/
  | keep
  /-- Consume the next token and drop it. -/
  | skip
  /-- Commit to the tokens consumed so far. -/
  | commit (label : String)
  /-- Put an element on the stack. -/
  | push (element : Element)
  /-- Roll back to a checkpoint. -/
  | restore (checkpoint : Checkpoint)
  /-- Take what was pushed since a checkpoint off the stack. -/
  | takeNode (checkpoint : Checkpoint) (name : String)

/-- The checkpoint that a call refers to. -/
def Call.checkpoint? : Call → Option Checkpoint
  | .restore checkpoint | .takeNode checkpoint _ => some checkpoint
  | _ => none

/-- What a call leaves. One that cannot be carried out changes nothing. -/
def after (state : ParseState) : Call → ParseState
  | .keep => state.keep?.getD state
  | .skip => state.skip?.getD state
  | .commit label => state.commit label
  | .push element => state.push element
  | .restore checkpoint => (state.restore checkpoint).toOption.getD state
  | .takeNode checkpoint name => (state.takeNode checkpoint name).2

/-- The states that calls lead to, from the start of some input on. The checkpoints need not have
been taken in the same parse. -/
inductive Reachable : ParseState → Prop where
  /-- The state before the first token. -/
  | start (tokens : List Token) : Reachable (ofTokens tokens)
  /-- A further call. -/
  | call {state : ParseState} (reachable : Reachable state) (call : Call) :
      Reachable (state.after call)

/-- The ways in which a call can change a state. -/
inductive Step (state : ParseState) (call : Call) : ParseState → Prop where
  /-- Nothing changes. -/
  | idle : Step state call state
  /-- The cursor passes a token, which is kept or not. -/
  | advance (stack : List Element) (within : state.cursor < state.tokens.length) :
      Step state call { state with cursor := state.cursor + 1, stack := stack }
  /-- The stack changes. -/
  | restack (stack : List Element) : Step state call { state with stack := stack }
  /-- A cut is made. -/
  | commit (label : String) : Step state call (state.commit label)
  /-- The state returns to a checkpoint that no cut forbids. -/
  | rollback (checkpoint : Checkpoint) (asked : call.checkpoint? = some checkpoint)
      (free : state.committedPast checkpoint = false) : Step state call (state.rollback checkpoint)

/-- No call changes a state in another way. -/
theorem step_after (state : ParseState) (call : Call) : state.Step call (state.after call) := by
  cases call with
  | keep =>
      cases current : state.current? with
      | none =>
          simp only [after, keep?, current, Option.map_none, Option.getD_none]
          exact .idle
      | some token =>
          have within : state.cursor < state.tokens.length :=
            (List.getElem?_eq_some_iff.mp current).1
          simp only [after, keep?, current, Option.map_some, Option.getD_some]
          exact .advance _ within
  | skip =>
      by_cases within : state.cursor < state.tokens.length
      · simp only [after, skip?, if_pos within, Option.getD_some]
        exact .advance state.stack within
      · simp only [after, skip?, if_neg within, Option.getD_none]
        exact .idle
  | commit label => exact .commit label
  | push element => exact .restack _
  | restore checkpoint =>
      cases past : state.committedPast checkpoint with
      | true =>
          obtain ⟨marker, cut, le⟩ := committedPast_eq_true_iff.mp past
          simp only [after, restore_of_cut cut le]
          exact .idle
      | false =>
          simp only [after, restore_of_not_committedPast past]
          exact .rollback checkpoint rfl past
  | takeNode checkpoint name => exact .restack _

/-- A cut before a checkpoint is all that allows a rollback to it. -/
theorem lt_of_not_committedPast {state : ParseState} {checkpoint : Checkpoint}
    (free : state.committedPast checkpoint = false) {marker : CutMarker}
    (cut : state.cut = some marker) : marker.cursor < checkpoint.cursor := by
  apply Nat.lt_of_not_le
  intro behind
  have past : state.committedPast checkpoint = true :=
    committedPast_eq_true_iff.mpr ⟨marker, cut, behind⟩
  simp [past] at free

/-- A call leaves no cut ahead of the cursor if there was none. A rollback may move the cursor
either way, but not to or before the last cut. -/
theorem cut_le_after {state : ParseState}
    (cut_le : ∀ marker ∈ state.cut, marker.cursor ≤ state.cursor) (call : Call) :
    ∀ marker ∈ (state.after call).cut, marker.cursor ≤ (state.after call).cursor := by
  have step : state.Step call (state.after call) := state.step_after call
  generalize state.after call = next at step
  intro marker cut
  cases step with
  | idle => exact cut_le marker cut
  | advance stack within => exact Nat.le_succ_of_le (cut_le marker cut)
  | restack stack => exact cut_le marker cut
  | commit label =>
      cases Option.some.inj cut
      exact Nat.le_refl _
  | rollback checkpoint asked free => exact Nat.le_of_lt (lt_of_not_committedPast free cut)

/-- No cut lies ahead of the cursor. -/
theorem Reachable.cut_le {state : ParseState} (reachable : state.Reachable) :
    ∀ marker ∈ state.cut, marker.cursor ≤ state.cursor := by
  induction reachable with
  | start tokens => exact fun _ none => nomatch none
  | call reachable call induction => exact cut_le_after induction call

end ParseState

end TokenGrammar
