import TokenGrammar.Proofs.Grammar.Outcomes
import TokenGrammar.Proofs.ParseState.Calls

/-! # What a cut guarantees a host

A host may work on a parse state directly: take checkpoints whenever it likes, and come back to any
of them in any order, also to one that a later rollback has made stale, and more than once. Whatever
it does, a cut stays in force.

* `Hosted`, `Hosted.Move`, `Hosted.run`: a state with the checkpoints taken of it, and the moves of
  a host.
* `Hosted.Sound`: what every move preserves.
* `Hosted.commit_protocol`: what holds after any moves. -/

namespace TokenGrammar

/-- A parse state that a host works on. -/
structure Hosted where
  /-- The state. -/
  state : ParseState
  /-- The checkpoints that were taken of it, oldest first. -/
  taken : List Checkpoint
  deriving DecidableEq

namespace Hosted

open ParseState (Call)

/-- What a host can do. -/
inductive Move where
  /-- Take a checkpoint. -/
  | checkpoint
  /-- Change the state. -/
  | call (call : Call)

/-- The start of some input, before any checkpoint. -/
def ofTokens (tokens : List Token) : Hosted :=
  ⟨.ofTokens tokens, []⟩

/-- What a move leaves. A host has no checkpoints but those it took. -/
def move (hosted : Hosted) : Move → Hosted
  | .checkpoint => { hosted with taken := hosted.taken ++ [hosted.state.checkpoint] }
  | .call call =>
      if ∀ checkpoint ∈ call.checkpoint?, checkpoint ∈ hosted.taken then
        { hosted with state := hosted.state.after call }
      else hosted

/-- What moves leave, one after the other. -/
def run (hosted : Hosted) (moves : List Move) : Hosted :=
  moves.foldl move hosted

@[simp] theorem run_nil (hosted : Hosted) : hosted.run [] = hosted := rfl

@[simp] theorem run_cons (hosted : Hosted) (first : Move) (moves : List Move) :
    hosted.run (first :: moves) = (hosted.move first).run moves := rfl

end Hosted

namespace ParseState

/-- What a rollback leaves of the stack is its longest beginning that is not higher than it was at
the checkpoint. -/
theorem stack_of_restore {state next : ParseState} {checkpoint : Checkpoint}
    (restored : state.restore checkpoint = .ok next) :
    next.stack <+: state.stack ∧ next.stack.length ≤ checkpoint.stackSize ∧
      ∀ front, front <+: state.stack → front.length ≤ checkpoint.stackSize →
        front <+: next.stack := by
  obtain ⟨-, rfl⟩ := restore_eq_ok_iff.mp restored
  refine ⟨List.take_prefix _ _, List.length_take_le _ _, ?_⟩
  intro front isFront low
  have whole : front = state.stack.take front.length := List.prefix_iff_eq_take.mp isFront
  rw [whole]
  exact List.take_prefix_take_left low

end ParseState

namespace Hosted

open ParseState (Call Step)

/-- What every move preserves. -/
structure Sound (input : List Token) (hosted : Hosted) : Prop where
  /-- The tokens stay. -/
  tokens : hosted.state.tokens = input
  /-- The cursor is within the tokens. -/
  cursor_le : hosted.state.cursor ≤ input.length
  /-- No cut lies ahead of the cursor. -/
  cut_le : ∀ marker ∈ hosted.state.cut, marker.cursor ≤ hosted.state.cursor
  /-- The cursor was within the tokens whenever a checkpoint was taken. -/
  taken_le : ∀ checkpoint ∈ hosted.taken, checkpoint.cursor ≤ input.length

/-- From one state to a later one the last cut does not move back. -/
def Committed (before after : Hosted) : Prop :=
  ∀ marker ∈ before.state.cut, ∃ last ∈ after.state.cut, marker.cursor ≤ last.cursor

variable {input : List Token} {hosted : Hosted}

/-- Nothing has been done yet. -/
theorem sound_ofTokens (tokens : List Token) : (ofTokens tokens).Sound tokens where
  tokens := rfl
  cursor_le := Nat.zero_le _
  cut_le _ none := nomatch none
  taken_le _ none := nomatch none

/-- A move of a host is a checkpoint, a call or none at all. -/
theorem move_cases (hosted : Hosted) (move : Move) :
    (hosted.move move).state = hosted.state ∧ (hosted.move move).taken ⊆
        hosted.taken ++ [hosted.state.checkpoint] ∨
      ∃ call : Call, (∀ checkpoint ∈ call.checkpoint?, checkpoint ∈ hosted.taken) ∧
        hosted.move move = { hosted with state := hosted.state.after call } := by
  cases move with
  | checkpoint => exact .inl ⟨rfl, fun _ member => member⟩
  | call call =>
      by_cases owned : ∀ checkpoint ∈ call.checkpoint?, checkpoint ∈ hosted.taken
      · exact .inr ⟨call, owned, if_pos owned⟩
      · have same : hosted.move (.call call) = hosted := if_neg owned
        rw [same]
        exact .inl ⟨rfl, fun _ member => List.mem_append_left _ member⟩

/-- A move keeps the state sound. The cursor may jump ahead, but only to where it once was. -/
theorem Sound.move (sound : hosted.Sound input) (move : Move) :
    (hosted.move move).Sound input := by
  rcases hosted.move_cases move with ⟨same, more⟩ | ⟨call, owned, called⟩
  · have cut_le : ∀ marker ∈ (hosted.move move).state.cut,
        marker.cursor ≤ (hosted.move move).state.cursor := by
      rw [same]
      exact sound.cut_le
    refine ⟨by rw [same]; exact sound.tokens, by rw [same]; exact sound.cursor_le, cut_le, ?_⟩
    intro checkpoint member
    rcases List.mem_append.mp (more member) with earlier | new
    · exact sound.taken_le checkpoint earlier
    · rw [List.mem_singleton.mp new]
      exact sound.cursor_le
  · have cut_le : ∀ marker ∈ (hosted.state.after call).cut,
        marker.cursor ≤ (hosted.state.after call).cursor :=
      ParseState.cut_le_after sound.cut_le call
    have step : hosted.state.Step call (hosted.state.after call) := hosted.state.step_after call
    rw [called]
    generalize hosted.state.after call = next at cut_le step
    have within := sound.cursor_le
    refine ⟨?_, ?_, cut_le, sound.taken_le⟩
    · cases step <;> exact sound.tokens
    · cases step with
      | idle => exact within
      | advance stack less =>
          rw [sound.tokens] at less
          exact less
      | restack stack => exact within
      | commit label => exact within
      | rollback checkpoint asked free => exact sound.taken_le checkpoint (owned checkpoint asked)

/-- A move does not take back a cut: a new one is made where the cursor is, and no rollback changes
the last one. -/
theorem Sound.committed_move (sound : hosted.Sound input) (move : Move) :
    hosted.Committed (hosted.move move) := by
  intro marker cut
  rcases hosted.move_cases move with ⟨same, -⟩ | ⟨call, -, called⟩
  · rw [same]
    exact ⟨marker, cut, Nat.le_refl _⟩
  · have step : hosted.state.Step call (hosted.state.after call) := hosted.state.step_after call
    rw [called]
    generalize hosted.state.after call = next at step
    cases step with
    | commit label =>
        have le := sound.cut_le marker cut
        exact ⟨⟨label, hosted.state.cursor⟩, rfl, le⟩
    | _ => exact ⟨marker, cut, Nat.le_refl _⟩

/-- Moves keep the state sound. -/
theorem Sound.run (sound : hosted.Sound input) (moves : List Move) :
    (hosted.run moves).Sound input := by
  induction moves generalizing hosted with
  | nil => exact sound
  | cons first moves induction => exact induction (sound.move first)

/-- Moves do not take back a cut. -/
theorem Sound.committed_run (sound : hosted.Sound input) (moves : List Move) :
    hosted.Committed (hosted.run moves) := by
  induction moves generalizing hosted with
  | nil => exact fun marker cut => ⟨marker, cut, Nat.le_refl _⟩
  | cons first moves induction =>
      intro marker cut
      obtain ⟨next, cutNext, leNext⟩ := sound.committed_move first marker cut
      obtain ⟨last, cutLast, leLast⟩ := induction (sound.move first) next cutNext
      exact ⟨last, cutLast, Nat.le_trans leNext leLast⟩

/-- **A cut stays in force.** Take some moves from the start of the tokens, and then some more. The
tokens are what they were, the cursor is within them, and the last cut is not ahead of it. The last
cut has not disappeared or moved back on the way, so from a cut on the cursor does not come to lie
before the place of that cut. A rollback is refused, with a report of the cut, just where the last
cut lies at or after the checkpoint, and then nothing has changed. Where it succeeds, what is left
of the stack is its longest beginning that is not higher than it was at the checkpoint. -/
theorem commit_protocol (tokens : List Token) (earlier later : List Move) :
    let before := (ofTokens tokens).run earlier
    let now := before.run later
    now.state.tokens = tokens ∧
      now.state.cursor ≤ tokens.length ∧
      (∀ marker ∈ now.state.cut, marker.cursor ≤ now.state.cursor) ∧
      (∀ marker ∈ before.state.cut, ∃ last ∈ now.state.cut, marker.cursor ≤ last.cursor) ∧
      (∀ label, before.state.cursor ≤
        ((before.move (.call (.commit label))).run later).state.cursor) ∧
      ∀ checkpoint,
        (∀ error, now.state.restore checkpoint = .error error ↔
          ∃ marker, now.state.cut = some marker ∧ checkpoint.cursor ≤ marker.cursor ∧
            error = now.state.committedError marker checkpoint) ∧
        ((∃ error, now.state.restore checkpoint = .error error) →
          now.move (.call (.restore checkpoint)) = now) ∧
        ∀ next, now.state.restore checkpoint = .ok next →
          next.stack <+: now.state.stack ∧ next.stack.length ≤ checkpoint.stackSize ∧
            ∀ front, front <+: now.state.stack → front.length ≤ checkpoint.stackSize →
              front <+: next.stack := by
  intro before now
  have soundBefore : before.Sound tokens := (sound_ofTokens tokens).run earlier
  have sound : now.Sound tokens := soundBefore.run later
  refine ⟨sound.tokens, sound.cursor_le, sound.cut_le, soundBefore.committed_run later, ?_, ?_⟩
  · intro label
    have committed : (before.move (.call (.commit label))).state = before.state.commit label := by
      have owned : ∀ checkpoint ∈ (Call.commit label).checkpoint?, checkpoint ∈ before.taken :=
        nofun
      rw [move, if_pos owned]
      rfl
    have soundNext := soundBefore.move (.call (.commit label))
    have cut : (before.move (.call (.commit label))).state.cut =
        some ⟨label, before.state.cursor⟩ := by
      rw [committed]
      rfl
    obtain ⟨last, cutLast, le⟩ := soundNext.committed_run later _ cut
    exact Nat.le_trans le ((soundNext.run later).cut_le last cutLast)
  · intro checkpoint
    refine ⟨fun error => ParseState.restore_eq_error_iff, ?_, ?_⟩
    · rintro ⟨error, refused⟩
      have same : now.state.after (.restore checkpoint) = now.state := by
        simp [ParseState.after, refused, Except.toOption]
      rw [move, same]
      exact ite_self now
    · intro next restored
      exact ParseState.stack_of_restore restored

/-- After a cut at the second token the first checkpoint is out of reach, and the one taken behind
the cut can be returned to again and again. -/
theorem commit_protocol_twice :
    let tokens : List Token := [⟨"a", "a", 0⟩, ⟨"b", "b", 1⟩, ⟨"c", "c", 2⟩]
    let moves : List Move := [.checkpoint, .call .keep, .call (.commit "after a"), .call .keep,
      .checkpoint, .call (.takeNode ⟨0, 0⟩ "pair"), .call .keep, .call (.restore ⟨2, 2⟩)]
    let now := (ofTokens tokens).run moves
    now.state = ⟨tokens, 2, [.leaf ⟨"c", "c", 2⟩], some ⟨"after a", 1⟩⟩ ∧
      1 ≤ now.state.cursor ∧
      now.move (.call (.restore ⟨0, 0⟩)) = now ∧
      ∀ next, now.state.restore ⟨2, 2⟩ = .ok next → next.stack <+: now.state.stack := by
  intro tokens moves now
  have moved : now.state = ⟨tokens, 2, [.leaf ⟨"c", "c", 2⟩], some ⟨"after a", 1⟩⟩ := by decide
  have refused : now.state.restore ⟨0, 0⟩ = .error (.committed "after a" 1 1 0 2) := by
    rw [moved]
    rfl
  obtain ⟨-, -, -, -, after, -⟩ := commit_protocol tokens (moves.take 2) (moves.drop 3)
  obtain ⟨-, -, -, -, -, restored⟩ := commit_protocol tokens [] moves
  refine ⟨moved, after "after a", ?_, ?_⟩
  · exact (restored ⟨0, 0⟩).2.1 ⟨_, refused⟩
  · intro next found
    exact ((restored ⟨2, 2⟩).2.2 next found).1

end Hosted

end TokenGrammar
