import TokenGrammar.Proofs.Grammar.Meaning
import TokenGrammar.Proofs.Grammar.Outcomes

/-! # Outcomes and readings

When the outcome of a run is what a reading of the tokens says.

* `ParseState.further`: a state at another place, with elements built on the way.
* `Reading.Describes`: the outcome of a run that makes of the tokens what a reading says.
* `Reading.Admits`: the same, but for what a failure leaves behind.
* `Session.ofToken`, `Reading.Admits.ofToken`: what the next token decides.
* `Reading.Admits.closeNode`: what a node encloses. -/

namespace TokenGrammar

namespace ParseState

/-- The state at another place, with elements built on the way. -/
def further (state : ParseState) (stop : Nat) (elements : List Element) : ParseState :=
  { state with cursor := stop, stack := state.stack ++ elements }

variable (state : ParseState)

/-- Nothing was built, and no token consumed. -/
theorem further_cursor : state.further state.cursor [] = state := by
  simp [further]

/-- One stretch after another. -/
theorem further_further (stop last : Nat) (elements more : List Element) :
    (state.further stop elements).further last more = state.further last (elements ++ more) := by
  simp [further]

variable {state} {token : Token}

/-- A token that is there can be kept. -/
theorem keep?_of_current (current : state.current? = some token) :
    state.keep? = some (state.further (state.cursor + 1) [.leaf token]) := by
  rw [keep?, current]
  rfl

/-- Where there is no token none can be kept. -/
theorem keep?_of_none (absent : state.current? = none) : state.keep? = none := by
  rw [keep?, absent]
  rfl

/-- A token that is there can be dropped. -/
theorem skip?_of_current (current : state.current? = some token) :
    state.skip? = some (state.further (state.cursor + 1) []) := by
  have within : state.cursor < state.tokens.length := (List.getElem?_eq_some_iff.mp current).1
  rw [skip?, if_pos within, further, List.append_nil]
  rfl

/-- Where there is no token none can be dropped. -/
theorem skip?_of_none (absent : state.current? = none) : state.skip? = none := by
  have beyond : ¬ state.cursor < state.tokens.length :=
    Nat.not_lt.mpr (List.getElem?_eq_none_iff.mp absent)
  rw [skip?, if_neg beyond]

/-- A token that is there has a name. -/
theorem peek_of_current (current : state.current? = some token) (name : String) :
    state.peek name = (token.name == name) := by
  rw [peek, current]
  rfl

/-- No token has no name. -/
theorem peek_of_none (absent : state.current? = none) (name : String) :
    state.peek name = false := by
  rw [peek, absent]
  rfl

end ParseState

namespace Session

/-- Match with a new state if there is an acceptable token next, and fail without a change
otherwise. -/
def ofToken (session : Session) (accepts : Token → Bool) (accepted : Token → ParseState) :
    Outcome :=
  match session.state.current? with
  | some token =>
      if accepts token then (session.withState (accepted token)).matched else session.failed
  | none => session.failed

/-- A test that looks at the next token. -/
theorem test_eq_ofToken {session : Session} {condition : Bool} {accepts : Token → Bool}
    (absent : session.state.current? = none → condition = false)
    (present : ∀ token, session.state.current? = some token → condition = accepts token) :
    session.test condition =
      session.ofToken accepts fun _ => session.state.further session.state.cursor [] := by
  rw [ofToken, ParseState.further_cursor]
  cases current : session.state.current? with
  | none =>
      rw [absent current]
      rfl
  | some token =>
      rw [present token current]
      rfl

/-- A step that looks at the next token. -/
theorem step_eq_ofToken {session : Session} {next? : Option ParseState}
    {accepts : Token → Bool} {accepted : Token → ParseState}
    (absent : session.state.current? = none → next? = none)
    (present : ∀ token, session.state.current? = some token →
      next? = if accepts token then some (accepted token) else none) :
    session.step next? = session.ofToken accepts accepted := by
  rw [ofToken]
  cases current : session.state.current? with
  | none =>
      rw [absent current]
      rfl
  | some token =>
      rw [present token current]
      change session.step (if accepts token then some (accepted token) else none) =
        if accepts token then (session.withState (accepted token)).matched else session.failed
      split
      · rfl
      · rfl

variable (session : Session) (name : String)

/-- A token of the given name is next. -/
theorem test_peek : session.test (session.state.peek name) =
    session.ofToken (·.name == name) fun _ => session.state.further session.state.cursor [] :=
  test_eq_ofToken (fun absent => ParseState.peek_of_none absent name)
    fun _ current => ParseState.peek_of_current current name

/-- A token of the given name is kept. -/
theorem step_token :
    session.step (if session.state.peek name then session.state.keep? else none) =
      session.ofToken (·.name == name) fun token =>
        session.state.further (session.state.cursor + 1) [.leaf token] := by
  apply step_eq_ofToken
  · intro absent
    rw [ParseState.peek_of_none absent]
    rfl
  · intro token current
    rw [ParseState.peek_of_current current, ParseState.keep?_of_current current]

/-- A token of another name is kept. -/
theorem step_tokenExcept :
    session.step (if session.state.peek name then none else session.state.keep?) =
      session.ofToken (·.name != name) fun token =>
        session.state.further (session.state.cursor + 1) [.leaf token] := by
  apply step_eq_ofToken
  · intro absent
    rw [ParseState.peek_of_none absent, ParseState.keep?_of_none absent]
    rfl
  · intro token current
    rw [ParseState.peek_of_current current, ParseState.keep?_of_current current]
    cases named : token.name == name <;> simp [bne, named]

/-- A token of the given name is dropped. -/
theorem step_eat :
    session.step (if session.state.peek name then session.state.skip? else none) =
      session.ofToken (·.name == name) fun _ =>
        session.state.further (session.state.cursor + 1) [] := by
  apply step_eq_ofToken
  · intro absent
    rw [ParseState.peek_of_none absent]
    rfl
  · intro token current
    rw [ParseState.peek_of_current current, ParseState.skip?_of_current current]

/-- A token is kept. -/
theorem step_any : session.step session.state.keep? =
    session.ofToken (fun _ => true) fun token =>
      session.state.further (session.state.cursor + 1) [.leaf token] :=
  step_eq_ofToken ParseState.keep?_of_none fun _ => ParseState.keep?_of_current

/-- A token is dropped. -/
theorem step_skip : session.step session.state.skip? =
    session.ofToken (fun _ => true) fun _ =>
      session.state.further (session.state.cursor + 1) [] :=
  step_eq_ofToken ParseState.skip?_of_none fun _ => ParseState.skip?_of_current

end Session

namespace Reading

/-- The outcome of a run that makes of the tokens what a reading says: a failure leaves the state
alone, a match moves the cursor and adds the elements to the stack, and nothing else changes. -/
def Describes (before : ParseState) (outcome : Outcome) : Reading → Prop
  | .fail => outcome.verdict = .failed ∧ outcome.session.state = before
  | .upTo stop elements =>
      outcome.verdict = .matched ∧ outcome.session.state = before.further stop elements
  | .stuck place => outcome.verdict = .aborted (.noProgress place)

/-- As `Describes`, but a failure need leave the state alone only under a condition. It made no cut
in any case. -/
def Admits (clean : Prop) (before : ParseState) (outcome : Outcome) : Reading → Prop
  | .fail => outcome.verdict = .failed ∧ outcome.session.state.cut = none ∧
      (clean → outcome.session.state = before)
  | reading => reading.Describes before outcome

variable {reading : Reading} {before : ParseState} {outcome : Outcome} {clean : Prop}

/-- An outcome is that of one reading only. -/
theorem Describes.unique {other : Reading} (describes : reading.Describes before outcome)
    (describesOther : other.Describes before outcome) : reading = other := by
  cases reading with
  | fail =>
      cases other with
      | fail => rfl
      | upTo => cases describes.1.symm.trans describesOther.1
      | stuck => cases describes.1.symm.trans describesOther
  | upTo stop elements =>
      cases other with
      | fail => cases describes.1.symm.trans describesOther.1
      | upTo stop' elements' =>
          have same := describes.2.symm.trans describesOther.2
          have stops : stop = stop' := congrArg ParseState.cursor same
          have joined : before.stack ++ elements = before.stack ++ elements' :=
            congrArg ParseState.stack same
          rw [stops, List.append_cancel_left joined]
      | stuck => cases describes.1.symm.trans describesOther
  | stuck place =>
      cases other with
      | fail => cases describes.symm.trans describesOther.1
      | upTo => cases describes.symm.trans describesOther.1
      | stuck place' =>
          cases describes.symm.trans describesOther
          rfl

namespace Admits

/-- A failure that must leave the state alone does so. -/
theorem describes (admits : reading.Admits clean before outcome) (must : clean) :
    reading.Describes before outcome := by
  cases reading with
  | fail => exact ⟨admits.1, admits.2.2 must⟩
  | upTo => exact admits
  | stuck => exact admits

/-- A match is one up to a place. -/
theorem of_matched (admits : reading.Admits clean before outcome)
    (matched : outcome.verdict = .matched) : ∃ stop elements,
      reading = .upTo stop elements ∧ outcome.session.state = before.further stop elements := by
  cases reading with
  | fail => cases matched.symm.trans admits.1
  | upTo stop elements => exact ⟨stop, elements, rfl, admits.2⟩
  | stuck => cases matched.symm.trans admits

/-- A failure is a reading that fails. -/
theorem of_failed (admits : reading.Admits clean before outcome)
    (failed : outcome.verdict = .failed) : reading = .fail ∧ outcome.session.state.cut = none ∧
      (clean → outcome.session.state = before) := by
  cases reading with
  | fail => exact ⟨rfl, admits.2⟩
  | upTo => cases failed.symm.trans admits.1
  | stuck => cases failed.symm.trans admits

/-- An abort is a reading that is stuck. -/
theorem of_aborted {error : ParseError} (admits : reading.Admits clean before outcome)
    (aborted : outcome.verdict = .aborted error) :
    ∃ place, reading = .stuck place ∧ error = .noProgress place := by
  cases reading with
  | fail => cases aborted.symm.trans admits.1
  | upTo => cases aborted.symm.trans admits.1
  | stuck place => exact ⟨place, rfl, Verdict.aborted.inj (aborted.symm.trans admits)⟩

/-- What is no failure is none of the reading. -/
theorem ne_fail (admits : reading.Admits clean before outcome)
    (unfailed : outcome.verdict ≠ .failed) : reading ≠ .fail := by
  rintro rfl
  exact unfailed admits.1

/-- What is no match stops the reading. -/
theorem stops (admits : reading.Admits clean before outcome)
    (unmatched : outcome.verdict ≠ .matched) : reading.Stops := by
  cases reading with
  | fail => trivial
  | upTo => exact absurd admits.1 unmatched
  | stuck => trivial

/-- A failure need not leave the state alone more often. -/
theorem imp {clean' : Prop} (admits : reading.Admits clean before outcome)
    (must : clean' → clean) : reading.Admits clean' before outcome := by
  cases reading with
  | fail => exact ⟨admits.1, admits.2.1, fun clean => admits.2.2 (must clean)⟩
  | upTo => exact admits
  | stuck => exact admits

/-- Of what is no failure nothing more is asked. -/
theorem of_ne_failed (admits : reading.Admits clean before outcome)
    (unfailed : outcome.verdict ≠ .failed) (clean' : Prop) :
    reading.Admits clean' before outcome := by
  cases reading with
  | fail => exact absurd admits.1 unfailed
  | upTo => exact admits
  | stuck => exact admits

/-- After a stretch that was matched the reading of the whole goes on. -/
theorem prepend {clean' : Prop} {stop : Nat} {elements : List Element}
    (admits : reading.Admits clean (before.further stop elements) outcome) (dirty : ¬ clean') :
    (reading.prepend elements).Admits clean' before outcome := by
  cases reading with
  | fail => exact ⟨admits.1, admits.2.1, fun clean => absurd clean dirty⟩
  | upTo last more => exact ⟨admits.1, admits.2.trans (before.further_further ..)⟩
  | stuck => exact admits

/-- A node without actions encloses what was built. -/
theorem closeNode {session after : Session} {stop : Nat} {elements : List Element}
    (state : after.state = session.state.further stop elements) (name : String)
    (minChildren : Nat) :
    ((Reading.upTo stop elements).enclose name minChildren).Admits clean session.state
      (after.closeNode session.checkpoint name minChildren []) := by
  have pushed : after.state.pushedSince session.checkpoint = elements.length := by
    simp [state, ParseState.pushedSince, ParseState.further, ParseState.checkpoint]
  by_cases few : elements.length ≤ minChildren
  · rw [enclose, if_pos few, Session.closeNode_of_few (pushed ▸ few)]
    exact ⟨rfl, state⟩
  · have many : ¬ after.state.pushedSince session.checkpoint ≤ minChildren := pushed ▸ few
    rw [enclose, if_neg few, Session.closeNode_of_actionless many]
    refine ⟨rfl, ?_⟩
    simp [Session.matched, state, ParseState.takeNode, ParseState.further, ParseState.push,
      ParseState.checkpoint, Node.toElement]

/-- What the token at the cursor decides in a run is what it decides among the tokens. -/
theorem ofToken {session : Session} (uncut : session.state.cut = none) (accepts : Token → Bool)
    (stop : Nat) (taken : Token → List Element) :
    (Reading.ofToken session.state.tokens session.state.cursor accepts
        fun token => .upTo stop (taken token)).Admits clean session.state
      (session.ofToken accepts fun token => session.state.further stop (taken token)) := by
  have failed : Reading.fail.Admits clean session.state session.failed :=
    ⟨rfl, uncut, fun _ => rfl⟩
  rw [Session.ofToken, ParseState.current?]
  cases current : session.state.tokens[session.state.cursor]? with
  | none =>
      rw [Reading.ofToken, current]
      exact failed
  | some token =>
      simp only [Reading.ofToken, current]
      by_cases accepted : accepts token = true
      · rw [if_pos accepted, if_pos accepted]
        exact ⟨rfl, rfl⟩
      · rw [if_neg accepted, if_neg accepted]
        exact failed

end Admits

end Reading

end TokenGrammar
