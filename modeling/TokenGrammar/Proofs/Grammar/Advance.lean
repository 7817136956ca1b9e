import TokenGrammar.Proofs.Grammar.Rewriting

/-! # What every parser may do to a session

A parser that was built from primitives and combinators moves the cursor forward at most, leaves
the elements below its own on the stack alone, and changes the mark of the last cut only by a cut of
its own. All rollback rests on this: a checkpoint taken before such a parser can always be returned
to, unless the parser committed itself.

* `Session.Advances`: what may happen to a session, given the events logged on the way.
* `Session.Explains`: the log ends with the reason of an abort, in the very state that is left.
* `Session.Advances.restore`: rolling back to the start undoes everything or is refused.
* `Parser.Advancing`: a parser that keeps to this.
* `Parser.closed_advancing`, `Grammar.run_advancing`: every grammar does. -/

namespace TokenGrammar

/-- The marker that a cut left. -/
def Event.marker? : Event → Option CutMarker
  | .cut marker => some marker
  | _ => none

/-- The last cut among events. -/
def lastCut? (events : List Event) : Option CutMarker :=
  (events.filterMap Event.marker?).getLast?

/-- Of the cuts in two parts of a log the later ones count first. -/
theorem lastCut?_append (earlier later : List Event) :
    lastCut? (earlier ++ later) = (lastCut? later).or (lastCut? earlier) := by
  rw [lastCut?, List.filterMap_append, List.getLast?_append]
  rfl

/-- Other events do not count. -/
theorem lastCut?_append_of_marker?_eq_none {event : Event} (other : event.marker? = none)
    (events : List Event) : lastCut? (events ++ [event]) = lastCut? events := by
  rw [lastCut?_append, lastCut?, List.filterMap_cons_none other]
  rfl

/-- There is no last cut where there is none at all. -/
theorem lastCut?_eq_none_iff {events : List Event} :
    lastCut? events = none ↔ ∀ marker, Event.cut marker ∉ events := by
  rw [lastCut?, List.getLast?_eq_none_iff, List.filterMap_eq_nil_iff]
  constructor
  · intro none marker member
    cases none _ member
  · intro absent event member
    cases event with
    | cut marker => exact absurd member (absent marker)
    | traced => rfl
    | refused => rfl
    | stalled => rfl

namespace Session

/-- What may happen to a session on the way through a parser that logs the given events. -/
structure Advances (before : Session) (events : List Event) (after : Session) : Prop where
  /-- The tokens stay. -/
  tokens : after.state.tokens = before.state.tokens
  /-- The cursor does not end further back. -/
  cursor_le : before.state.cursor ≤ after.state.cursor
  /-- The cursor stays within the tokens. -/
  cursor_le_length : before.state.cursor ≤ before.state.tokens.length →
    after.state.cursor ≤ before.state.tokens.length
  /-- The elements that were there stay, below any new ones. -/
  stack : before.state.stack <+: after.state.stack
  /-- The events are added to the log. -/
  log : after.log = before.log ++ events
  /-- The mark of the last cut is that of the last cut on the way, if there was one. -/
  cut : after.state.cut = (lastCut? events).or before.state.cut
  /-- The last cut on the way lies on the way. -/
  cut_between : ∀ marker ∈ lastCut? events,
    before.state.cursor ≤ marker.cursor ∧ marker.cursor ≤ after.state.cursor

/-- The log ends with the reason of an abort, in the very state that is left. -/
inductive Explains (session : Session) : ParseError → Prop where
  /-- A rollback was refused. -/
  | refused {checkpoint : Checkpoint} {error : ParseError}
      (last : session.log.getLast? = some (.refused session.state checkpoint))
      (refusal : session.state.restore checkpoint = .error error) : Explains session error
  /-- A repetition made no progress. -/
  | stalled (last : session.log.getLast? = some (.stalled session.state)) :
      Explains session (.noProgress session.state.cursor)

namespace Advances

variable {before middle after : Session} {events later : List Event}

/-- Nothing happened. -/
theorem refl (session : Session) : session.Advances [] session where
  tokens := rfl
  cursor_le := Nat.le_refl _
  cursor_le_length := id
  stack := List.prefix_refl _
  log := (List.append_nil _).symm
  cut := rfl
  cut_between _ none := nomatch none

/-- One thing after another. -/
theorem trans (first : before.Advances events middle) (second : middle.Advances later after) :
    before.Advances (events ++ later) after where
  tokens := second.tokens.trans first.tokens
  cursor_le := Nat.le_trans first.cursor_le second.cursor_le
  cursor_le_length within := by
    have inner := second.cursor_le_length
    rw [first.tokens] at inner
    exact inner (first.cursor_le_length within)
  stack := first.stack.trans second.stack
  log := by rw [second.log, first.log, List.append_assoc]
  cut := by rw [second.cut, first.cut, lastCut?_append, Option.or_assoc]
  cut_between marker last := by
    rw [lastCut?_append] at last
    -- The last cut of all is the last of the later ones, if there are any.
    cases latest : lastCut? later with
    | some found =>
        rw [latest] at last
        cases Option.some.inj last
        obtain ⟨start, stop⟩ := second.cut_between marker latest
        exact ⟨Nat.le_trans first.cursor_le start, stop⟩
    | none =>
        rw [latest] at last
        obtain ⟨start, stop⟩ := first.cut_between marker last
        exact ⟨start, Nat.le_trans stop second.cursor_le⟩

/-- An event other than a cut leaves the state alone. -/
theorem note (advances : before.Advances events after) {event : Event}
    (other : event.marker? = none) : before.Advances (events ++ [event]) (after.note event) where
  tokens := advances.tokens
  cursor_le := advances.cursor_le
  cursor_le_length := advances.cursor_le_length
  stack := advances.stack
  log := by rw [Session.note, advances.log, List.append_assoc]
  cut := by rw [lastCut?_append_of_marker?_eq_none other]; exact advances.cut
  cut_between := by
    rw [lastCut?_append_of_marker?_eq_none other]
    exact advances.cut_between

/-- A token is kept. -/
theorem of_keep? {session : Session} {next : ParseState} (kept : session.state.keep? = some next) :
    session.Advances [] (session.withState next) := by
  rw [ParseState.keep?, Option.map_eq_some_iff] at kept
  obtain ⟨token, current, rfl⟩ := kept
  have within : session.state.cursor < session.state.tokens.length :=
    (List.getElem?_eq_some_iff.mp current).1
  exact {
    tokens := rfl
    cursor_le := Nat.le_succ _
    cursor_le_length := fun _ => within
    stack := List.prefix_append _ _
    log := (List.append_nil _).symm
    cut := rfl
    cut_between := fun _ none => nomatch none }

/-- A token is dropped. -/
theorem of_skip? {session : Session} {next : ParseState}
    (skipped : session.state.skip? = some next) : session.Advances [] (session.withState next) := by
  rw [ParseState.skip?] at skipped
  split at skipped
  · rename_i within
    cases skipped
    exact {
      tokens := rfl
      cursor_le := Nat.le_succ _
      cursor_le_length := fun _ => within
      stack := List.prefix_refl _
      log := (List.append_nil _).symm
      cut := rfl
      cut_between := fun _ none => nomatch none }
  · cases skipped

/-- A cut is made. -/
theorem of_commit (session : Session) (label : String) :
    session.Advances [.cut ⟨label, session.state.cursor⟩] (session.commit label) where
  tokens := rfl
  cursor_le := Nat.le_refl _
  cursor_le_length := id
  stack := List.prefix_refl _
  log := rfl
  cut := rfl
  cut_between marker last := by
    cases Option.some.inj last
    exact ⟨Nat.le_refl _, Nat.le_refl _⟩

/-- What was pushed on the way is replaced by one element. -/
theorem replace (advances : before.Advances events after) (name : String) (element : Element) :
    before.Advances events
      (after.withState ((after.state.takeNode before.checkpoint name).2.push element)) where
  tokens := advances.tokens
  cursor_le := advances.cursor_le
  cursor_le_length := advances.cursor_le_length
  stack := by
    obtain ⟨pushed, whole⟩ := advances.stack
    simp [ParseState.takeNode, ParseState.push, ParseState.checkpoint, ← whole]
  log := advances.log
  cut := advances.cut
  cut_between := advances.cut_between

/-- Rolling back to the start is refused after a cut on the way, and otherwise undoes everything
but the log. -/
theorem restore (advances : before.Advances events after) :
    (lastCut? events = none ∧
        after.restore before.checkpoint Session.failed =
          (after.withState before.state).failed) ∨
      ∃ error, after.state.restore before.checkpoint = .error error ∧
        after.restore before.checkpoint Session.failed =
          (after.note (.refused after.state before.checkpoint)).aborted error := by
  cases restored : after.state.restore before.checkpoint with
  | error error => exact .inr ⟨error, rfl, restore_of_error restored _⟩
  | ok state =>
      obtain ⟨free, rolledBack⟩ := ParseState.restore_eq_ok_iff.mp restored
      -- A cut on the way lies at the start or behind it, and would have forbidden the rollback.
      have noCut : lastCut? events = none := by
        rw [Option.eq_none_iff_forall_ne_some]
        intro marker last
        have cut : after.state.cut = some marker := by rw [advances.cut, last]; rfl
        have past : after.state.committedPast before.checkpoint = true :=
          ParseState.committedPast_eq_true_iff.mpr
            ⟨marker, cut, (advances.cut_between marker last).1⟩
        exact Bool.false_ne_true (free.symm.trans past)
      have same : state = before.state := by
        obtain ⟨pushed, whole⟩ := advances.stack
        have cut := advances.cut
        rw [noCut, Option.none_or] at cut
        rw [rolledBack, ParseState.rollback, advances.tokens, cut, ← whole]
        simp [ParseState.checkpoint]
      rw [same] at restored
      exact .inl ⟨noCut, restore_of_ok restored _⟩

/-- Rolling back to the start undoes everything but the log where there is no mark of a cut. -/
theorem restore_of_uncut (advances : before.Advances events after)
    (uncut : after.state.cut = none) :
    after.restore before.checkpoint Session.failed = (after.withState before.state).failed := by
  rcases advances.restore with ⟨-, restored⟩ | ⟨error, refusal, -⟩
  · exact restored
  · obtain ⟨marker, cut, -⟩ := ParseState.restore_eq_error_iff.mp refusal
    cases uncut.symm.trans cut

/-- Without a cut on the way the state of the start can be put back. -/
theorem undo (advances : before.Advances events after) (noCut : lastCut? events = none) :
    before.Advances events (after.withState before.state) where
  tokens := rfl
  cursor_le := Nat.le_refl _
  cursor_le_length := id
  stack := List.prefix_refl _
  log := advances.log
  cut := by rw [noCut]; rfl
  cut_between := by
    intro marker last
    rw [noCut] at last
    cases last

end Advances

end Session

/-- An outcome that a parser may have, started in a given session, with the events logged. -/
structure Outcome.Follows (outcome : Outcome) (before : Session) (events : List Event) : Prop where
  /-- What happened to the session. -/
  advances : before.Advances events outcome.session
  /-- An abort is explained by the log. -/
  explained : ∀ error, outcome.verdict = .aborted error → outcome.session.Explains error

namespace Outcome.Follows

variable {before after : Session} {events : List Event}

/-- A match needs no explanation. -/
theorem of_matched (advances : before.Advances events after) :
    after.matched.Follows before events :=
  ⟨advances, nofun⟩

/-- A failure needs no explanation. -/
theorem of_failed (advances : before.Advances events after) :
    after.failed.Follows before events :=
  ⟨advances, nofun⟩

/-- A test changes nothing. -/
theorem of_test (session : Session) (condition : Bool) :
    (session.test condition).Follows session [] := by
  cases condition
  · exact of_failed (.refl session)
  · exact of_matched (.refl session)

/-- A step changes the state as it says, if it can be made. -/
theorem of_step {session : Session} {next? : Option ParseState}
    (advances : ∀ next, next? = some next → session.Advances [] (session.withState next)) :
    (session.step next?).Follows session [] := by
  cases next? with
  | none => exact of_failed (.refl session)
  | some next => exact of_matched (advances next rfl)

/-- Rolling back to the start ends in a failure or in an abort with an explanation. -/
theorem of_restore (advances : before.Advances events after) :
    ∃ more, (after.restore before.checkpoint Session.failed).Follows before more := by
  rcases advances.restore with ⟨noCut, restored⟩ | ⟨error, refusal, refused⟩
  · rw [restored]
    exact ⟨events, of_failed (advances.undo noCut)⟩
  · rw [refused]
    have noted : before.Advances (events ++ [.refused after.state before.checkpoint])
        (after.note (.refused after.state before.checkpoint)) := advances.note rfl
    refine ⟨_, noted, ?_⟩
    intro other aborted
    cases aborted
    exact .refused (List.getLast?_concat ..) refusal

end Outcome.Follows

namespace Parser

/-- A parser that moves forward at most, leaves the older elements alone, and explains why it gave
up. -/
def Advancing (parser : Parser) : Prop :=
  ∀ ⦃before : Session⦄ ⦃outcome : Outcome⦄, parser before = some outcome →
    ∃ events, outcome.Follows before events

/-- Primitives take one step at most. -/
theorem advancing_primitive (grammar : Grammar) (primitive : grammar.Primitive)
    (call : String → Parser) : Advancing (grammar.eval call) := by
  intro before outcome ran
  cases grammar with
  | peek name =>
      cases Option.some.inj ran
      exact ⟨[], .of_test before _⟩
  | token name =>
      cases Option.some.inj ran
      refine ⟨[], .of_step fun next kept => ?_⟩
      split at kept
      · exact .of_keep? kept
      · cases kept
  | tokenExcept name =>
      cases Option.some.inj ran
      refine ⟨[], .of_step fun next kept => ?_⟩
      split at kept
      · cases kept
      · exact .of_keep? kept
  | eat name =>
      cases Option.some.inj ran
      refine ⟨[], .of_step fun next skipped => ?_⟩
      split at skipped
      · exact .of_skip? skipped
      · cases skipped
  | any =>
      cases Option.some.inj ran
      exact ⟨[], .of_step fun _ kept => .of_keep? kept⟩
  | skip =>
      cases Option.some.inj ran
      exact ⟨[], .of_step fun _ skipped => .of_skip? skipped⟩
  | endOfInput =>
      cases Option.some.inj ran
      exact ⟨[], .of_test before _⟩
  | cut label =>
      cases Option.some.inj ran
      exact ⟨_, .of_matched (.of_commit before label)⟩
  | trace label =>
      cases Option.some.inj ran
      have noted : before.Advances ([] ++ [before.traceEvent label])
          (before.note (before.traceEvent label)) := (Session.Advances.refl before).note rfl
      exact ⟨_, .of_matched noted⟩
  | succeed =>
      cases Option.some.inj ran
      exact ⟨[], .of_matched (.refl before)⟩
  | fail =>
      cases Option.some.inj ran
      exact ⟨[], .of_failed (.refl before)⟩
  | _ => exact primitive.elim

/-- What follows after a parser that has matched or failed follows after its start. -/
theorem Advancing.after {second : Parser} (advancing : second.Advancing) {before : Session}
    {middle outcome : Outcome} {events : List Event} (first : middle.Follows before events)
    (ran : second middle.session = some outcome) : ∃ more, outcome.Follows before more := by
  obtain ⟨later, follows⟩ := advancing ran
  exact ⟨events ++ later, first.advances.trans follows.advances, follows.explained⟩

/-- Parts in order move forward as each of them does. -/
theorem Advancing.andThen {first second : Parser} (left : first.Advancing)
    (right : second.Advancing) : (first.andThen second).Advancing := by
  intro before outcome ran
  obtain ⟨middle, start, ⟨-, rest⟩ | ⟨-, rfl⟩⟩ := andThen_eq_some_iff.mp ran
  · obtain ⟨events, follows⟩ := left start
    exact right.after follows rest
  · exact left start

/-- Alternatives move forward as each of them does. -/
theorem Advancing.orElse {first second : Parser} (left : first.Advancing)
    (right : second.Advancing) : (first.orElse second).Advancing := by
  intro before outcome ran
  obtain ⟨middle, start, ⟨-, rest⟩ | ⟨-, rfl⟩⟩ := orElse_eq_some_iff.mp ran
  · obtain ⟨events, follows⟩ := left start
    exact right.after follows rest
  · exact left start

/-- A rollback returns to the start at most. -/
theorem Advancing.backtrack {body : Parser} (advancing : body.Advancing) :
    body.backtrack.Advancing := by
  intro before outcome ran
  obtain ⟨inner, start, ⟨-, rfl⟩ | ⟨-, rfl⟩⟩ := backtrack_eq_some_iff.mp ran
  · obtain ⟨events, follows⟩ := advancing start
    exact Outcome.Follows.of_restore follows.advances
  · exact advancing start

/-- An optional part moves forward as the part does. -/
theorem Advancing.optional {body : Parser} (advancing : body.Advancing) :
    body.optional.Advancing := by
  intro before outcome ran
  obtain ⟨inner, start, ⟨-, rfl⟩ | ⟨-, rfl⟩⟩ := optional_eq_some_iff.mp ran
  · obtain ⟨events, follows⟩ := advancing start
    exact ⟨events, .of_matched follows.advances⟩
  · exact advancing start

/-- A repetition moves forward as its body does, and explains why it gave up. -/
theorem Advancing.iterate {body : Parser} (advancing : body.Advancing) (budget count : Nat)
    {before : Session} {repetition : Repetition}
    (ran : iterate body budget count before = some repetition) :
    ∃ events, before.Advances events repetition.session ∧
      ∀ error, repetition.result = .error error → repetition.session.Explains error := by
  induction budget generalizing before count with
  | zero => cases ran
  | succ budget induction =>
      obtain ⟨outcome, start, ending⟩ := iterate_succ_eq_some_iff.mp ran
      obtain ⟨events, follows⟩ := advancing start
      rcases ending with ⟨-, -, rest⟩ | ⟨-, stuck, rfl⟩ | ⟨-, rfl⟩ | ⟨error, aborted, rfl⟩
      · obtain ⟨later, advances, explained⟩ := induction (count + 1) rest
        exact ⟨events ++ later, follows.advances.trans advances, explained⟩
      · -- The error names the cursor before the match, which is also the one after it.
        have still : before.state.cursor = outcome.session.state.cursor :=
          Nat.le_antisymm follows.advances.cursor_le (Nat.not_lt.mp stuck)
        refine ⟨_, follows.advances.note rfl, ?_⟩
        intro error noProgress
        cases Except.error.inj noProgress
        rw [still]
        exact .stalled (List.getLast?_concat ..)
      · exact ⟨events, follows.advances, nofun⟩
      · refine ⟨events, follows.advances, ?_⟩
        rintro _ ⟨⟩
        exact follows.explained error aborted

/-- A repetition moves forward as its body does. -/
theorem Advancing.many {body : Parser} (advancing : body.Advancing) : body.many.Advancing := by
  intro before outcome ran
  obtain ⟨repetition, repeated, ⟨count, -, rfl⟩ | ⟨error, result, rfl⟩⟩ :=
    many_eq_some_iff.mp ran <;>
    obtain ⟨events, advances, explained⟩ := advancing.iterate _ _ repeated
  · exact ⟨events, .of_matched advances⟩
  · refine ⟨events, advances, ?_⟩
    rintro _ ⟨⟩
    exact explained error result

/-- A repetition that needs one match returns to the start at most. -/
theorem Advancing.many1 {body : Parser} (advancing : body.Advancing) : body.many1.Advancing := by
  intro before outcome ran
  obtain ⟨repetition, repeated, ⟨-, rfl⟩ | ⟨count, -, rfl⟩ | ⟨error, result, rfl⟩⟩ :=
    many1_eq_some_iff.mp ran <;>
    obtain ⟨events, advances, explained⟩ := advancing.iterate _ _ repeated
  · exact Outcome.Follows.of_restore advances
  · exact ⟨events, .of_matched advances⟩
  · refine ⟨events, advances, ?_⟩
    rintro _ ⟨⟩
    exact explained error result

/-- A node rule replaces what its body pushed, or returns to the start. -/
theorem Advancing.node (name : String) (minChildren : Nat) (actions : List Action) {body : Parser}
    (advancing : body.Advancing) : (Parser.node name minChildren actions body).Advancing := by
  intro before outcome ran
  obtain ⟨inner, start, closing⟩ := node_eq_some_iff.mp ran
  obtain ⟨events, follows⟩ := advancing start
  have advances := follows.advances
  rcases closing with ⟨-, rfl⟩ | ⟨-, rfl⟩ | ⟨-, -, rfl⟩
  · rcases inner.session.closeNode_cases before.checkpoint name minChildren actions with
      kept | ⟨element, replaced⟩ | undone
    · rw [kept]
      exact ⟨events, .of_matched advances⟩
    · rw [replaced]
      exact ⟨events, .of_matched (advances.replace name element)⟩
    · rw [undone]
      exact Outcome.Follows.of_restore advances
  · exact Outcome.Follows.of_restore advances
  · exact ⟨events, follows⟩

/-- Every combinator keeps to what its parts keep to. -/
theorem closed_advancing : Closed Advancing where
  exhausted _ _ ran := nomatch ran
  primitive := advancing_primitive
  andThen := Advancing.andThen
  orElse := Advancing.orElse
  backtrack := Advancing.backtrack
  optional := Advancing.optional
  many := Advancing.many
  many1 := Advancing.many1
  node name minChildren actions _ := Advancing.node name minChildren actions

end Parser

/-- Every grammar moves forward at most, leaves the older elements alone, and explains why it gave
up. -/
theorem Grammar.run_advancing {rules : Rules} (combinators : rules.Combinator) {grammar : Grammar}
    (combinator : grammar.Combinator) (allowance : Nat) :
    (grammar.run rules allowance).Advancing :=
  run_closed Parser.closed_advancing combinators combinator allowance

end TokenGrammar
