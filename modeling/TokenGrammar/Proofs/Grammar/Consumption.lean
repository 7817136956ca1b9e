import TokenGrammar.Proofs.Grammar.Advance

/-! # Grammars that must consume

Some grammars cannot match without moving the cursor, and their form says so.

* `Grammar.MustConsume`: the grammars that do not match in place, read off their form.
* `Parser.Consuming`: a parser whose matches move the cursor.
* `Grammar.MustConsume.consuming`: the form does not lie, whatever the rules and the tokens. -/

namespace TokenGrammar

namespace ParseState

variable {state next : ParseState}

/-- A kept token moves the cursor. -/
theorem cursor_lt_of_keep? (kept : state.keep? = some next) : state.cursor < next.cursor := by
  rw [keep?, Option.map_eq_some_iff] at kept
  obtain ⟨token, -, rfl⟩ := kept
  exact Nat.lt_succ_self state.cursor

/-- A dropped token moves the cursor. -/
theorem cursor_lt_of_skip? (skipped : state.skip? = some next) : state.cursor < next.cursor := by
  rw [skip?] at skipped
  split at skipped
  · cases skipped
    exact Nat.lt_succ_self state.cursor
  · cases skipped

end ParseState

namespace Parser

/-- A parser that does not match without moving the cursor. -/
def Consuming (parser : Parser) : Prop :=
  ∀ ⦃before : Session⦄ ⦃outcome : Outcome⦄, parser before = some outcome →
    outcome.verdict = .matched → before.state.cursor < outcome.session.state.cursor

section

variable {first second body : Parser}

/-- The cursor does not end further back. -/
theorem Advancing.cursor_le (advancing : body.Advancing) {before : Session} {outcome : Outcome}
    (ran : body before = some outcome) :
    before.state.cursor ≤ outcome.session.state.cursor := by
  obtain ⟨_, follows⟩ := advancing ran
  exact follows.advances.cursor_le

/-- The tokens stay. -/
theorem Advancing.tokens_eq (advancing : body.Advancing) {before : Session} {outcome : Outcome}
    (ran : body before = some outcome) :
    outcome.session.state.tokens = before.state.tokens := by
  obtain ⟨_, follows⟩ := advancing ran
  exact follows.advances.tokens

/-- The cursor stays within the tokens. -/
theorem Advancing.cursor_le_length (advancing : body.Advancing) {before : Session}
    {outcome : Outcome} (ran : body before = some outcome)
    (within : before.state.cursor ≤ before.state.tokens.length) :
    outcome.session.state.cursor ≤ outcome.session.state.tokens.length := by
  obtain ⟨_, follows⟩ := advancing ran
  rw [follows.advances.tokens]
  exact follows.advances.cursor_le_length within

/-- A token is consumed, or there is no match. -/
theorem consuming_step (next? : Session → Option ParseState)
    (moves : ∀ session next, next? session = some next →
      session.state.cursor < next.cursor) :
    Consuming fun session => some (session.step (next? session)) := by
  intro before outcome ran matched
  cases Option.some.inj ran
  cases next : next? before with
  | none =>
      rw [next] at matched
      cases matched
  | some state => exact moves before state next

/-- Parts in order consume if the first does. -/
theorem Consuming.andThen_left (consuming : first.Consuming) (advancing : second.Advancing) :
    (first.andThen second).Consuming := by
  intro before outcome ran matched
  obtain ⟨middle, start, ⟨matchedFirst, rest⟩ | ⟨stopped, rfl⟩⟩ := andThen_eq_some_iff.mp ran
  · exact Nat.lt_of_lt_of_le (consuming start matchedFirst) (advancing.cursor_le rest)
  · exact absurd matched stopped

/-- Parts in order consume if the second does. -/
theorem Consuming.andThen_right (advancing : first.Advancing) (consuming : second.Consuming) :
    (first.andThen second).Consuming := by
  intro before outcome ran matched
  obtain ⟨middle, start, ⟨-, rest⟩ | ⟨stopped, rfl⟩⟩ := andThen_eq_some_iff.mp ran
  · exact Nat.lt_of_le_of_lt (advancing.cursor_le start) (consuming rest matched)
  · exact absurd matched stopped

/-- Alternatives consume if each does. -/
theorem Consuming.orElse (left : first.Consuming) (advancing : first.Advancing)
    (right : second.Consuming) : (first.orElse second).Consuming := by
  intro before outcome ran matched
  obtain ⟨middle, start, ⟨-, rest⟩ | ⟨-, rfl⟩⟩ := orElse_eq_some_iff.mp ran
  · exact Nat.lt_of_le_of_lt (advancing.cursor_le start) (right rest matched)
  · exact left start matched

/-- A rollback ends in no match. -/
theorem Consuming.backtrack (consuming : body.Consuming) : body.backtrack.Consuming := by
  intro before outcome ran matched
  obtain ⟨inner, start, ⟨-, rfl⟩ | ⟨-, rfl⟩⟩ := backtrack_eq_some_iff.mp ran
  · exact absurd matched (Session.verdict_restore_failed_ne _ _)
  · exact consuming start matched

/-- A node rule matches where its body stopped. -/
theorem Consuming.node (name : String) (minChildren : Nat) (actions : List Action)
    (consuming : body.Consuming) : (Parser.node name minChildren actions body).Consuming := by
  intro before outcome ran matched
  obtain ⟨inner, start, ⟨matchedBody, rfl⟩ | ⟨-, rfl⟩ | ⟨error, aborted, rfl⟩⟩ :=
    node_eq_some_iff.mp ran
  · have moved := consuming start matchedBody
    rcases inner.session.closeNode_cases before.checkpoint name minChildren actions with
      kept | ⟨element, replaced⟩ | undone
    · rw [kept]
      exact moved
    · rw [replaced]
      exact moved
    · rw [undone] at matched
      exact absurd matched (Session.verdict_restore_failed_ne _ _)
  · exact absurd matched (Session.verdict_restore_failed_ne _ _)
  · cases aborted.symm.trans matched

/-- A repetition that needs one match matches behind its first round. -/
theorem Advancing.many1_consuming (advancing : body.Advancing) : body.many1.Consuming := by
  intro before outcome ran matched
  obtain ⟨repetition, repeated, ⟨-, rfl⟩ | ⟨count, result, rfl⟩ | ⟨error, -, rfl⟩⟩ :=
    many1_eq_some_iff.mp ran
  · exact absurd matched (Session.verdict_restore_failed_ne _ _)
  · obtain ⟨inner, start, ⟨-, moved, rest⟩ | ⟨-, -, rfl⟩ | ⟨-, rfl⟩ | ⟨error, -, rfl⟩⟩ :=
      iterate_succ_eq_some_iff.mp repeated
    · obtain ⟨_, advances, -⟩ := advancing.iterate _ _ rest
      exact Nat.lt_of_lt_of_le moved advances.cursor_le
    · cases result
    · cases result
    · cases result
  · cases matched

end

end Parser

namespace Grammar

/-- The grammars that cannot match in place: a token, a repetition that needs one match, parts in
order one of which cannot, alternatives none of which can, and what rolls back, or names, or refers
to such a grammar. -/
inductive MustConsume (rules : Rules) : Grammar → Prop where
  | token (name : String) : MustConsume rules (.token name)
  | tokenExcept (name : String) : MustConsume rules (.tokenExcept name)
  | eat (name : String) : MustConsume rules (.eat name)
  | any : MustConsume rules .any
  | skip : MustConsume rules .skip
  | many1 (body : Grammar) : MustConsume rules (.many1 body)
  | all {part : Grammar} {parts : List Grammar} (member : part ∈ parts)
      (consumes : MustConsume rules part) : MustConsume rules (.all parts)
  | sequence {part : Grammar} {parts : List Grammar} (member : part ∈ parts)
      (consumes : MustConsume rules part) : MustConsume rules (.sequence parts)
  | choice {alternatives : List Grammar}
      (consume : ∀ alternative ∈ alternatives, MustConsume rules alternative) :
      MustConsume rules (.choice alternatives)
  | backtrack {body : Grammar} (consumes : MustConsume rules body) :
      MustConsume rules (.backtrack body)
  | node (name : String) (minChildren : Nat) {body : Grammar} (actions : List Action)
      (consumes : MustConsume rules body) :
      MustConsume rules (.node name minChildren body actions)
  | rule {name : String} {body : Grammar} (found : rules.lookup name = some body)
      (consumes : MustConsume rules body) : MustConsume rules (.rule name)

variable {rules : Rules} {allowance : Nat}

/-- Parts in order consume if one of them does. -/
theorem run_all_consuming (combinators : rules.Combinator) {part : Grammar} {parts : List Grammar}
    (combinator : CombinatorAll parts) (member : part ∈ parts)
    (consuming : (part.run rules allowance).Consuming) :
    (Parser.all (parts.map (run rules allowance))).Consuming := by
  induction parts with
  | nil => cases member
  | cons first parts induction =>
      rw [List.map_cons, Parser.all_cons]
      rcases List.mem_cons.mp member with rfl | later
      · have others : (Grammar.all parts).Combinator := combinator.2
        have advancing := run_advancing combinators others allowance
        rw [run_all] at advancing
        exact consuming.andThen_left advancing
      · exact (induction combinator.2 later).andThen_right
          (run_advancing combinators combinator.1 allowance)

/-- Alternatives consume if each of them does. -/
theorem run_choice_consuming (combinators : rules.Combinator) {alternatives : List Grammar}
    (combinator : CombinatorAll alternatives)
    (consuming : ∀ alternative ∈ alternatives, (alternative.run rules allowance).Consuming) :
    (Parser.choice (alternatives.map (run rules allowance))).Consuming := by
  induction alternatives with
  | nil =>
      intro before outcome ran matched
      cases Option.some.inj ran
      cases matched
  | cons first alternatives induction =>
      rw [List.map_cons, Parser.choice_cons]
      exact (consuming first List.mem_cons_self).orElse
        (run_advancing combinators combinator.1 allowance)
        (induction combinator.2 fun other member =>
          consuming other (List.mem_cons_of_mem first member))

/-- The grammars that must consume do, whatever the allowance. -/
theorem MustConsume.consuming (combinators : rules.Combinator) {grammar : Grammar}
    (consumes : grammar.MustConsume rules) (combinator : grammar.Combinator) (allowance : Nat) :
    (grammar.run rules allowance).Consuming := by
  induction consumes generalizing allowance with
  | token name =>
      refine Parser.consuming_step
        (fun session => if session.state.peek name then session.state.keep? else none)
        fun session next kept => ?_
      split at kept
      · exact ParseState.cursor_lt_of_keep? kept
      · cases kept
  | tokenExcept name =>
      refine Parser.consuming_step
        (fun session => if session.state.peek name then none else session.state.keep?)
        fun session next kept => ?_
      split at kept
      · cases kept
      · exact ParseState.cursor_lt_of_keep? kept
  | eat name =>
      refine Parser.consuming_step
        (fun session => if session.state.peek name then session.state.skip? else none)
        fun session next skipped => ?_
      split at skipped
      · exact ParseState.cursor_lt_of_skip? skipped
      · cases skipped
  | any => exact Parser.consuming_step _ fun _ _ => ParseState.cursor_lt_of_keep?
  | skip => exact Parser.consuming_step _ fun _ _ => ParseState.cursor_lt_of_skip?
  | many1 body =>
      have inner : body.Combinator := combinator
      exact (run_advancing combinators inner allowance).many1_consuming
  | all member _ consuming =>
      have parts := combinatorAll_iff.mp combinator
      rw [run_all]
      exact run_all_consuming combinators combinator member (consuming (parts _ member) allowance)
  | sequence member _ consuming =>
      have parts := combinatorAll_iff.mp combinator
      rw [run_sequence, Parser.sequence_eq_backtrack_all]
      exact (run_all_consuming combinators combinator member
        (consuming (parts _ member) allowance)).backtrack
  | choice _ consuming =>
      have alternatives := combinatorAll_iff.mp combinator
      rw [run_choice]
      exact run_choice_consuming combinators combinator fun alternative member =>
        consuming alternative member (alternatives alternative member) allowance
  | backtrack _ consuming => exact (consuming combinator allowance).backtrack
  | node name minChildren actions _ consuming =>
      exact (consuming combinator allowance).node name minChildren actions
  | rule found _ consuming =>
      rw [run_rule]
      cases allowance with
      | zero => exact fun _ _ ran => nomatch ran
      | succ allowance =>
          rw [call_succ, found]
          exact consuming (combinators.of_lookup found) allowance

end Grammar

end TokenGrammar
