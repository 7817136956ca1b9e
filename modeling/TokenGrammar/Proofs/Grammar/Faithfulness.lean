import TokenGrammar.Proofs.Grammar.Rollback
import TokenGrammar.Proofs.Grammar.Description

/-! # Finished runs have the meaning of the grammar

A run changes one state in place and rolls it back; a grammar means places and elements. Where a
grammar has no cuts and no actions, goes on after a failure only where that was rolled back, and
starts without a mark of a cut, a run that finishes does what the grammar means.

* `Grammar.Peg`, `Rules.Peg`: the grammars and rules whose runs have a meaning.
* `Parser.Faithful`: a parser that does what a grammar means.
* `Parser.Faithful.andThen` and so on: the combinators, one at a time.
* `Repetition.Realizes`, `Parser.Faithful.iterate`: the rounds of a repetition.
* `Grammar.run_faithful`: the runs of a grammar do what the grammar means. -/

namespace TokenGrammar

namespace Grammar

/-- Whether a grammar rolls back when it fails, given that every rule does. -/
def RollsBack (grammar : Grammar) : Prop :=
  grammar.Restores []

/-- Whether a grammar commits to nothing, checks no nodes, and goes on after a failure only where
that was rolled back. -/
def Tidy : Grammar → Prop
  | .cut _ => False
  | .node _ _ _ actions => actions = []
  | .choice alternatives => ∀ alternative ∈ alternatives, alternative.RollsBack
  | .optional body | .many body | .many1 body => body.RollsBack
  | _ => True

/-- The grammars whose runs have a meaning of their own. -/
structure Peg (grammar : Grammar) : Prop where
  /-- There are no host steps. -/
  combinator : grammar.Combinator
  /-- There are no cuts and no actions, and nothing goes on after a failure that is not rolled
  back. -/
  tidy : grammar.Throughout Tidy
  /-- A failure of the whole is rolled back. -/
  rollsBack : grammar.RollsBack

/-- Parts in order do not roll back. -/
theorem not_rollsBack_all (parts : List Grammar) : ¬ (Grammar.all parts).RollsBack := by
  intro rollsBack
  cases rollsBack with
  | primitive primitive => exact primitive.elim

/-- Alternatives that roll back together do so each on its own. -/
theorem RollsBack.tail {alternative : Grammar} {alternatives : List Grammar}
    (rollsBack : (Grammar.choice (alternative :: alternatives)).RollsBack) :
    (Grammar.choice alternatives).RollsBack := by
  cases rollsBack with
  | primitive primitive => exact primitive.elim
  | choice restores => exact .choice fun other member => restores other (.tail alternative member)

end Grammar

namespace Rules

/-- Whether the runs of every rule have a meaning of their own. -/
def Peg (rules : Rules) : Prop :=
  ∀ entry ∈ rules, entry.2.Peg

variable {rules : Rules}

/-- What holds of every rule holds of one that is found. -/
theorem Peg.of_lookup (pegs : rules.Peg) {name : String} {body : Grammar}
    (found : rules.lookup name = some body) : body.Peg := by
  obtain ⟨entry, member, rfl⟩ := exists_mem_of_lookup found
  exact pegs entry member

/-- No rule has a host step. -/
theorem Peg.combinators (pegs : rules.Peg) : rules.Combinator :=
  fun entry member => (pegs entry member).combinator

end Rules

namespace Parser

/-- A parser that moves forward at most, and where it finishes does what a grammar means, if there
was no mark of a cut. -/
structure Faithful (rules : Rules) (grammar : Grammar) (parser : Parser) : Prop where
  /-- It moves forward at most. -/
  advancing : parser.Advancing
  /-- It does what the grammar means. -/
  reads : ∀ ⦃before : Session⦄ ⦃outcome : Outcome⦄, before.state.cut = none →
    parser before = some outcome →
      ∃ reading, grammar.Reads rules before.state.tokens before.state.cursor reading ∧
        reading.Admits grammar.RollsBack before.state outcome

variable {rules : Rules}

/-- A failure that is rolled back leaves nothing behind. -/
theorem admits_restore {before after : Session} {events : List Event}
    (advances : before.Advances events after) (uncut : before.state.cut = none)
    (uncutAfter : after.state.cut = none) (clean : Prop) :
    Reading.fail.Admits clean before.state
      (after.restore before.checkpoint Session.failed) := by
  rw [advances.restore_of_uncut uncutAfter]
  exact ⟨rfl, uncut, fun _ => rfl⟩

/-- Parts in order mean what they mean one after another. -/
theorem Faithful.andThen {part : Grammar} {parts : List Grammar} {first second : Parser}
    (left : first.Faithful rules part) (right : second.Faithful rules (.all parts)) :
    (first.andThen second).Faithful rules (.all (part :: parts)) := by
  refine ⟨left.advancing.andThen right.advancing, ?_⟩
  intro before outcome uncut ran
  -- What the parts consumed before one of them failed stays consumed.
  have dirty := Grammar.not_rollsBack_all (part :: parts)
  obtain ⟨middle, start, ending⟩ := andThen_eq_some_iff.mp ran
  obtain ⟨reading, reads, admits⟩ := left.reads uncut start
  rcases ending with ⟨matched, rest⟩ | ⟨unmatched, rfl⟩
  · obtain ⟨stop, elements, rfl, state⟩ := admits.of_matched matched
    have uncutAfter : middle.session.state.cut = none := by
      rw [state]
      exact uncut
    obtain ⟨later, readsLater, admitsLater⟩ := right.reads uncutAfter rest
    rw [state] at readsLater admitsLater
    exact ⟨later.prepend elements, .allMore reads readsLater, admitsLater.prepend dirty⟩
  · have stops : reading.Stops := admits.stops unmatched
    exact ⟨reading, .allStop reads stops parts, admits.imp fun clean => absurd clean dirty⟩

/-- An alternative that rolls back leaves the meaning of the others alone. -/
theorem Faithful.orElse {alternative : Grammar} {alternatives : List Grammar}
    {first second : Parser} (left : first.Faithful rules alternative)
    (rollsBack : alternative.RollsBack) (right : second.Faithful rules (.choice alternatives)) :
    (first.orElse second).Faithful rules (.choice (alternative :: alternatives)) := by
  refine ⟨left.advancing.orElse right.advancing, ?_⟩
  intro before outcome uncut ran
  obtain ⟨middle, start, ending⟩ := orElse_eq_some_iff.mp ran
  obtain ⟨reading, reads, admits⟩ := left.reads uncut start
  rcases ending with ⟨failed, rest⟩ | ⟨unfailed, rfl⟩
  · -- The other alternatives start where this one did, since it was rolled back.
    obtain ⟨rfl, uncutAfter, same⟩ := admits.of_failed failed
    obtain ⟨later, readsLater, admitsLater⟩ := right.reads uncutAfter rest
    rw [same rollsBack] at readsLater admitsLater
    exact ⟨later, .choiceLater reads readsLater, admitsLater.imp Grammar.RollsBack.tail⟩
  · have unfailedReading : reading ≠ .fail := admits.ne_fail unfailed
    exact ⟨reading, .choiceFirst reads unfailedReading alternatives, admits.of_ne_failed unfailed _⟩

/-- A rollback on failure changes no meaning, whatever was left behind. -/
theorem Faithful.backtrack {part whole : Grammar} {body : Parser}
    (faithful : body.Faithful rules part)
    (means : ∀ {tokens : List Token} {start : Nat} {reading : Reading},
      part.Reads rules tokens start reading → whole.Reads rules tokens start reading) :
    body.backtrack.Faithful rules whole := by
  refine ⟨faithful.advancing.backtrack, ?_⟩
  intro before outcome uncut ran
  obtain ⟨inner, start, ending⟩ := backtrack_eq_some_iff.mp ran
  obtain ⟨reading, reads, admits⟩ := faithful.reads uncut start
  rcases ending with ⟨failed, rfl⟩ | ⟨unfailed, rfl⟩
  · -- A body that fails may leave anything behind but a cut, which would forbid the rollback.
    obtain ⟨rfl, uncutAfter, -⟩ := admits.of_failed failed
    obtain ⟨events, follows⟩ := faithful.advancing start
    exact ⟨.fail, means reads, admits_restore follows.advances uncut uncutAfter _⟩
  · exact ⟨reading, means reads, admits.of_ne_failed unfailed _⟩

/-- An optional part that rolls back matches nothing where it fails. -/
theorem Faithful.optional {grammar : Grammar} {body : Parser}
    (faithful : body.Faithful rules grammar) (rollsBack : grammar.RollsBack) :
    body.optional.Faithful rules (.optional grammar) := by
  refine ⟨faithful.advancing.optional, ?_⟩
  intro before outcome uncut ran
  obtain ⟨inner, start, ending⟩ := optional_eq_some_iff.mp ran
  obtain ⟨reading, reads, admits⟩ := faithful.reads uncut start
  rcases ending with ⟨failed, rfl⟩ | ⟨unfailed, rfl⟩
  · obtain ⟨rfl, -, same⟩ := admits.of_failed failed
    have still : inner.session.state = before.state.further before.state.cursor [] := by
      rw [same rollsBack, ParseState.further_cursor]
    exact ⟨.upTo before.state.cursor [], .optionalNone reads, rfl, still⟩
  · have unfailedReading : reading ≠ .fail := admits.ne_fail unfailed
    exact ⟨reading, .optionalSome reads unfailedReading, admits.of_ne_failed unfailed _⟩

end Parser

/-- How a repetition ended, that had matched a number of times before, by what its body means. -/
inductive Repetition.Realizes (repetition : Repetition) (rules : Rules) (body : Grammar)
    (before : ParseState) (count : Nat) : Prop where
  /-- There was no further match. -/
  | none (first : body.Reads rules before.tokens before.cursor .fail)
      (result : repetition.result = .ok count) (state : repetition.session.state = before)
  /-- There were further matches. -/
  | some {reading : Reading} {stop more : Nat} {elements : List Element}
      (first : body.Reads rules before.tokens before.cursor reading) (unfailed : reading ≠ .fail)
      (reads : (Grammar.many body).Reads rules before.tokens before.cursor (.upTo stop elements))
      (result : repetition.result = .ok (count + 1 + more))
      (state : repetition.session.state = before.further stop elements)
  /-- It got stuck. -/
  | stuck {reading : Reading} {place : Nat}
      (first : body.Reads rules before.tokens before.cursor reading) (unfailed : reading ≠ .fail)
      (reads : (Grammar.many body).Reads rules before.tokens before.cursor (.stuck place))
      (result : repetition.result = .error (.noProgress place))

namespace Repetition.Realizes

variable {repetition : Repetition} {rules : Rules} {body : Grammar} {before : ParseState}
  {count stop : Nat} {elements : List Element}

/-- A repetition that goes on after a match. -/
theorem more (first : body.Reads rules before.tokens before.cursor (.upTo stop elements))
    (moved : before.cursor < stop)
    (realizes : repetition.Realizes rules body (before.further stop elements) (count + 1)) :
    repetition.Realizes rules body before count := by
  cases realizes with
  | none others result state =>
      have joined : repetition.session.state = before.further stop (elements ++ []) := by
        rw [state, List.append_nil]
      have counted : repetition.result = .ok (count + 1 + 0) := result
      exact .some first nofun (.manyMore first moved (.manyEnd others)) counted joined
  | @some _ last rounds later _ _ others result state =>
      have joined : repetition.session.state = before.further last (elements ++ later) := by
        rw [state, ParseState.further_further]
      have counted : repetition.result = .ok (count + 1 + (rounds + 1)) := by
        rw [result]
        congr 1
        omega
      exact .some first nofun (.manyMore first moved others) counted joined
  | stuck _ _ others result => exact .stuck first nofun (.manyMore first moved others) result

end Repetition.Realizes

namespace Parser

variable {rules : Rules}

/-- A repetition of what rolls back means what its rounds mean. -/
theorem Faithful.iterate {grammar : Grammar} {body : Parser}
    (faithful : body.Faithful rules grammar) (rollsBack : grammar.RollsBack) (budget count : Nat)
    {before : Session} {repetition : Repetition} (uncut : before.state.cut = none)
    (ran : iterate body budget count before = some repetition) :
    repetition.Realizes rules grammar before.state count := by
  induction budget generalizing before count with
  | zero => cases ran
  | succ budget induction =>
      obtain ⟨outcome, start, ending⟩ := iterate_succ_eq_some_iff.mp ran
      obtain ⟨reading, reads, admits⟩ := faithful.reads uncut start
      rcases ending with ⟨matched, moved, rest⟩ | ⟨matched, still, rfl⟩ | ⟨failed, rfl⟩ |
        ⟨error, aborted, rfl⟩
      · obtain ⟨stop, elements, rfl, state⟩ := admits.of_matched matched
        have uncutAfter : outcome.session.state.cut = none := by
          rw [state]
          exact uncut
        have realizes := induction (count + 1) uncutAfter rest
        rw [state] at moved realizes
        exact .more reads moved realizes
      · obtain ⟨stop, elements, rfl, state⟩ := admits.of_matched matched
        obtain ⟨events, follows⟩ := faithful.advancing start
        -- The cursor does not go back, so the match ended where it began.
        have le := follows.advances.cursor_le
        rw [state] at still le
        have same : stop = before.state.cursor := Nat.le_antisymm (Nat.not_lt.mp still) le
        rw [same] at reads
        exact .stuck reads nofun (.manyStill reads) rfl
      · -- The last round fails and is rolled back, so the earlier ones alone have moved the state.
        obtain ⟨rfl, -, same⟩ := admits.of_failed failed
        exact .none reads rfl (same rollsBack)
      · obtain ⟨place, rfl, rfl⟩ := admits.of_aborted aborted
        exact .stuck reads nofun (.manyStuck reads) rfl

/-- A repetition means what its rounds mean. -/
theorem Faithful.many {grammar : Grammar} {body : Parser}
    (faithful : body.Faithful rules grammar) (rollsBack : grammar.RollsBack) :
    body.many.Faithful rules (.many grammar) := by
  refine ⟨faithful.advancing.many, ?_⟩
  intro before outcome uncut ran
  obtain ⟨repetition, repeated, ending⟩ := many_eq_some_iff.mp ran
  have realizes := faithful.iterate rollsBack _ _ uncut repeated
  rcases ending with ⟨count, finished, rfl⟩ | ⟨error, broken, rfl⟩
  · cases realizes with
    | none first result same =>
        have still : repetition.session.state = before.state.further before.state.cursor [] := by
          rw [same, ParseState.further_cursor]
        exact ⟨.upTo before.state.cursor [], .manyEnd first, rfl, still⟩
    | some _ _ reads _ state => exact ⟨_, reads, rfl, state⟩
    | stuck _ _ _ result => cases finished.symm.trans result
  · cases realizes with
    | none _ result | some _ _ _ result => cases broken.symm.trans result
    | stuck _ _ reads result =>
        cases broken.symm.trans result
        exact ⟨_, reads, rfl⟩

/-- A repetition that needs one match means what its rounds mean, or fails as the first one. -/
theorem Faithful.many1 {grammar : Grammar} {body : Parser}
    (faithful : body.Faithful rules grammar) (rollsBack : grammar.RollsBack) :
    body.many1.Faithful rules (.many1 grammar) := by
  refine ⟨faithful.advancing.many1, ?_⟩
  intro before outcome uncut ran
  obtain ⟨repetition, repeated, ending⟩ := many1_eq_some_iff.mp ran
  have realizes := faithful.iterate rollsBack _ _ uncut repeated
  cases realizes with
  | none first result same =>
      rcases ending with ⟨-, rfl⟩ | ⟨count, finished, rfl⟩ | ⟨error, broken, rfl⟩
      · obtain ⟨events, advances, -⟩ := faithful.advancing.iterate _ _ repeated
        have uncutAfter : repetition.session.state.cut = none := by
          rw [same]
          exact uncut
        exact ⟨.fail, .many1None first, admits_restore advances uncut uncutAfter _⟩
      · cases finished.symm.trans result
      · cases broken.symm.trans result
  | @some _ _ more _ first unfailed reads result state =>
      rcases ending with ⟨unmatched, rfl⟩ | ⟨count, -, rfl⟩ | ⟨error, broken, rfl⟩
      · have none : 0 = 0 + 1 + more := Except.ok.inj (unmatched.symm.trans result)
        omega
      · exact ⟨_, .many1Some first unfailed reads, rfl, state⟩
      · cases broken.symm.trans result
  | stuck first unfailed reads result =>
      rcases ending with ⟨finished, rfl⟩ | ⟨count, finished, rfl⟩ | ⟨error, broken, rfl⟩
      · cases finished.symm.trans result
      · cases finished.symm.trans result
      · cases broken.symm.trans result
        exact ⟨_, .many1Some first unfailed reads, rfl⟩

/-- A node rule without actions encloses what its body means. -/
theorem Faithful.node (name : String) (minChildren : Nat) {grammar : Grammar} {body : Parser}
    (faithful : body.Faithful rules grammar) :
    (Parser.node name minChildren [] body).Faithful rules (.node name minChildren grammar []) := by
  refine ⟨faithful.advancing.node name minChildren [], ?_⟩
  intro before outcome uncut ran
  obtain ⟨inner, start, ending⟩ := node_eq_some_iff.mp ran
  obtain ⟨reading, reads, admits⟩ := faithful.reads uncut start
  refine ⟨reading.enclose name minChildren, .node reads name minChildren, ?_⟩
  rcases ending with ⟨matched, rfl⟩ | ⟨failed, rfl⟩ | ⟨error, aborted, rfl⟩
  · obtain ⟨stop, elements, rfl, state⟩ := admits.of_matched matched
    exact Reading.Admits.closeNode state name minChildren
  · obtain ⟨rfl, uncutAfter, -⟩ := admits.of_failed failed
    obtain ⟨events, follows⟩ := faithful.advancing start
    exact admits_restore follows.advances uncut uncutAfter _
  · obtain ⟨place, rfl, rfl⟩ := admits.of_aborted aborted
    exact aborted

/-- What matches without doing anything. -/
theorem faithful_succeed {grammar : Grammar}
    (means : ∀ tokens start, grammar.Reads rules tokens start (.upTo start [])) :
    succeed.Faithful rules grammar := by
  refine ⟨advancing_primitive .succeed trivial fun _ => .fail, ?_⟩
  intro before outcome uncut ran
  cases Option.some.inj ran
  exact ⟨_, means before.state.tokens before.state.cursor, rfl, before.state.further_cursor.symm⟩

/-- What fails without doing anything. -/
theorem faithful_fail {grammar : Grammar}
    (means : ∀ tokens start, grammar.Reads rules tokens start .fail) :
    fail.Faithful rules grammar := by
  refine ⟨advancing_primitive .fail trivial fun _ => .fail, ?_⟩
  intro before outcome uncut ran
  cases Option.some.inj ran
  exact ⟨_, means before.state.tokens before.state.cursor, rfl, uncut, fun _ => rfl⟩

/-- A primitive means what it tests and takes. -/
theorem faithful_primitive (grammar : Grammar) (primitive : grammar.Primitive)
    (tidy : grammar.Tidy) (call : String → Parser) : (grammar.eval call).Faithful rules grammar := by
  refine ⟨advancing_primitive grammar primitive call, ?_⟩
  intro before outcome uncut ran
  cases grammar with
  | peek name =>
      cases Option.some.inj ran
      rw [Session.test_peek]
      exact ⟨_, .peek name before.state.cursor, .ofToken uncut _ _ fun _ => []⟩
  | token name =>
      cases Option.some.inj ran
      rw [Session.step_token]
      exact ⟨_, .token name before.state.cursor, .ofToken uncut _ _ fun token => [.leaf token]⟩
  | tokenExcept name =>
      cases Option.some.inj ran
      rw [Session.step_tokenExcept]
      exact ⟨_, .tokenExcept name before.state.cursor,
        .ofToken uncut _ _ fun token => [.leaf token]⟩
  | eat name =>
      cases Option.some.inj ran
      rw [Session.step_eat]
      exact ⟨_, .eat name before.state.cursor, .ofToken uncut _ _ fun _ => []⟩
  | any =>
      cases Option.some.inj ran
      rw [Session.step_any]
      exact ⟨_, .any before.state.cursor, .ofToken uncut _ _ fun token => [.leaf token]⟩
  | skip =>
      cases Option.some.inj ran
      rw [Session.step_skip]
      exact ⟨_, .skip before.state.cursor, .ofToken uncut _ _ fun _ => []⟩
  | endOfInput =>
      cases Option.some.inj ran
      refine ⟨_, .endOfInput before.state.cursor, ?_⟩
      by_cases atEnd : before.state.cursor = before.state.tokens.length
      · have consumed : before.state.atEnd = true := beq_iff_eq.mpr atEnd
        rw [if_pos atEnd, consumed]
        exact ⟨rfl, before.state.further_cursor.symm⟩
      · have left : before.state.atEnd = false := beq_false_of_ne atEnd
        rw [if_neg atEnd, left]
        exact ⟨rfl, uncut, fun _ => rfl⟩
  | cut => exact tidy.elim
  | trace label =>
      cases Option.some.inj ran
      have still : before.state = before.state.further before.state.cursor [] :=
        before.state.further_cursor.symm
      exact ⟨_, .trace label before.state.cursor, rfl, still⟩
  | succeed => exact (faithful_succeed fun _ => .succeed).reads uncut ran
  | fail => exact (faithful_fail fun _ => .fail).reads uncut ran
  | _ => exact primitive.elim

end Parser

namespace Grammar

section

variable {rules : Rules} {call : String → Parser}

mutual

/-- The parser of a grammar is faithful if those of the rules are. -/
theorem eval_faithful (calls : ∀ name, (call name).Faithful rules (.rule name)) :
    (grammar : Grammar) → grammar.Combinator → grammar.Throughout Tidy →
      (grammar.eval call).Faithful rules grammar
  | .peek _, _, tidy | .token _, _, tidy | .tokenExcept _, _, tidy | .eat _, _, tidy
  | .any, _, tidy | .skip, _, tidy | .endOfInput, _, tidy | .cut _, _, tidy | .trace _, _, tidy
  | .succeed, _, tidy | .fail, _, tidy => by
      refine Parser.faithful_primitive _ ?_ tidy call
      trivial
  | .all parts, combinator, tidy => evalAll_faithful_all calls parts combinator tidy.2
  | .sequence parts, combinator, tidy => by
      have faithful := (evalAll_faithful_all calls parts combinator tidy.2).backtrack .sequence
      rw [← Parser.sequence_eq_backtrack_all] at faithful
      exact faithful
  | .choice alternatives, combinator, tidy =>
      evalAll_faithful_choice calls alternatives combinator tidy.2 tidy.1
  | .backtrack body, combinator, tidy =>
      (eval_faithful calls body combinator tidy.2).backtrack .backtrack
  | .optional body, combinator, tidy =>
      (eval_faithful calls body combinator tidy.2).optional tidy.1
  | .many body, combinator, tidy =>
      (eval_faithful calls body combinator tidy.2).many tidy.1
  | .many1 body, combinator, tidy =>
      (eval_faithful calls body combinator tidy.2).many1 tidy.1
  | .node name minChildren body _, combinator, ⟨rfl, tidy⟩ =>
      (eval_faithful calls body combinator tidy).node name minChildren
  | .rule name, _, _ => calls name

/-- Parts in order are faithful if the rules are. -/
theorem evalAll_faithful_all (calls : ∀ name, (call name).Faithful rules (.rule name)) :
    (grammars : List Grammar) → CombinatorAll grammars → ThroughoutAll Tidy grammars →
      (Parser.all (evalAll call grammars)).Faithful rules (.all grammars)
  | [], _, _ => Parser.faithful_succeed fun _ => .allNil
  | grammar :: grammars, combinators, tidy =>
      (eval_faithful calls grammar combinators.1 tidy.1).andThen
        (evalAll_faithful_all calls grammars combinators.2 tidy.2)

/-- Alternatives that roll back are faithful if the rules are. -/
theorem evalAll_faithful_choice (calls : ∀ name, (call name).Faithful rules (.rule name)) :
    (grammars : List Grammar) → CombinatorAll grammars → ThroughoutAll Tidy grammars →
      (∀ grammar ∈ grammars, grammar.RollsBack) →
      (Parser.choice (evalAll call grammars)).Faithful rules (.choice grammars)
  | [], _, _, _ => Parser.faithful_fail fun _ => .choiceNil
  | grammar :: grammars, combinators, tidy, rollBack =>
      (eval_faithful calls grammar combinators.1 tidy.1).orElse
        (rollBack grammar List.mem_cons_self)
        (evalAll_faithful_choice calls grammars combinators.2 tidy.2 fun other member =>
          rollBack other (List.mem_cons_of_mem grammar member))

end

end

variable {rules : Rules}

/-- The calls of rules are faithful, whatever the allowance. -/
theorem call_faithful (pegs : rules.Peg) (allowance : Nat) (name : String) :
    (call rules allowance name).Faithful rules (.rule name) := by
  induction allowance generalizing name with
  | zero => exact ⟨(fun _ _ ran => nomatch ran), (fun _ _ _ ran => nomatch ran)⟩
  | succ allowance induction =>
      rw [call_succ]
      cases found : rules.lookup name with
      | none => exact Parser.faithful_fail fun _ => .noRule found
      | some body =>
          have peg := pegs.of_lookup found
          have faithful := eval_faithful induction body peg.combinator peg.tidy
          refine ⟨faithful.advancing, ?_⟩
          intro before outcome uncut ran
          obtain ⟨reading, reads, admits⟩ := faithful.reads uncut ran
          exact ⟨reading, .rule found reads, admits.imp fun _ => peg.rollsBack⟩

/-- Runs do what the grammar means. -/
theorem run_faithful (pegs : rules.Peg) {grammar : Grammar}
    (combinator : grammar.Combinator) (tidy : grammar.Throughout Tidy) (allowance : Nat) :
    (grammar.run rules allowance).Faithful rules grammar :=
  eval_faithful (call_faithful pegs allowance) grammar combinator tidy

end Grammar

end TokenGrammar
