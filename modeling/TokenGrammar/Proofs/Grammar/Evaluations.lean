import TokenGrammar.Proofs.Grammar.Outcomes
import TokenGrammar.Proofs.Grammar.Rewriting

/-! # Evaluations and their parser calls

A finished run, written down with every call of a parser that it makes. An evaluation has neither
an allowance of nested calls nor a bound on the rounds of a repetition, so there is one only where
the calls come to an end by themselves, and it says how many they are.

* `Grammar.Evaluates`: the evaluations of a grammar, with the number of parser calls.
* `Grammar.Evaluates.unique`: a grammar has one evaluation from a session at most.
* `Grammar.exists_evaluates_of_run`: a finished run makes the calls of an evaluation. -/

namespace TokenGrammar

namespace Grammar

/-- The evaluations of a grammar under rules that may refer to each other: the session at the start,
the number of parser calls made on the way, that of the grammar itself included, and the outcome.
What a combinator makes of the outcome of its body is said by the combinator, put around a parser
with just that outcome. -/
inductive Evaluates (rules : Rules) : Grammar → Session → Nat → Outcome → Prop where
  | primitive {grammar : Grammar} {before : Session} {outcome : Outcome}
      (primitive : grammar.Primitive) (ran : grammar.run rules 0 before = some outcome) :
      Evaluates rules grammar before 1 outcome
  | allNil {before : Session} : Evaluates rules (.all []) before 1 before.matched
  /-- The first part matches, and the others follow. -/
  | allMore {part : Grammar} {parts : List Grammar} {before : Session} {calls more : Nat}
      {middle outcome : Outcome} (first : Evaluates rules part before calls middle)
      (matched : middle.verdict = .matched)
      (others : Evaluates rules (.all parts) middle.session more outcome) :
      Evaluates rules (.all (part :: parts)) before (calls + more) outcome
  /-- The first part does not match, and the others are not called. -/
  | allStop {part : Grammar} {before : Session} {calls : Nat} {outcome : Outcome}
      (first : Evaluates rules part before calls outcome) (stopped : outcome.verdict ≠ .matched)
      (parts : List Grammar) : Evaluates rules (.all (part :: parts)) before (calls + 1) outcome
  | sequence {parts : List Grammar} {before : Session} {calls : Nat} {inner outcome : Outcome}
      (evaluates : Evaluates rules (.all parts) before calls inner)
      (ending : Parser.backtrack (fun _ => some inner) before = some outcome) :
      Evaluates rules (.sequence parts) before calls outcome
  | choiceNil {before : Session} : Evaluates rules (.choice []) before 1 before.failed
  /-- The first alternative fails, and the others follow. -/
  | choiceMore {alternative : Grammar} {alternatives : List Grammar} {before : Session}
      {calls more : Nat} {middle outcome : Outcome}
      (first : Evaluates rules alternative before calls middle)
      (failed : middle.verdict = .failed)
      (others : Evaluates rules (.choice alternatives) middle.session more outcome) :
      Evaluates rules (.choice (alternative :: alternatives)) before (calls + more) outcome
  /-- The first alternative does not fail, and the others are not called. -/
  | choiceStop {alternative : Grammar} {before : Session} {calls : Nat} {outcome : Outcome}
      (first : Evaluates rules alternative before calls outcome)
      (stopped : outcome.verdict ≠ .failed) (alternatives : List Grammar) :
      Evaluates rules (.choice (alternative :: alternatives)) before (calls + 1) outcome
  | backtrack {body : Grammar} {before : Session} {calls : Nat} {inner outcome : Outcome}
      (evaluates : Evaluates rules body before calls inner)
      (ending : Parser.backtrack (fun _ => some inner) before = some outcome) :
      Evaluates rules (.backtrack body) before (calls + 1) outcome
  | optional {body : Grammar} {before : Session} {calls : Nat} {inner outcome : Outcome}
      (evaluates : Evaluates rules body before calls inner)
      (ending : Parser.optional (fun _ => some inner) before = some outcome) :
      Evaluates rules (.optional body) before (calls + 1) outcome
  | node {body : Grammar} {before : Session} {calls : Nat} {inner outcome : Outcome}
      {name : String} {minChildren : Nat} {actions : List Action}
      (evaluates : Evaluates rules body before calls inner)
      (ending : Parser.node name minChildren actions (fun _ => some inner) before =
        some outcome) :
      Evaluates rules (.node name minChildren body actions) before (calls + 1) outcome
  /-- A round matches and moves the cursor, and the other rounds follow. -/
  | manyMore {body : Grammar} {before : Session} {calls more : Nat} {middle outcome : Outcome}
      (first : Evaluates rules body before calls middle) (matched : middle.verdict = .matched)
      (moved : before.state.cursor < middle.session.state.cursor)
      (others : Evaluates rules (.many body) middle.session more outcome) :
      Evaluates rules (.many body) before (calls + more) outcome
  /-- A round that does not match, or not further on, is the last one. -/
  | manyLast {body : Grammar} {before : Session} {calls : Nat} {inner outcome : Outcome}
      (first : Evaluates rules body before calls inner)
      (last : inner.verdict = .matched →
        ¬ before.state.cursor < inner.session.state.cursor)
      (ending : Parser.many (fun _ => some inner) before = some outcome) :
      Evaluates rules (.many body) before (calls + 1) outcome
  /-- The first round fails. -/
  | many1None {body : Grammar} {before : Session} {calls : Nat} {inner : Outcome}
      (first : Evaluates rules body before calls inner) (failed : inner.verdict = .failed) :
      Evaluates rules (.many1 body) before (calls + 1)
        (inner.session.restore before.checkpoint Session.failed)
  /-- The first round does not fail, and the calls are those of a repetition that needs no match. -/
  | many1Some {body : Grammar} {before : Session} {calls more : Nat} {inner outcome : Outcome}
      (first : Evaluates rules body before calls inner) (unfailed : inner.verdict ≠ .failed)
      (rounds : Evaluates rules (.many body) before more outcome) :
      Evaluates rules (.many1 body) before more outcome
  | rule {name : String} {body : Grammar} {before : Session} {calls : Nat} {outcome : Outcome}
      (found : rules.lookup name = some body)
      (evaluates : Evaluates rules body before calls outcome) :
      Evaluates rules (.rule name) before (calls + 1) outcome
  | noRule {name : String} {before : Session} (missing : rules.lookup name = none) :
      Evaluates rules (.rule name) before 1 before.failed

variable {rules : Rules}

/-- From a session a grammar has one evaluation at most. -/
theorem Evaluates.unique {grammar : Grammar} {before : Session} {calls other : Nat}
    {outcome result : Outcome} (first : grammar.Evaluates rules before calls outcome)
    (second : grammar.Evaluates rules before other result) :
    calls = other ∧ outcome = result := by
  induction first generalizing other result with
  | primitive primitive ran =>
      cases second with
      | primitive _ again => exact ⟨rfl, Option.some.inj (ran.symm.trans again)⟩
      | _ => exact primitive.elim
  | allNil =>
      cases second with
      | primitive primitive => exact primitive.elim
      | allNil => exact ⟨rfl, rfl⟩
  | allMore _ matched _ inductionFirst inductionOthers =>
      cases second with
      | primitive primitive => exact primitive.elim
      | allMore first _ others =>
          obtain ⟨rfl, rfl⟩ := inductionFirst first
          obtain ⟨rfl, rfl⟩ := inductionOthers others
          exact ⟨rfl, rfl⟩
      | allStop first stopped =>
          obtain ⟨rfl, rfl⟩ := inductionFirst first
          exact absurd matched stopped
  | allStop _ stopped _ induction =>
      cases second with
      | primitive primitive => exact primitive.elim
      | allMore first matched =>
          obtain ⟨rfl, rfl⟩ := induction first
          exact absurd matched stopped
      | allStop first =>
          obtain ⟨rfl, rfl⟩ := induction first
          exact ⟨rfl, rfl⟩
  | choiceNil =>
      cases second with
      | primitive primitive => exact primitive.elim
      | choiceNil => exact ⟨rfl, rfl⟩
  | choiceMore _ failed _ inductionFirst inductionOthers =>
      cases second with
      | primitive primitive => exact primitive.elim
      | choiceMore first _ others =>
          obtain ⟨rfl, rfl⟩ := inductionFirst first
          obtain ⟨rfl, rfl⟩ := inductionOthers others
          exact ⟨rfl, rfl⟩
      | choiceStop first stopped =>
          obtain ⟨rfl, rfl⟩ := inductionFirst first
          exact absurd failed stopped
  | choiceStop _ stopped _ induction =>
      cases second with
      | primitive primitive => exact primitive.elim
      | choiceMore first failed =>
          obtain ⟨rfl, rfl⟩ := induction first
          exact absurd failed stopped
      | choiceStop first =>
          obtain ⟨rfl, rfl⟩ := induction first
          exact ⟨rfl, rfl⟩
  | sequence _ ending induction =>
      cases second with
      | primitive primitive => exact primitive.elim
      | sequence evaluates again =>
          obtain ⟨rfl, rfl⟩ := induction evaluates
          exact ⟨rfl, Option.some.inj (ending.symm.trans again)⟩
  | backtrack _ ending induction =>
      cases second with
      | primitive primitive => exact primitive.elim
      | backtrack evaluates again =>
          obtain ⟨rfl, rfl⟩ := induction evaluates
          exact ⟨rfl, Option.some.inj (ending.symm.trans again)⟩
  | optional _ ending induction =>
      cases second with
      | primitive primitive => exact primitive.elim
      | optional evaluates again =>
          obtain ⟨rfl, rfl⟩ := induction evaluates
          exact ⟨rfl, Option.some.inj (ending.symm.trans again)⟩
  | node _ ending induction =>
      cases second with
      | primitive primitive => exact primitive.elim
      | node evaluates again =>
          obtain ⟨rfl, rfl⟩ := induction evaluates
          exact ⟨rfl, Option.some.inj (ending.symm.trans again)⟩
  | manyMore _ matched moved _ inductionFirst inductionOthers =>
      cases second with
      | primitive primitive => exact primitive.elim
      | manyMore first _ _ others =>
          obtain ⟨rfl, rfl⟩ := inductionFirst first
          obtain ⟨rfl, rfl⟩ := inductionOthers others
          exact ⟨rfl, rfl⟩
      | manyLast first last =>
          obtain ⟨rfl, rfl⟩ := inductionFirst first
          exact absurd moved (last matched)
  | manyLast _ last ending induction =>
      cases second with
      | primitive primitive => exact primitive.elim
      | manyMore first matched moved =>
          obtain ⟨rfl, rfl⟩ := induction first
          exact absurd moved (last matched)
      | manyLast first _ again =>
          obtain ⟨rfl, rfl⟩ := induction first
          exact ⟨rfl, Option.some.inj (ending.symm.trans again)⟩
  | many1None _ failed induction =>
      cases second with
      | primitive primitive => exact primitive.elim
      | many1None first =>
          obtain ⟨rfl, rfl⟩ := induction first
          exact ⟨rfl, rfl⟩
      | many1Some first unfailed =>
          obtain ⟨rfl, rfl⟩ := induction first
          exact absurd failed unfailed
  | many1Some _ unfailed _ inductionFirst inductionRounds =>
      cases second with
      | primitive primitive => exact primitive.elim
      | many1None first failed =>
          obtain ⟨rfl, rfl⟩ := inductionFirst first
          exact absurd failed unfailed
      | many1Some _ _ rounds => exact inductionRounds rounds
  | rule found _ induction =>
      cases second with
      | primitive primitive => exact primitive.elim
      | rule again evaluates =>
          cases Option.some.inj (found.symm.trans again)
          obtain ⟨rfl, rfl⟩ := induction evaluates
          exact ⟨rfl, rfl⟩
      | noRule missing => cases found.symm.trans missing
  | noRule missing =>
      cases second with
      | primitive primitive => exact primitive.elim
      | rule found => cases missing.symm.trans found
      | noRule => exact ⟨rfl, rfl⟩

end Grammar

namespace Parser

section

variable {body : Parser} {before : Session} {inner outcome : Outcome}

/-- The count of a repetition only grows. -/
theorem count_le_of_iterate {budget count total : Nat} {repetition : Repetition}
    (ran : iterate body budget count before = some repetition)
    (result : repetition.result = .ok total) : count ≤ total := by
  induction budget generalizing count before with
  | zero => cases ran
  | succ budget induction =>
      obtain ⟨outcome, -, ⟨-, -, rest⟩ | ⟨-, -, rfl⟩ | ⟨-, rfl⟩ | ⟨error, -, rfl⟩⟩ :=
        iterate_succ_eq_some_iff.mp ran
      · exact Nat.le_of_succ_le (induction rest)
      · cases result
      · exact Nat.le_of_eq (Except.ok.inj result)
      · cases result

/-- A repetition that needs one match fails with its first round. -/
theorem many1_of_failed (start : body before = some inner) (failed : inner.verdict = .failed) :
    body.many1 before = some (inner.session.restore before.checkpoint Session.failed) := by
  have repeated : body.repeat before = some ⟨.ok 0, inner.session⟩ :=
    iterate_succ_eq_some_iff.mpr ⟨inner, start, .inr (.inr (.inl ⟨failed, rfl⟩))⟩
  exact many1_eq_some_iff.mpr ⟨_, repeated, .inl ⟨rfl, rfl⟩⟩

/-- A repetition that needs one match is like one that needs none if the first round does not
fail. -/
theorem many1_eq_many (start : body before = some inner) (unfailed : inner.verdict ≠ .failed) :
    body.many1 before = body.many before := by
  rw [many1, many]
  refine Option.map_congr fun repetition repeated => ?_
  -- After the first round there is at least one match to report.
  have counted : repetition.result ≠ .ok 0 := by
    intro result
    obtain ⟨other, again, ⟨-, -, rest⟩ | ⟨-, -, rfl⟩ | ⟨failed, -⟩ | ⟨error, -, rfl⟩⟩ :=
      iterate_succ_eq_some_iff.mp repeated
    · exact absurd (count_le_of_iterate rest result) (Nat.not_succ_le_zero 0)
    · cases result
    · cases Option.some.inj (start.symm.trans again)
      exact unfailed failed
    · cases result
  cases result : repetition.result with
  | error => rfl
  | ok total =>
      cases total with
      | zero => exact absurd result counted
      | succ => rfl

end

/-- A parser whose finished runs make the calls of an evaluation. -/
def Counted (rules : Rules) (grammar : Grammar) (parser : Parser) : Prop :=
  ∀ ⦃before : Session⦄ ⦃outcome : Outcome⦄, parser before = some outcome →
    ∃ calls, grammar.Evaluates rules before calls outcome

namespace Counted

variable {rules : Rules} {grammar : Grammar} {grammars : List Grammar}
  {body first second : Parser}

/-- Primitives make one call. -/
theorem of_primitive (primitive : grammar.Primitive) (call : String → Parser) :
    Counted rules grammar (grammar.eval call) := by
  intro before outcome ran
  refine ⟨1, .primitive primitive ?_⟩
  cases grammar with
  | peek | token | tokenExcept | eat | any | skip | endOfInput => exact ran
  | cut | trace | succeed | fail => exact ran
  | _ => exact primitive.elim

/-- No parts. -/
theorem succeed : Counted rules (.all []) .succeed := by
  intro before outcome ran
  cases Option.some.inj ran
  exact ⟨1, .allNil⟩

/-- Parts in order. -/
theorem andThen (left : first.Counted rules grammar) (right : second.Counted rules (.all grammars)) :
    (first.andThen second).Counted rules (.all (grammar :: grammars)) := by
  intro before outcome ran
  obtain ⟨middle, start, ⟨matched, rest⟩ | ⟨stopped, rfl⟩⟩ := andThen_eq_some_iff.mp ran
  · obtain ⟨calls, evaluates⟩ := left start
    obtain ⟨more, others⟩ := right rest
    exact ⟨calls + more, .allMore evaluates matched others⟩
  · obtain ⟨calls, evaluates⟩ := left start
    exact ⟨calls + 1, .allStop evaluates stopped grammars⟩

/-- No alternatives. -/
theorem fail : Counted rules (.choice []) .fail := by
  intro before outcome ran
  cases Option.some.inj ran
  exact ⟨1, .choiceNil⟩

/-- Alternatives in order. -/
theorem orElse (left : first.Counted rules grammar)
    (right : second.Counted rules (.choice grammars)) :
    (first.orElse second).Counted rules (.choice (grammar :: grammars)) := by
  intro before outcome ran
  obtain ⟨middle, start, ⟨failed, rest⟩ | ⟨stopped, rfl⟩⟩ := orElse_eq_some_iff.mp ran
  · obtain ⟨calls, evaluates⟩ := left start
    obtain ⟨more, others⟩ := right rest
    exact ⟨calls + more, .choiceMore evaluates failed others⟩
  · obtain ⟨calls, evaluates⟩ := left start
    exact ⟨calls + 1, .choiceStop evaluates stopped grammars⟩

/-- Parts in order, rolled back on failure. -/
theorem sequence (counted : body.Counted rules (.all grammars)) :
    body.backtrack.Counted rules (.sequence grammars) := by
  intro before outcome ran
  obtain ⟨inner, start, ending⟩ := Option.map_eq_some_iff.mp ran
  obtain ⟨calls, evaluates⟩ := counted start
  exact ⟨calls, .sequence evaluates (congrArg some ending)⟩

/-- Rollback on failure. -/
theorem backtrack (counted : body.Counted rules grammar) :
    body.backtrack.Counted rules (.backtrack grammar) := by
  intro before outcome ran
  obtain ⟨inner, start, ending⟩ := Option.map_eq_some_iff.mp ran
  obtain ⟨calls, evaluates⟩ := counted start
  exact ⟨calls + 1, .backtrack evaluates (congrArg some ending)⟩

/-- Optional parts. -/
theorem optional (counted : body.Counted rules grammar) :
    body.optional.Counted rules (.optional grammar) := by
  intro before outcome ran
  obtain ⟨inner, start, ending⟩ := Option.map_eq_some_iff.mp ran
  obtain ⟨calls, evaluates⟩ := counted start
  exact ⟨calls + 1, .optional evaluates (congrArg some ending)⟩

/-- Nodes. -/
theorem node (name : String) (minChildren : Nat) (actions : List Action)
    (counted : body.Counted rules grammar) :
    (Parser.node name minChildren actions body).Counted rules
      (.node name minChildren grammar actions) := by
  intro before outcome ran
  obtain ⟨inner, start, ending⟩ := Option.map_eq_some_iff.mp ran
  obtain ⟨calls, evaluates⟩ := counted start
  exact ⟨calls + 1, .node evaluates (congrArg some ending)⟩

/-- Rounds of a repetition, from any of them on. -/
theorem iterate (counted : body.Counted rules grammar) {budget count : Nat} {before : Session}
    {repetition : Repetition} {outcome : Outcome}
    (ran : iterate body budget count before = some repetition)
    (ending : (∃ total, repetition.result = .ok total ∧
        outcome = repetition.session.matched) ∨
      ∃ error, repetition.result = .error error ∧
        outcome = repetition.session.aborted error) :
    ∃ calls, (Grammar.many grammar).Evaluates rules before calls outcome := by
  induction budget generalizing count before with
  | zero => cases ran
  | succ budget induction =>
      obtain ⟨inner, start, round⟩ := iterate_succ_eq_some_iff.mp ran
      obtain ⟨calls, evaluates⟩ := counted start
      rcases round with ⟨matched, moved, rest⟩ | ⟨matched, still, rfl⟩ | ⟨failed, rfl⟩ |
        ⟨error, aborted, rfl⟩
      · obtain ⟨more, others⟩ := induction rest
        exact ⟨calls + more, .manyMore evaluates matched moved others⟩
      · refine ⟨calls + 1, .manyLast evaluates (fun _ => still) ?_⟩
        refine many_eq_some_iff.mpr ⟨_, ?_, ending⟩
        exact iterate_succ_eq_some_iff.mpr ⟨inner, rfl, .inr (.inl ⟨matched, still, rfl⟩)⟩
      · -- The last round decides alone how the repetition ends, whatever was counted before.
        have ending : outcome = inner.session.matched := by
          rcases ending with ⟨_, -, ending⟩ | ⟨_, broken, -⟩
          · exact ending
          · cases broken
        refine ⟨calls + 1, .manyLast evaluates (fun matched => nomatch failed.symm.trans matched) ?_⟩
        refine many_eq_some_iff.mpr ⟨⟨.ok 0, inner.session⟩, ?_, .inl ⟨0, rfl, ending⟩⟩
        exact iterate_succ_eq_some_iff.mpr ⟨inner, rfl, .inr (.inr (.inl ⟨failed, rfl⟩))⟩
      · refine ⟨calls + 1, .manyLast evaluates
          (fun matched => nomatch aborted.symm.trans matched) ?_⟩
        refine many_eq_some_iff.mpr ⟨_, ?_, ending⟩
        exact iterate_succ_eq_some_iff.mpr ⟨inner, rfl, .inr (.inr (.inr ⟨error, aborted, rfl⟩))⟩

/-- Repetition. -/
theorem many (counted : body.Counted rules grammar) : body.many.Counted rules (.many grammar) := by
  intro before outcome ran
  obtain ⟨repetition, repeated, ending⟩ := many_eq_some_iff.mp ran
  exact counted.iterate repeated ending

/-- Repetition with at least one match. -/
theorem many1 (counted : body.Counted rules grammar) :
    body.many1.Counted rules (.many1 grammar) := by
  intro before outcome ran
  obtain ⟨repetition, repeated, -⟩ := many1_eq_some_iff.mp ran
  obtain ⟨inner, start, -⟩ := iterate_succ_eq_some_iff.mp repeated
  obtain ⟨calls, evaluates⟩ := counted start
  by_cases failed : inner.verdict = .failed
  · cases Option.some.inj (ran.symm.trans (many1_of_failed start failed))
    exact ⟨calls + 1, .many1None evaluates failed⟩
  · rw [many1_eq_many start failed] at ran
    obtain ⟨more, rounds⟩ := counted.many ran
    exact ⟨more, .many1Some evaluates failed rounds⟩

end Counted

end Parser

namespace Grammar

section

variable {rules : Rules} {call : String → Parser}

mutual

/-- The parser of a grammar makes the calls of an evaluation if those of the rules do. -/
theorem eval_counted (calls : ∀ name, (call name).Counted rules (.rule name)) :
    (grammar : Grammar) → grammar.Combinator → (grammar.eval call).Counted rules grammar
  | .peek _, _ | .token _, _ | .tokenExcept _, _ | .eat _, _ | .any, _ | .skip, _
  | .endOfInput, _ | .cut _, _ | .trace _, _ | .succeed, _ | .fail, _ => by
      refine .of_primitive ?_ call
      trivial
  | .all parts, combinator => evalAll_counted_all calls parts combinator
  | .sequence parts, combinator => by
      have counted := (evalAll_counted_all calls parts combinator).sequence
      rw [← Parser.sequence_eq_backtrack_all] at counted
      exact counted
  | .choice alternatives, combinator => evalAll_counted_choice calls alternatives combinator
  | .backtrack body, combinator => (eval_counted calls body combinator).backtrack
  | .optional body, combinator => (eval_counted calls body combinator).optional
  | .many body, combinator => (eval_counted calls body combinator).many
  | .many1 body, combinator => (eval_counted calls body combinator).many1
  | .node name minChildren body actions, combinator =>
      (eval_counted calls body combinator).node name minChildren actions
  | .rule name, _ => calls name

/-- Parts in order make the calls of an evaluation if the rules do. -/
theorem evalAll_counted_all (calls : ∀ name, (call name).Counted rules (.rule name)) :
    (grammars : List Grammar) → CombinatorAll grammars →
      (Parser.all (evalAll call grammars)).Counted rules (.all grammars)
  | [], _ => .succeed
  | grammar :: grammars, combinators =>
      (eval_counted calls grammar combinators.1).andThen
        (evalAll_counted_all calls grammars combinators.2)

/-- Alternatives make the calls of an evaluation if the rules do. -/
theorem evalAll_counted_choice (calls : ∀ name, (call name).Counted rules (.rule name)) :
    (grammars : List Grammar) → CombinatorAll grammars →
      (Parser.choice (evalAll call grammars)).Counted rules (.choice grammars)
  | [], _ => .fail
  | grammar :: grammars, combinators =>
      (eval_counted calls grammar combinators.1).orElse
        (evalAll_counted_choice calls grammars combinators.2)

end

end

variable {rules : Rules}

/-- The calls of rules make the calls of an evaluation, whatever the allowance. -/
theorem call_counted (combinators : rules.Combinator) (allowance : Nat) (name : String) :
    (call rules allowance name).Counted rules (.rule name) := by
  induction allowance generalizing name with
  | zero => exact fun _ _ ran => nomatch ran
  | succ allowance induction =>
      intro before outcome ran
      rw [call_succ] at ran
      cases found : rules.lookup name with
      | none =>
          rw [found] at ran
          cases Option.some.inj ran
          exact ⟨1, .noRule found⟩
      | some body =>
          rw [found] at ran
          obtain ⟨calls, evaluates⟩ :=
            eval_counted induction body (combinators.of_lookup found) ran
          exact ⟨calls + 1, .rule found evaluates⟩

/-- A finished run makes the calls of an evaluation. -/
theorem exists_evaluates_of_run (combinators : rules.Combinator) {grammar : Grammar}
    (combinator : grammar.Combinator) {allowance : Nat} {before : Session} {outcome : Outcome}
    (ran : grammar.run rules allowance before = some outcome) :
    ∃ calls, grammar.Evaluates rules before calls outcome :=
  eval_counted (call_counted combinators allowance) grammar combinator ran

end Grammar

end TokenGrammar
