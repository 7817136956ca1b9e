import TokenGrammar.Proofs.Grammar.Consumption

/-! # Repetitions that never stall

A repetition gives the parse up when its body matches without moving the cursor. Whether that can
happen is read off the grammar: where the body of every repetition must consume, no input makes it
happen.

* `Grammar.Part`, `Grammar.Occurs`: what a grammar is built from, with references to rules followed.
* `Grammar.Productive`: the body of every repetition in a grammar must consume.
* `Parser.NeverStalls`: a parser that is never given up for want of progress.
* `Grammar.run_consumes_and_progresses`: the grammars that must consume do, and productive grammars
  never stall. -/

namespace TokenGrammar

namespace Session

/-- A rollback that is refused is refused because of a cut. -/
theorem verdict_restore_failed_ne_noProgress (session : Session) (checkpoint : Checkpoint)
    (cursor : Nat) :
    (session.restore checkpoint Session.failed).verdict ≠ .aborted (.noProgress cursor) := by
  intro stalled
  cases restored : session.state.restore checkpoint with
  | ok state =>
      rw [restore_of_ok restored] at stalled
      cases stalled
  | error error =>
      obtain ⟨marker, -, -, rfl⟩ := ParseState.restore_eq_error_iff.mp restored
      rw [restore_of_error restored] at stalled
      cases stalled

end Session

namespace Parser

/-- A parser that is never given up for want of progress. -/
def NeverStalls (parser : Parser) : Prop :=
  ∀ ⦃before : Session⦄ ⦃outcome : Outcome⦄, parser before = some outcome →
    ∀ cursor, outcome.verdict ≠ .aborted (.noProgress cursor)

namespace NeverStalls

variable {first second body : Parser}

/-- Primitives are never given up. -/
theorem of_primitive (grammar : Grammar) (primitive : grammar.Primitive) (call : String → Parser) :
    NeverStalls (grammar.eval call) := by
  have tested : ∀ (session : Session) (condition : Bool) (cursor : Nat),
      (session.test condition).verdict ≠ .aborted (.noProgress cursor) := by
    intro session condition cursor
    cases condition <;> nofun
  have stepped : ∀ (session : Session) (next? : Option ParseState) (cursor : Nat),
      (session.step next?).verdict ≠ .aborted (.noProgress cursor) := by
    intro session next? cursor
    cases next? <;> nofun
  intro before outcome ran
  cases grammar with
  | peek | endOfInput =>
      cases Option.some.inj ran
      exact tested before _
  | token | tokenExcept | eat | any | skip =>
      cases Option.some.inj ran
      exact stepped before _
  | cut | trace | succeed | fail =>
      cases Option.some.inj ran
      exact nofun
  | _ => exact primitive.elim

/-- Parts in order. -/
theorem andThen (left : first.NeverStalls) (right : second.NeverStalls) :
    (first.andThen second).NeverStalls := by
  intro before outcome ran
  obtain ⟨middle, start, ⟨-, rest⟩ | ⟨-, rfl⟩⟩ := andThen_eq_some_iff.mp ran
  · exact right rest
  · exact left start

/-- Alternatives. -/
theorem orElse (left : first.NeverStalls) (right : second.NeverStalls) :
    (first.orElse second).NeverStalls := by
  intro before outcome ran
  obtain ⟨middle, start, ⟨-, rest⟩ | ⟨-, rfl⟩⟩ := orElse_eq_some_iff.mp ran
  · exact right rest
  · exact left start

/-- Any number of parts in order. -/
theorem all {parts : List Parser} (never : ∀ part ∈ parts, NeverStalls part) :
    (Parser.all parts).NeverStalls := by
  induction parts with
  | nil => exact of_primitive .succeed trivial fun _ => .fail
  | cons part parts induction =>
      exact (never part List.mem_cons_self).andThen
        (induction fun other member => never other (List.mem_cons_of_mem part member))

/-- Any number of alternatives. -/
theorem choice {alternatives : List Parser}
    (never : ∀ alternative ∈ alternatives, NeverStalls alternative) :
    (Parser.choice alternatives).NeverStalls := by
  induction alternatives with
  | nil => exact of_primitive .fail trivial fun _ => .fail
  | cons alternative alternatives induction =>
      exact (never alternative List.mem_cons_self).orElse
        (induction fun other member => never other (List.mem_cons_of_mem alternative member))

/-- Rollback on failure. -/
theorem backtrack (never : body.NeverStalls) : body.backtrack.NeverStalls := by
  intro before outcome ran
  obtain ⟨inner, start, ⟨-, rfl⟩ | ⟨-, rfl⟩⟩ := backtrack_eq_some_iff.mp ran
  · exact inner.session.verdict_restore_failed_ne_noProgress _
  · exact never start

/-- Optional parts. -/
theorem optional (never : body.NeverStalls) : body.optional.NeverStalls := by
  intro before outcome ran
  obtain ⟨inner, start, ⟨-, rfl⟩ | ⟨-, rfl⟩⟩ := optional_eq_some_iff.mp ran
  · exact nofun
  · exact never start

/-- Nodes. -/
theorem node (name : String) (minChildren : Nat) (actions : List Action)
    (never : body.NeverStalls) : (Parser.node name minChildren actions body).NeverStalls := by
  intro before outcome ran
  obtain ⟨inner, start, ⟨-, rfl⟩ | ⟨-, rfl⟩ | ⟨-, -, rfl⟩⟩ := node_eq_some_iff.mp ran
  · rcases inner.session.closeNode_cases before.checkpoint name minChildren actions with
      kept | ⟨element, replaced⟩ | undone
    · rw [kept]
      exact nofun
    · rw [replaced]
      exact nofun
    · rw [undone]
      exact inner.session.verdict_restore_failed_ne_noProgress _
  · exact inner.session.verdict_restore_failed_ne_noProgress _
  · exact never start

/-- A body that consumes moves the cursor in every round, so that no round stalls. -/
theorem iterate (never : body.NeverStalls) (consuming : body.Consuming) {budget count : Nat}
    {before : Session} {repetition : Repetition}
    (ran : Parser.iterate body budget count before = some repetition) (cursor : Nat) :
    repetition.result ≠ .error (.noProgress cursor) := by
  induction budget generalizing before count with
  | zero => cases ran
  | succ budget induction =>
      obtain ⟨outcome, start, ending⟩ := iterate_succ_eq_some_iff.mp ran
      rcases ending with ⟨-, -, rest⟩ | ⟨matched, still, -⟩ | ⟨-, rfl⟩ | ⟨error, aborted, rfl⟩
      · exact induction rest
      · exact absurd (consuming start matched) still
      · exact nofun
      · intro stalled
        cases Except.error.inj stalled
        exact never start cursor aborted

/-- Repetition of what consumes. -/
theorem many (never : body.NeverStalls) (consuming : body.Consuming) : body.many.NeverStalls := by
  intro before outcome ran cursor stalled
  obtain ⟨repetition, repeated, ⟨count, -, rfl⟩ | ⟨error, result, rfl⟩⟩ :=
    many_eq_some_iff.mp ran
  · cases stalled
  · cases stalled
    exact never.iterate consuming repeated cursor result

/-- Repetition with at least one match of what consumes. -/
theorem many1 (never : body.NeverStalls) (consuming : body.Consuming) :
    body.many1.NeverStalls := by
  intro before outcome ran cursor stalled
  obtain ⟨repetition, repeated, ⟨-, rfl⟩ | ⟨count, -, rfl⟩ | ⟨error, result, rfl⟩⟩ :=
    many1_eq_some_iff.mp ran
  · exact repetition.session.verdict_restore_failed_ne_noProgress _ cursor stalled
  · cases stalled
  · cases stalled
    exact never.iterate consuming repeated cursor result

end NeverStalls

end Parser

namespace Grammar

/-- What a grammar is built from in one step; a reference is built from the body of its rule. -/
inductive Part (rules : Rules) : Grammar → Grammar → Prop where
  | all {part : Grammar} {parts : List Grammar} (member : part ∈ parts) :
      Part rules part (.all parts)
  | sequence {part : Grammar} {parts : List Grammar} (member : part ∈ parts) :
      Part rules part (.sequence parts)
  | choice {alternative : Grammar} {alternatives : List Grammar}
      (member : alternative ∈ alternatives) : Part rules alternative (.choice alternatives)
  | backtrack (body : Grammar) : Part rules body (.backtrack body)
  | optional (body : Grammar) : Part rules body (.optional body)
  | many (body : Grammar) : Part rules body (.many body)
  | many1 (body : Grammar) : Part rules body (.many1 body)
  | node (name : String) (minChildren : Nat) (body : Grammar) (actions : List Action) :
      Part rules body (.node name minChildren body actions)
  | rule {name : String} {body : Grammar} (found : rules.lookup name = some body) :
      Part rules body (.rule name)

/-- Whether a grammar occurs in another one, directly or in a rule that is referred to. -/
inductive Occurs (rules : Rules) (inner : Grammar) : Grammar → Prop where
  | self : Occurs rules inner inner
  | inside {part whole : Grammar} (occurs : Occurs rules inner part)
      (isPart : part.Part rules whole) : Occurs rules inner whole

/-- Whether a grammar, if it is a repetition, has a body that must consume. -/
def RoundsConsume (rules : Rules) : Grammar → Prop
  | .many body => body.MustConsume rules
  | .many1 body => body.MustConsume rules
  | _ => True

/-- Whether every repetition in a grammar, and in the rules that it refers to, has a body that must
consume. -/
def Productive (rules : Rules) (grammar : Grammar) : Prop :=
  ∀ ⦃inner : Grammar⦄, inner.Occurs rules grammar → inner.RoundsConsume rules

section

variable {rules : Rules} {allowance : Nat} {part whole grammar : Grammar}

/-- What a productive grammar is built from is productive. -/
theorem Productive.descend (productive : whole.Productive rules) (isPart : part.Part rules whole) :
    part.Productive rules :=
  fun _ occurs => productive (.inside occurs isPart)

/-- What holds throughout a list holds throughout its members. -/
theorem ThroughoutAll.of_mem {permits : Grammar → Prop} {grammars : List Grammar}
    (permitted : ThroughoutAll permits grammars) (member : grammar ∈ grammars) :
    grammar.Throughout permits := by
  induction grammars with
  | nil => cases member
  | cons first grammars induction =>
      rcases List.mem_cons.mp member with rfl | later
      · exact permitted.1
      · exact induction permitted.2 later

/-- What holds throughout a grammar and all rules holds throughout what the grammar is built
from. -/
theorem Throughout.descend {permits : Grammar → Prop} (permittedRules : rules.Throughout permits)
    (permitted : whole.Throughout permits) (isPart : part.Part rules whole) :
    part.Throughout permits := by
  cases isPart with
  | all member | sequence member | choice member => exact permitted.2.of_mem member
  | backtrack | optional | many | many1 | node => exact permitted.2
  | rule found => exact permittedRules.of_lookup found

/-- What holds throughout a grammar holds of it. -/
theorem Throughout.self {permits : Grammar → Prop} (permitted : grammar.Throughout permits) :
    permits grammar := by
  cases grammar with
  | all | sequence | choice | backtrack | optional | many | many1 | node => exact permitted.1
  | _ => exact permitted

/-- Where repetitions consume throughout a grammar and all rules, the grammar is productive. -/
theorem Productive.of_throughout (consumeRules : rules.Throughout (RoundsConsume rules))
    (consume : grammar.Throughout (RoundsConsume rules)) : grammar.Productive rules := by
  intro inner occurs
  induction occurs with
  | self => exact consume.self
  | inside _ isPart induction => exact induction (consume.descend consumeRules isPart)

mutual

/-- A productive grammar never stalls where productive rules do not. -/
theorem run_neverStalls_of_calls (combinators : rules.Combinator)
    (calls : ∀ name, Productive rules (.rule name) → (call rules allowance name).NeverStalls) :
    (grammar : Grammar) → grammar.Combinator → grammar.Productive rules →
      (grammar.run rules allowance).NeverStalls
  | .peek _, _, _ | .token _, _, _ | .tokenExcept _, _, _ | .eat _, _, _ | .any, _, _ | .skip, _, _
  | .endOfInput, _, _ | .cut _, _, _ | .trace _, _, _ | .succeed, _, _ | .fail, _, _ => by
      refine .of_primitive _ ?_ (call rules allowance)
      trivial
  | .all parts, combinator, productive => by
      rw [run_all]
      exact .all (runEach_neverStalls combinators calls parts combinator fun _ member =>
        productive.descend (.all member))
  | .sequence parts, combinator, productive => by
      rw [run_sequence, Parser.sequence_eq_backtrack_all]
      apply Parser.NeverStalls.backtrack
      exact .all (runEach_neverStalls combinators calls parts combinator fun _ member =>
        productive.descend (.sequence member))
  | .choice alternatives, combinator, productive => by
      rw [run_choice]
      exact .choice (runEach_neverStalls combinators calls alternatives combinator fun _ member =>
        productive.descend (.choice member))
  | .backtrack body, combinator, productive =>
      (run_neverStalls_of_calls combinators calls body combinator
        (productive.descend (.backtrack body))).backtrack
  | .optional body, combinator, productive =>
      (run_neverStalls_of_calls combinators calls body combinator
        (productive.descend (.optional body))).optional
  | .many body, combinator, productive => by
      have inner : body.Combinator := combinator
      have consumes : body.MustConsume rules := productive .self
      exact (run_neverStalls_of_calls combinators calls body inner
        (productive.descend (.many body))).many (consumes.consuming combinators inner allowance)
  | .many1 body, combinator, productive => by
      have inner : body.Combinator := combinator
      have consumes : body.MustConsume rules := productive .self
      exact (run_neverStalls_of_calls combinators calls body inner
        (productive.descend (.many1 body))).many1 (consumes.consuming combinators inner allowance)
  | .node name minChildren body actions, combinator, productive =>
      (run_neverStalls_of_calls combinators calls body combinator
        (productive.descend (.node name minChildren body actions))).node name minChildren actions
  | .rule name, _, productive => calls name productive

/-- Of productive grammars each never stalls where productive rules do not. -/
theorem runEach_neverStalls (combinators : rules.Combinator)
    (calls : ∀ name, Productive rules (.rule name) → (call rules allowance name).NeverStalls) :
    (grammars : List Grammar) → CombinatorAll grammars →
      (∀ grammar ∈ grammars, grammar.Productive rules) →
        ∀ parser ∈ grammars.map (run rules allowance), parser.NeverStalls
  | [], _, _ => nofun
  | grammar :: grammars, combinator, productive => by
      intro parser member
      rcases List.mem_cons.mp member with rfl | later
      · exact run_neverStalls_of_calls combinators calls grammar combinator.1
          (productive grammar List.mem_cons_self)
      · exact runEach_neverStalls combinators calls grammars combinator.2
          (fun other among => productive other (List.mem_cons_of_mem grammar among)) parser later

end

/-- The calls of productive rules never stall, whatever the allowance. -/
theorem call_neverStalls (combinators : rules.Combinator) (allowance : Nat) (name : String)
    (productive : Productive rules (.rule name)) :
    (call rules allowance name).NeverStalls := by
  induction allowance generalizing name with
  | zero => exact fun _ _ ran => nomatch ran
  | succ allowance induction =>
      rw [call_succ]
      cases found : rules.lookup name with
      | none => exact .of_primitive .fail trivial (call rules allowance)
      | some body =>
          exact run_neverStalls_of_calls combinators induction body (combinators.of_lookup found)
            (productive.descend (.rule found))

/-- **Consumption is read off the form, and productive grammars never stall.** A grammar that must
consume, by its form, ends further on whenever it matches. A grammar whose repetitions all have a
body that must consume, those in the rules that it refers to included, is not given up for want of
progress, from whatever state it is run. -/
theorem run_consumes_and_progresses (combinators : rules.Combinator)
    (combinator : grammar.Combinator) {before : Session} {outcome : Outcome}
    (ran : grammar.run rules allowance before = some outcome) :
    (grammar.MustConsume rules → outcome.verdict = .matched →
        before.state.cursor < outcome.session.state.cursor) ∧
      (grammar.Productive rules → ∀ cursor, outcome.verdict ≠ .aborted (.noProgress cursor)) := by
  constructor
  · intro consumes matched
    exact consumes.consuming combinators combinator allowance ran matched
  · intro productive
    have calls := call_neverStalls combinators allowance
    exact run_neverStalls_of_calls combinators calls grammar combinator productive ran

/-- Values that are lists of values: what is repeated refers back to the list, and each round of it
takes a bracket or a letter. A list that is not closed ends the repetition without stalling it. -/
theorem run_consumes_and_progresses_lists :
    let list : Grammar := .all [.eat "[", .many (.rule "value"), .eat "]"]
    let rules : Rules := [("value", .choice [.node "list" 0 list [], .token "x"])]
    let grammar : Grammar := .many1 (.rule "value")
    let tokens : List Token :=
      [⟨"[", "[", 0⟩, ⟨"x", "x", 1⟩, ⟨"]", "]", 2⟩, ⟨"[", "[", 3⟩, ⟨"x", "x", 4⟩]
    let before : Session := .ofState (.ofTokens tokens)
    ∃ outcome, grammar.run rules 3 before = some outcome ∧
      grammar.MustConsume rules ∧ grammar.Productive rules ∧
      outcome.session.state = ⟨tokens, 3, [.node "list" [.leaf ⟨"x", "x", 1⟩]], none⟩ ∧
      before.state.cursor < outcome.session.state.cursor ∧
      ∀ cursor, outcome.verdict ≠ .aborted (.noProgress cursor) := by
  intro list rules grammar tokens before
  have combinators : rules.Combinator := .single (by simp [list, Combinator, CombinatorAll])
  have combinator : grammar.Combinator := trivial
  have value : (Grammar.rule "value").MustConsume rules := by
    refine .rule rfl (.choice fun alternative member => ?_)
    rcases List.mem_cons.mp member with rfl | member
    · exact .node "list" 0 [] (.all List.mem_cons_self (.eat "["))
    · rw [List.mem_singleton.mp member]
      exact .token "x"
  have consumeRules : rules.Throughout (RoundsConsume rules) :=
    .single (by simp [list, Throughout, ThroughoutAll, RoundsConsume, value])
  have productive : grammar.Productive rules := .of_throughout consumeRules ⟨value, trivial⟩
  let last : ParseState := ⟨tokens, 3, [.node "list" [.leaf ⟨"x", "x", 1⟩]], none⟩
  have ran : grammar.run rules 3 before = some (Session.ofState last).matched := by
    decide +kernel
  obtain ⟨consumed, progressed⟩ := run_consumes_and_progresses combinators combinator ran
  exact ⟨_, ran, .many1 _, productive, rfl, consumed (.many1 _) rfl, progressed productive⟩

end

end Grammar

end TokenGrammar
