import TokenGrammar.Proofs.Grammar.Advance

/-! # The leaves of the forest are the tokens

Tokens go on the stack one by one, rollbacks take them off again, and nodes gather them up. Whatever
the outcome of a run, the elements that it leaves on the stack have as their leaves tokens that the
cursor has passed, each of them once at most and in their order. Only `eat` and `skip` leave out
any.

* `Grammar.Actionless`, `Grammar.Dropless`: grammars that build nodes without actions, and grammars
  that keep every token.
* `Kept`: how the leaves may differ from the tokens passed.
* `ParseState.Gathers`: what the elements built from one state to a later one have as leaves.
* `Parser.Gathering`: a parser that builds elements so.
* `Grammar.run_leaves`: every grammar without actions does. -/

namespace TokenGrammar

open Element (forestLeaves)

namespace Grammar

/-- Whether a grammar does not itself run an action. -/
def Actionless : Grammar → Prop
  | .node _ _ _ actions => actions = []
  | _ => True

/-- Whether a grammar does not itself drop a token. -/
def Dropless : Grammar → Prop
  | .eat _ | .skip => False
  | _ => True

/-- Whether a grammar does not itself run an action and, if it must not, drop a token. -/
def Gatherable (dropless : Prop) (grammar : Grammar) : Prop :=
  grammar.Actionless ∧ (dropless → grammar.Dropless)

end Grammar

/-- How the leaves of what was built may differ from the tokens passed: some tokens may have been
dropped, unless none must be. -/
structure Kept (dropless : Prop) (leaves passed : List Token) : Prop where
  /-- The leaves are tokens passed, in their order. -/
  sublist : leaves.Sublist passed
  /-- The leaves are the tokens passed, if none must be dropped. -/
  eq : dropless → leaves = passed

namespace Kept

variable {dropless : Prop} {leaves leaves' passed passed' : List Token}

/-- Nothing was passed. -/
theorem nil : Kept dropless [] [] :=
  ⟨.slnil, fun _ => rfl⟩

/-- A token was kept. -/
theorem single (token : Token) : Kept dropless [token] [token] :=
  ⟨.refl _, fun _ => rfl⟩

/-- A token was dropped. -/
theorem dropped (drops : ¬ dropless) (token : Token) : Kept dropless [] [token] :=
  ⟨List.nil_sublist _, fun must => absurd must drops⟩

/-- One stretch of tokens after another. -/
theorem append (first : Kept dropless leaves passed) (second : Kept dropless leaves' passed') :
    Kept dropless (leaves ++ leaves') (passed ++ passed') where
  sublist := first.sublist.append second.sublist
  eq must := by rw [first.eq must, second.eq must]

end Kept

/-- The tokens between two places are those up to a place between them and those from there on. -/
theorem extract_append_extract (tokens : List Token) {start middle stop : Nat}
    (first : start ≤ middle) (second : middle ≤ stop) :
    tokens.extract start middle ++ tokens.extract middle stop = tokens.extract start stop := by
  have length : stop - start = (middle - start) + (stop - middle) := by omega
  have place : start + (middle - start) = middle := by omega
  simp only [List.extract_eq_take_drop]
  rw [length, List.take_add, List.drop_drop, place]

/-- Between a place and the next one is the token there. -/
theorem extract_succ {tokens : List Token} {place : Nat} {token : Token}
    (found : tokens[place]? = some token) : tokens.extract place (place + 1) = [token] := by
  obtain ⟨within, rfl⟩ := List.getElem?_eq_some_iff.mp found
  have length : place + 1 - place = 1 := by omega
  rw [List.extract_eq_take_drop, length, List.drop_eq_getElem_cons within]
  rfl

/-- The elements built from one state to a later one have the tokens passed as their leaves, but for
those that may be dropped. -/
def ParseState.Gathers (dropless : Prop) (before after : ParseState) : Prop :=
  ∃ built, after.stack = before.stack ++ built ∧
    Kept dropless (forestLeaves built) (before.tokens.extract before.cursor after.cursor)

namespace ParseState.Gathers

variable {dropless : Prop} {before middle after : Session} {events later : List Event}

/-- Nothing was built. -/
theorem refl (state : ParseState) : state.Gathers dropless state := by
  refine ⟨[], (List.append_nil _).symm, ?_⟩
  have none : state.tokens.extract state.cursor state.cursor = [] := by simp
  rw [none]
  exact .nil

/-- What was built later stands above what was built before. -/
theorem trans (left : before.Advances events middle) (right : middle.Advances later after)
    (first : before.state.Gathers dropless middle.state)
    (second : middle.state.Gathers dropless after.state) :
    before.state.Gathers dropless after.state := by
  obtain ⟨built, stack, kept⟩ := first
  obtain ⟨more, stackAfter, keptAfter⟩ := second
  refine ⟨built ++ more, ?_, ?_⟩
  · rw [stackAfter, stack, List.append_assoc]
  · rw [left.tokens] at keptAfter
    rw [Element.forestLeaves_append,
      ← extract_append_extract before.state.tokens left.cursor_le right.cursor_le]
    exact kept.append keptAfter

/-- A token was kept. -/
theorem of_keep? {state next : ParseState} (kept : state.keep? = some next) :
    state.Gathers dropless next := by
  rw [keep?, Option.map_eq_some_iff] at kept
  obtain ⟨token, current, rfl⟩ := kept
  have passed : state.tokens.extract state.cursor (state.cursor + 1) = [token] :=
    extract_succ current
  refine ⟨[.leaf token], rfl, ?_⟩
  change Kept dropless [token] (state.tokens.extract state.cursor (state.cursor + 1))
  rw [passed]
  exact .single token

/-- A token was dropped. -/
theorem of_skip? (drops : ¬ dropless) {state next : ParseState}
    (skipped : state.skip? = some next) : state.Gathers dropless next := by
  rw [skip?] at skipped
  split at skipped
  · rename_i within
    cases skipped
    have passed : state.tokens.extract state.cursor (state.cursor + 1) =
        [state.tokens[state.cursor]] := extract_succ (List.getElem?_eq_getElem within)
    refine ⟨[], (List.append_nil _).symm, ?_⟩
    change Kept dropless [] (state.tokens.extract state.cursor (state.cursor + 1))
    rw [passed]
    exact .dropped drops _
  · cases skipped

/-- A rollback takes off all that was built, and one that is refused takes off nothing. -/
theorem restore (advances : before.Advances events after)
    (gathers : before.state.Gathers dropless after.state) :
    before.state.Gathers dropless
      (after.restore before.checkpoint Session.failed).session.state := by
  rcases advances.restore with ⟨-, restored⟩ | ⟨error, -, refused⟩
  · rw [restored]
    exact .refl before.state
  · rw [refused]
    exact gathers

/-- A node has as its leaves those of its children. -/
theorem closeNode (gathers : before.state.Gathers dropless after.state) (name : String)
    (minChildren : Nat) :
    before.state.Gathers dropless
      (after.closeNode before.checkpoint name minChildren []).session.state := by
  by_cases few : after.state.pushedSince before.checkpoint ≤ minChildren
  · rw [Session.closeNode_of_few few]
    exact gathers
  · rw [Session.closeNode_of_actionless few]
    obtain ⟨built, stack, kept⟩ := gathers
    refine ⟨[.node name built], ?_, ?_⟩
    · simp [Session.matched, takeNode, push, checkpoint, stack, Node.toElement]
    · rw [Element.forestLeaves_cons, Element.leaves_node, Element.forestLeaves_nil,
        List.append_nil]
      exact kept

end ParseState.Gathers

namespace Parser

/-- A parser that moves forward at most, and builds elements whose leaves are the tokens it passes,
but for those that may be dropped. -/
structure Gathering (dropless : Prop) (parser : Parser) : Prop where
  /-- It moves forward at most. -/
  advancing : parser.Advancing
  /-- The leaves are tokens passed. -/
  gathers : ∀ ⦃before : Session⦄ ⦃outcome : Outcome⦄, parser before = some outcome →
    before.state.Gathers dropless outcome.session.state

variable {dropless : Prop}

/-- Primitives build a leaf at most. -/
theorem gathering_primitive (grammar : Grammar) (primitive : grammar.Primitive)
    (gatherable : grammar.Gatherable dropless) (call : String → Parser) :
    Gathering dropless (grammar.eval call) := by
  have tested : ∀ (before : Session) (condition : Bool),
      before.state.Gathers dropless (before.test condition).session.state := by
    intro before condition
    cases condition <;> exact .refl before.state
  have stepped : ∀ (before : Session) (next? : Option ParseState),
      (∀ next, next? = some next → before.state.Gathers dropless next) →
        before.state.Gathers dropless (before.step next?).session.state := by
    intro before next? gathers
    cases next? with
    | none => exact .refl before.state
    | some next => exact gathers next rfl
  refine ⟨advancing_primitive grammar primitive call, ?_⟩
  intro before outcome ran
  cases grammar with
  | peek | endOfInput =>
      cases Option.some.inj ran
      exact tested before _
  | token name =>
      cases Option.some.inj ran
      refine stepped before _ fun next kept => ?_
      split at kept
      · exact .of_keep? kept
      · cases kept
  | tokenExcept name =>
      cases Option.some.inj ran
      refine stepped before _ fun next kept => ?_
      split at kept
      · cases kept
      · exact .of_keep? kept
  | any =>
      cases Option.some.inj ran
      exact stepped before _ fun _ kept => .of_keep? kept
  | eat name =>
      cases Option.some.inj ran
      refine stepped before _ fun next skipped => ?_
      split at skipped
      · exact .of_skip? gatherable.2 skipped
      · cases skipped
  | skip =>
      cases Option.some.inj ran
      exact stepped before _ fun _ skipped => .of_skip? gatherable.2 skipped
  | cut | trace | succeed | fail =>
      cases Option.some.inj ran
      exact .refl before.state
  | _ => exact primitive.elim

/-- What is built after a parser that has matched or failed stands above what it built. -/
theorem Gathering.after {first second : Parser} (left : first.Gathering dropless)
    (right : second.Gathering dropless) {before : Session} {middle outcome : Outcome}
    (start : first before = some middle) (rest : second middle.session = some outcome) :
    before.state.Gathers dropless outcome.session.state := by
  obtain ⟨events, follows⟩ := left.advancing start
  obtain ⟨later, followsAfter⟩ := right.advancing rest
  exact (left.gathers start).trans follows.advances followsAfter.advances (right.gathers rest)

/-- Parts in order gather what each of them gathers. -/
theorem Gathering.andThen {first second : Parser} (left : first.Gathering dropless)
    (right : second.Gathering dropless) : (first.andThen second).Gathering dropless := by
  refine ⟨left.advancing.andThen right.advancing, ?_⟩
  intro before outcome ran
  obtain ⟨middle, start, ⟨-, rest⟩ | ⟨-, rfl⟩⟩ := andThen_eq_some_iff.mp ran
  · exact left.after right start rest
  · exact left.gathers start

/-- Alternatives gather what each of them gathers, also those that fail. -/
theorem Gathering.orElse {first second : Parser} (left : first.Gathering dropless)
    (right : second.Gathering dropless) : (first.orElse second).Gathering dropless := by
  refine ⟨left.advancing.orElse right.advancing, ?_⟩
  intro before outcome ran
  obtain ⟨middle, start, ⟨-, rest⟩ | ⟨-, rfl⟩⟩ := orElse_eq_some_iff.mp ran
  · exact left.after right start rest
  · exact left.gathers start

/-- A rollback gathers nothing. -/
theorem Gathering.backtrack {body : Parser} (gathering : body.Gathering dropless) :
    body.backtrack.Gathering dropless := by
  refine ⟨gathering.advancing.backtrack, ?_⟩
  intro before outcome ran
  obtain ⟨inner, start, ⟨-, rfl⟩ | ⟨-, rfl⟩⟩ := backtrack_eq_some_iff.mp ran
  · obtain ⟨events, follows⟩ := gathering.advancing start
    exact (gathering.gathers start).restore follows.advances
  · exact gathering.gathers start

/-- An optional part gathers what the part does, also where it fails. -/
theorem Gathering.optional {body : Parser} (gathering : body.Gathering dropless) :
    body.optional.Gathering dropless := by
  refine ⟨gathering.advancing.optional, ?_⟩
  intro before outcome ran
  obtain ⟨inner, start, ending⟩ := optional_eq_some_iff.mp ran
  have gathers := gathering.gathers start
  rcases ending with ⟨-, rfl⟩ | ⟨-, rfl⟩
  · exact gathers
  · exact gathers

/-- A repetition gathers what each round does, also the last one, which fails. -/
theorem Gathering.iterate {body : Parser} (gathering : body.Gathering dropless)
    (budget count : Nat) {before : Session} {repetition : Repetition}
    (ran : iterate body budget count before = some repetition) :
    before.state.Gathers dropless repetition.session.state := by
  induction budget generalizing before count with
  | zero => cases ran
  | succ budget induction =>
      obtain ⟨outcome, start, ending⟩ := iterate_succ_eq_some_iff.mp ran
      have first := gathering.gathers start
      rcases ending with ⟨-, -, rest⟩ | ⟨-, -, rfl⟩ | ⟨-, rfl⟩ | ⟨error, -, rfl⟩
      · obtain ⟨events, follows⟩ := gathering.advancing start
        obtain ⟨later, advances, -⟩ := gathering.advancing.iterate _ _ rest
        exact first.trans follows.advances advances (induction (count + 1) rest)
      · exact first
      · exact first
      · exact first

/-- A repetition gathers what its rounds do. -/
theorem Gathering.many {body : Parser} (gathering : body.Gathering dropless) :
    body.many.Gathering dropless := by
  refine ⟨gathering.advancing.many, ?_⟩
  intro before outcome ran
  obtain ⟨repetition, repeated, ending⟩ := many_eq_some_iff.mp ran
  have gathers := gathering.iterate _ _ repeated
  rcases ending with ⟨count, -, rfl⟩ | ⟨error, -, rfl⟩
  · exact gathers
  · exact gathers

/-- A repetition that needs one match gathers what its rounds do, or nothing. -/
theorem Gathering.many1 {body : Parser} (gathering : body.Gathering dropless) :
    body.many1.Gathering dropless := by
  refine ⟨gathering.advancing.many1, ?_⟩
  intro before outcome ran
  obtain ⟨repetition, repeated, ending⟩ := many1_eq_some_iff.mp ran
  have gathers := gathering.iterate _ _ repeated
  rcases ending with ⟨-, rfl⟩ | ⟨count, -, rfl⟩ | ⟨error, -, rfl⟩
  · obtain ⟨events, advances, -⟩ := gathering.advancing.iterate _ _ repeated
    exact gathers.restore advances
  · exact gathers
  · exact gathers

/-- A node without actions gathers what its body does, or nothing. -/
theorem Gathering.node (name : String) (minChildren : Nat) {body : Parser}
    (gathering : body.Gathering dropless) :
    (Parser.node name minChildren [] body).Gathering dropless := by
  refine ⟨gathering.advancing.node name minChildren [], ?_⟩
  intro before outcome ran
  obtain ⟨inner, start, closing⟩ := node_eq_some_iff.mp ran
  have gathers := gathering.gathers start
  rcases closing with ⟨-, rfl⟩ | ⟨-, rfl⟩ | ⟨error, -, rfl⟩
  · exact gathers.closeNode name minChildren
  · obtain ⟨events, follows⟩ := gathering.advancing start
    exact gathers.restore follows.advances
  · exact gathers

/-- Every combinator gathers what its parts gather, if its nodes have no actions. -/
theorem congruence_gathering (dropless : Prop) :
    CongruenceWithin (Grammar.Gatherable dropless) (fun parser _ => parser.Gathering dropless)
      .identity where
  exhausted := ⟨(fun _ _ ran => nomatch ran), (fun _ _ ran => nomatch ran)⟩
  succeed := gathering_primitive .succeed trivial ⟨trivial, fun _ => trivial⟩ fun _ => .fail
  fail := gathering_primitive .fail trivial ⟨trivial, fun _ => trivial⟩ fun _ => .fail
  primitive grammar primitive gatherable call _ :=
    gathering_primitive grammar primitive gatherable call
  andThen := Gathering.andThen
  orElse := Gathering.orElse
  backtrack := Gathering.backtrack
  optional := Gathering.optional
  many := Gathering.many
  many1 := Gathering.many1
  node := by
    rintro name minChildren actions inner ⟨none, -⟩ body - - gathering
    cases none
    exact gathering.node name minChildren

end Parser

namespace Grammar

/-- **The leaves of the forest are the tokens passed.** Whatever the outcome of a run without
actions, the stack holds what it held before and above it elements whose leaves, from left to right,
are some of the tokens that the cursor has passed, each of them once at most and in their order.
They are all of these tokens if no token is dropped. -/
theorem run_leaves {rules : Rules} (combinators : rules.Combinator)
    (actionlessRules : rules.Throughout Actionless) {grammar : Grammar}
    (combinator : grammar.Combinator) (actionless : grammar.Throughout Actionless)
    {allowance : Nat} {state : ParseState} (within : state.cursor ≤ state.tokens.length)
    {outcome : Outcome} (ran : grammar.run rules allowance (.ofState state) = some outcome) :
    state.cursor ≤ outcome.session.state.cursor ∧
      outcome.session.state.cursor ≤ state.tokens.length ∧
      ∃ built, outcome.session.state.stack = state.stack ++ built ∧
        (forestLeaves built).Sublist
          (state.tokens.extract state.cursor outcome.session.state.cursor) ∧
        (rules.Throughout Dropless → grammar.Throughout Dropless →
          forestLeaves built =
            state.tokens.extract state.cursor outcome.session.state.cursor) := by
  let dropless : Prop := rules.Throughout Dropless ∧ grammar.Throughout Dropless
  have permits : ∀ part : Grammar, part.Throughout Actionless →
      (dropless → part.Throughout Dropless) → part.Throughout (Gatherable dropless) := by
    intro part noActions drops
    by_cases must : dropless
    · refine Throughout.imp ?_ part noActions (drops must)
      exact fun _ actionless dropless => ⟨actionless, fun _ => dropless⟩
    · refine Throughout.imp ?_ part noActions noActions
      exact fun _ actionless _ => ⟨actionless, fun musts => absurd musts must⟩
  have permittedRules : rules.Throughout (Gatherable dropless) := fun entry member =>
    permits entry.2 (actionlessRules entry member) fun must => must.1 entry member
  have permitted : grammar.Throughout (Gatherable dropless) :=
    permits grammar actionless fun must => must.2
  have gathering : (grammar.run rules allowance).Gathering dropless :=
    run_relatedWithin (Parser.congruence_gathering dropless) combinators permittedRules combinator
      permitted allowance
  obtain ⟨events, follows⟩ := gathering.advancing ran
  obtain ⟨built, stack, kept⟩ := gathering.gathers ran
  refine ⟨follows.advances.cursor_le, follows.advances.cursor_le_length within, built, stack,
    kept.sublist, ?_⟩
  intro keepsRules keeps
  exact kept.eq ⟨keepsRules, keeps⟩

/-- A pair in a node, and a token of a second pair that did not go on and was not rolled back. -/
theorem run_leaves_half :
    let pair : Grammar := .all [.token "a", .token "b"]
    let rules : Rules := [("pair", .node "pair" 0 pair [])]
    let grammar : Grammar := .all [.rule "pair", .optional pair, .many1 (.rule "pair")]
    let tokens : List Token :=
      [⟨"z", "z", 0⟩, ⟨"a", "a", 1⟩, ⟨"b", "b", 2⟩, ⟨"a", "a", 3⟩, ⟨"c", "c", 4⟩]
    let built : List Element :=
      [.node "pair" [.leaf ⟨"a", "a", 1⟩, .leaf ⟨"b", "b", 2⟩], .leaf ⟨"a", "a", 3⟩]
    ∃ outcome,
      grammar.run rules 1 (.ofState ⟨tokens, 1, [.leaf ⟨"z", "z", 0⟩], none⟩) = some outcome ∧
        outcome.verdict = .failed ∧
        outcome.session.state = ⟨tokens, 4, .leaf ⟨"z", "z", 0⟩ :: built, none⟩ ∧
        forestLeaves built = tokens.extract 1 4 := by
  intro pair rules grammar tokens built
  have combinators : rules.Combinator := .single ⟨trivial, trivial, trivial⟩
  have combinator : grammar.Combinator := by
    simp [grammar, pair, Combinator, CombinatorAll]
  have actionlessRules : rules.Throughout Actionless :=
    .single (by simp [pair, Throughout, ThroughoutAll, Actionless])
  have actionless : grammar.Throughout Actionless := by
    simp [grammar, pair, Throughout, ThroughoutAll, Actionless]
  have keepsRules : rules.Throughout Dropless :=
    .single (by simp [pair, Throughout, ThroughoutAll, Dropless])
  have keeps : grammar.Throughout Dropless := by
    simp [grammar, pair, Throughout, ThroughoutAll, Dropless]
  let last : ParseState := ⟨tokens, 4, .leaf ⟨"z", "z", 0⟩ :: built, none⟩
  have ran : grammar.run rules 1 (.ofState ⟨tokens, 1, [.leaf ⟨"z", "z", 0⟩], none⟩) =
      some ⟨.failed, .ofState last⟩ := by decide
  have within : 1 ≤ tokens.length := by decide
  obtain ⟨-, -, others, stack, -, leaves⟩ :=
    run_leaves combinators actionlessRules combinator actionless within ran
  have same : others = built := (List.cons.inj stack).2.symm
  rw [same] at leaves
  exact ⟨_, ran, rfl, rfl, leaves keepsRules keeps⟩

end Grammar

end TokenGrammar
