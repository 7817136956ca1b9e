import TokenGrammar.Proofs.Grammar.Allowance
import TokenGrammar.Proofs.Grammar.Faithfulness

/-! # Runs are adequate to the meaning of a grammar

What a grammar makes of the tokens is what its runs do, in both directions: a run that finishes has
a reading that describes its outcome, and where there is a reading a run finishes.

* `Session.At`: a session at a place among tokens.
* `Grammar.Finishes`: enough allowance for a grammar at a place among tokens.
* `Grammar.Reads.finishes`: where a grammar makes something of the tokens there is enough allowance.
* `Grammar.run_adequate`: the runs of a grammar are what the grammar means. -/

namespace TokenGrammar

/-- A session at a place among tokens, without a mark of a cut. -/
structure Session.At (session : Session) (tokens : List Token) (start : Nat) : Prop where
  /-- Its tokens. -/
  tokens : session.state.tokens = tokens
  /-- Its place. -/
  cursor : session.state.cursor = start
  /-- No cut was made. -/
  uncut : session.state.cut = none

namespace Session.At

variable {session after : Session} {tokens : List Token} {start : Nat}

/-- Further on. -/
theorem further (place : session.At tokens start) {stop : Nat} {elements : List Element}
    (state : after.state = session.state.further stop elements) : after.At tokens stop := by
  constructor
  · rw [state]
    exact place.tokens
  · rw [state]
    rfl
  · rw [state]
    exact place.uncut

/-- In the same state. -/
theorem of_state_eq (place : session.At tokens start) (same : after.state = session.state) :
    after.At tokens start := by
  constructor
  · rw [same]
    exact place.tokens
  · rw [same]
    exact place.cursor
  · rw [same]
    exact place.uncut

end Session.At

namespace Parser

variable {first second body : Parser} {before : Session}

/-- Parts in order finish if the first does, and the second where it is run. -/
theorem isSome_andThen {middle : Outcome} (start : first before = some middle)
    (rest : middle.verdict = .matched → (second middle.session).isSome) :
    (first.andThen second before).isSome := by
  rw [andThen, start, Option.bind_some]
  cases verdict : middle.verdict with
  | matched => exact rest verdict
  | failed | aborted => rfl

/-- Alternatives finish if the first does, and the second where it is run. -/
theorem isSome_orElse {middle : Outcome} (start : first before = some middle)
    (rest : middle.verdict = .failed → (second middle.session).isSome) :
    (first.orElse second before).isSome := by
  rw [orElse, start, Option.bind_some]
  cases verdict : middle.verdict with
  | failed => exact rest verdict
  | matched | aborted => rfl

/-- A rollback changes no finish. -/
@[simp] theorem isSome_backtrack : (body.backtrack before).isSome = (body before).isSome :=
  Option.isSome_map

/-- An optional part finishes as the part does. -/
@[simp] theorem isSome_optional : (body.optional before).isSome = (body before).isSome :=
  Option.isSome_map

/-- A node rule finishes as its body does. -/
@[simp] theorem isSome_node {name : String} {minChildren : Nat} {actions : List Action} :
    (Parser.node name minChildren actions body before).isSome = (body before).isSome :=
  Option.isSome_map

/-- A repetition finishes as its rounds do. -/
@[simp] theorem isSome_many : (body.many before).isSome = (body.repeat before).isSome :=
  Option.isSome_map

/-- A repetition that needs one match finishes as its rounds do. -/
@[simp] theorem isSome_many1 : (body.many1 before).isSome = (body.repeat before).isSome :=
  Option.isSome_map

/-- A repetition finishes if its first round does, and the others where they are run. -/
theorem isSome_iterate {outcome : Outcome} (start : body before = some outcome)
    {budget count : Nat}
    (rest : outcome.verdict = .matched → before.state.cursor < outcome.session.state.cursor →
      (iterate body budget (count + 1) outcome.session).isSome) :
    (iterate body (budget + 1) count before).isSome := by
  rw [iterate, start, Option.bind_some]
  cases verdict : outcome.verdict with
  | matched =>
      by_cases moved : before.state.cursor < outcome.session.state.cursor
      · simp only [if_pos moved]
        exact rest verdict moved
      · simp only [if_neg moved]
        rfl
  | failed | aborted => rfl

/-- A repetition that finishes does so with more rounds to spend, whatever was counted before. -/
theorem isSome_iterate_of_le {budget larger : Nat} (le : budget ≤ larger) {count : Nat}
    (other : Nat) (finished : (iterate body budget count before).isSome) :
    (iterate body larger other before).isSome := by
  induction budget generalizing larger count other before with
  | zero => cases finished
  | succ budget induction =>
      obtain ⟨larger, rfl⟩ : ∃ less, larger = less + 1 := ⟨larger - 1, by omega⟩
      obtain ⟨repetition, ran⟩ := Option.isSome_iff_exists.mp finished
      obtain ⟨outcome, start, ending⟩ := iterate_succ_eq_some_iff.mp ran
      refine isSome_iterate start fun matched moved => ?_
      have further : (iterate body budget (count + 1) outcome.session).isSome := by
        rcases ending with ⟨-, -, rest⟩ | ⟨-, still, -⟩ | ⟨failed, -⟩ | ⟨error, aborted, -⟩
        · exact Option.isSome_iff_exists.mpr ⟨repetition, rest⟩
        · exact absurd moved still
        · cases matched.symm.trans failed
        · cases matched.symm.trans aborted
      exact induction (Nat.le_of_succ_le_succ le) (other + 1) further

end Parser

namespace Grammar

/-- Whether an allowance of nested calls is enough for the runs of a grammar from a place among
tokens. -/
def Finishes (rules : Rules) (tokens : List Token) (grammar : Grammar) (start allowance : Nat) :
    Prop :=
  ∀ ⦃before : Session⦄, before.At tokens start → (grammar.run rules allowance before).isSome

namespace Finishes

variable {rules : Rules} {tokens : List Token} {start allowance : Nat} {grammar : Grammar}
  {reading : Reading}

/-- A larger allowance is enough as well. -/
theorem mono (finishes : Finishes rules tokens grammar start allowance) (pegs : rules.Peg)
    (combinator : grammar.Combinator) {larger : Nat} (le : allowance ≤ larger) :
    Finishes rules tokens grammar start larger := by
  intro before place
  obtain ⟨outcome, ran⟩ := Option.isSome_iff_exists.mp (finishes place)
  exact Option.isSome_iff_exists.mpr ⟨outcome, run_mono pegs.combinators combinator le ran⟩

/-- One allowance is enough for two grammars. -/
theorem exists_both {other : Grammar} {further : Nat} (pegs : rules.Peg)
    (combinator : grammar.Combinator) (combinatorOther : other.Combinator)
    (finishes : ∃ allowance, Finishes rules tokens grammar start allowance)
    (finishesOther : ∃ allowance, Finishes rules tokens other further allowance) :
    ∃ allowance, Finishes rules tokens grammar start allowance ∧
      Finishes rules tokens other further allowance := by
  obtain ⟨allowance, finishes⟩ := finishes
  obtain ⟨more, finishesOther⟩ := finishesOther
  exact ⟨max allowance more, finishes.mono pegs combinator (Nat.le_max_left allowance more),
    finishesOther.mono pegs combinatorOther (Nat.le_max_right allowance more)⟩

section

variable (finishes : Finishes rules tokens grammar start allowance)
  (faithful : (grammar.run rules allowance).Faithful rules grammar)
  (reads : grammar.Reads rules tokens start reading)

include finishes faithful reads

/-- With enough allowance a run does what the grammar makes of the tokens. -/
theorem admits {before : Session} (place : before.At tokens start) :
    ∃ outcome, grammar.run rules allowance before = some outcome ∧
      reading.Admits grammar.RollsBack before.state outcome := by
  obtain ⟨outcome, ran⟩ := Option.isSome_iff_exists.mp (finishes place)
  -- The run has some reading, and there is no other than the given one.
  obtain ⟨other, others, admits⟩ := faithful.reads place.uncut ran
  rw [place.tokens, place.cursor] at others
  rw [others.unique reads] at admits
  exact ⟨outcome, ran, admits⟩

/-- Parts in order finish if the first does, and the others where it stops. -/
theorem all {parts : List Grammar}
    (others : ∀ middle elements, reading = .upTo middle elements →
      Finishes rules tokens (.all parts) middle allowance) :
    Finishes rules tokens (.all (grammar :: parts)) start allowance := by
  intro before place
  obtain ⟨outcome, ran, admits⟩ := finishes.admits faithful reads place
  rw [run_all]
  refine Parser.isSome_andThen ran fun matched => ?_
  obtain ⟨middle, elements, upTo, state⟩ := admits.of_matched matched
  have rest := others middle elements upTo (place.further state)
  rw [run_all] at rest
  exact rest

/-- Alternatives finish if the first does, and the others where it fails. -/
theorem choice {alternatives : List Grammar} (rollsBack : grammar.RollsBack)
    (others : reading = .fail → Finishes rules tokens (.choice alternatives) start allowance) :
    Finishes rules tokens (.choice (grammar :: alternatives)) start allowance := by
  intro before place
  obtain ⟨outcome, ran, admits⟩ := finishes.admits faithful reads place
  rw [run_choice]
  refine Parser.isSome_orElse ran fun failed => ?_
  -- The next alternative finds the place of the start, since this one was rolled back.
  obtain ⟨fail, -, same⟩ := admits.of_failed failed
  have still : outcome.session.At tokens start := place.of_state_eq (same rollsBack)
  have rest := others fail still
  rw [run_choice] at rest
  exact rest

/-- A repetition finishes if its first round does, and the others from further on. -/
theorem many
    (others : ∀ middle elements, reading = .upTo middle elements → start < middle →
      Finishes rules tokens (.many grammar) middle allowance) :
    Finishes rules tokens (.many grammar) start allowance := by
  intro before place
  obtain ⟨outcome, ran, admits⟩ := finishes.admits faithful reads place
  rw [run_many, Parser.isSome_many, Parser.repeat, Parser.iterationBudget, place.tokens,
    place.cursor]
  refine Parser.isSome_iterate ran fun matched moved => ?_
  obtain ⟨middle, elements, rfl, state⟩ := admits.of_matched matched
  have placeAfter : outcome.session.At tokens middle := place.further state
  rw [place.cursor, placeAfter.cursor] at moved
  have rest := others middle elements rfl moved placeAfter
  rw [run_many, Parser.isSome_many] at rest
  -- A round that moved the cursor leaves fewer tokens, and these need fewer rounds.
  have budget : Parser.iterationBudget outcome.session ≤ tokens.length - start := by
    have within : middle ≤ tokens.length := reads.ahead.2 moved
    rw [Parser.iterationBudget, placeAfter.tokens, placeAfter.cursor]
    omega
  exact Parser.isSome_iterate_of_le budget 1 rest

end

/-- A repetition that needs one match finishes as one that needs none. -/
theorem many1 (finishes : Finishes rules tokens (.many grammar) start allowance) :
    Finishes rules tokens (.many1 grammar) start allowance := by
  intro before place
  have finished := finishes place
  rw [run_many, Parser.isSome_many] at finished
  rw [run_many1, Parser.isSome_many1]
  exact finished

end Finishes

variable {rules : Rules}

/-- Where a grammar makes something of the tokens its runs finish, with enough allowance. -/
theorem Reads.finishes (pegs : rules.Peg) {tokens : List Token} {grammar : Grammar} {start : Nat}
    {reading : Reading} (reads : grammar.Reads rules tokens start reading)
    (combinator : grammar.Combinator) (tidy : grammar.Throughout Tidy) :
    ∃ allowance, Finishes rules tokens grammar start allowance := by
  induction reads with
  | peek | token | tokenExcept | eat | any | skip | endOfInput | trace | succeed | fail =>
      exact ⟨0, fun before _ => rfl⟩
  | allNil | choiceNil => exact ⟨0, fun before _ => rfl⟩
  | @allMore part parts start middle elements reading first others earlier later =>
      have combinators : (Grammar.all parts).Combinator := combinator.2
      obtain ⟨allowance, finishes, rest⟩ := Finishes.exists_both pegs combinator.1 combinators
        (earlier combinator.1 tidy.2.1) (later combinators ⟨trivial, tidy.2.2⟩)
      have faithful := run_faithful pegs combinator.1 tidy.2.1 allowance
      refine ⟨allowance, finishes.all faithful first ?_⟩
      rintro _ _ ⟨⟩
      exact rest
  | allStop first stops parts earlier =>
      obtain ⟨allowance, finishes⟩ := earlier combinator.1 tidy.2.1
      have faithful := run_faithful pegs combinator.1 tidy.2.1 allowance
      refine ⟨allowance, finishes.all faithful first ?_⟩
      rintro _ _ rfl
      exact stops.elim
  | sequence inner finishes =>
      obtain ⟨allowance, finishes⟩ := finishes combinator ⟨trivial, tidy.2⟩
      refine ⟨allowance, fun before place => ?_⟩
      have inner := finishes place
      rw [run_all] at inner
      rw [run_sequence, Parser.sequence_eq_backtrack_all, Parser.isSome_backtrack]
      exact inner
  | choiceFirst first unfailed alternatives earlier =>
      obtain ⟨allowance, finishes⟩ := earlier combinator.1 tidy.2.1
      have faithful := run_faithful pegs combinator.1 tidy.2.1 allowance
      have rollsBack := tidy.1 _ List.mem_cons_self
      exact ⟨allowance, finishes.choice faithful first rollsBack fun fail => absurd fail unfailed⟩
  | @choiceLater alternative alternatives start reading first others earlier later =>
      have combinators : (Grammar.choice alternatives).Combinator := combinator.2
      have tidyOthers : (Grammar.choice alternatives).Throughout Tidy :=
        ⟨fun other member => tidy.1 other (List.mem_cons_of_mem alternative member), tidy.2.2⟩
      obtain ⟨allowance, finishes, rest⟩ := Finishes.exists_both pegs combinator.1 combinators
        (earlier combinator.1 tidy.2.1) (later combinators tidyOthers)
      have faithful := run_faithful pegs combinator.1 tidy.2.1 allowance
      have rollsBack := tidy.1 alternative List.mem_cons_self
      exact ⟨allowance, finishes.choice faithful first rollsBack fun _ => rest⟩
  | backtrack _ finishes =>
      obtain ⟨allowance, finishes⟩ := finishes combinator tidy.2
      refine ⟨allowance, fun before place => ?_⟩
      rw [run_backtrack, Parser.isSome_backtrack]
      exact finishes place
  | optionalSome _ _ finishes | optionalNone _ finishes =>
      obtain ⟨allowance, finishes⟩ := finishes combinator tidy.2
      refine ⟨allowance, fun before place => ?_⟩
      rw [run_optional, Parser.isSome_optional]
      exact finishes place
  | node _ _ _ finishes =>
      obtain ⟨allowance, finishes⟩ := finishes combinator tidy.2
      refine ⟨allowance, fun before place => ?_⟩
      rw [run_node, Parser.isSome_node]
      exact finishes place
  | @manyEnd body _ first earlier | @manyStuck body _ _ first earlier =>
      have inner : body.Combinator := combinator
      obtain ⟨allowance, finishes⟩ := earlier inner tidy.2
      have faithful := run_faithful pegs inner tidy.2 allowance
      exact ⟨allowance, finishes.many faithful first nofun⟩
  | @manyStill body start elements first earlier =>
      have inner : body.Combinator := combinator
      obtain ⟨allowance, finishes⟩ := earlier inner tidy.2
      have faithful := run_faithful pegs inner tidy.2 allowance
      refine ⟨allowance, finishes.many faithful first ?_⟩
      rintro _ _ ⟨⟩ moved
      exact absurd moved (Nat.lt_irrefl start)
  | @manyMore body start middle elements reading first moved others earlier later =>
      have inner : body.Combinator := combinator
      obtain ⟨allowance, finishes, rest⟩ := Finishes.exists_both pegs inner combinator
        (earlier inner tidy.2) (later combinator tidy)
      have faithful := run_faithful pegs inner tidy.2 allowance
      refine ⟨allowance, finishes.many faithful first ?_⟩
      rintro _ _ ⟨⟩ -
      exact rest
  | @many1None body _ first earlier =>
      have inner : body.Combinator := combinator
      obtain ⟨allowance, finishes⟩ := earlier inner tidy.2
      have faithful := run_faithful pegs inner tidy.2 allowance
      exact ⟨allowance, (finishes.many faithful first nofun).many1⟩
  | many1Some _ _ _ _ later =>
      obtain ⟨allowance, repeats⟩ := later combinator tidy
      exact ⟨allowance, repeats.many1⟩
  | @rule name body start reading found inner finishes =>
      have peg := pegs.of_lookup found
      obtain ⟨allowance, finishes⟩ := finishes peg.combinator peg.tidy
      refine ⟨allowance + 1, fun before place => ?_⟩
      rw [run_rule, call_succ, found]
      exact finishes place
  | @noRule name missing start =>
      refine ⟨1, fun before place => ?_⟩
      rw [run_rule, call_succ, missing]
      rfl

/-- **Runs are what the grammar means.** Without a mark of a cut at the start, a grammar makes of
the tokens what its finished runs do: where it makes nothing of them a run fails and leaves the
state as it was, where it matches up to a place a run matches, moves the cursor to that place and
adds just the elements built on the way to the stack, and where it is stuck a run makes no progress
there. A run finishes, with enough allowance, just where the grammar makes something of the tokens,
and that is one thing only. -/
theorem run_adequate (pegs : rules.Peg) {grammar : Grammar} (peg : grammar.Peg) {before : Session}
    (uncut : before.state.cut = none) :
    (∀ reading, grammar.Reads rules before.state.tokens before.state.cursor reading ↔
      ∃ allowance outcome, grammar.run rules allowance before = some outcome ∧
        reading.Describes before.state outcome) ∧
      ∀ allowance outcome, grammar.run rules allowance before = some outcome →
        ∃ reading, grammar.Reads rules before.state.tokens before.state.cursor reading ∧
          reading.Describes before.state outcome ∧
          ∀ other, grammar.Reads rules before.state.tokens before.state.cursor other →
            other = reading := by
  have sound : ∀ allowance outcome, grammar.run rules allowance before = some outcome →
      ∃ reading, grammar.Reads rules before.state.tokens before.state.cursor reading ∧
        reading.Describes before.state outcome := by
    intro allowance outcome ran
    have faithful := run_faithful pegs peg.combinator peg.tidy allowance
    obtain ⟨reading, reads, admits⟩ := faithful.reads uncut ran
    exact ⟨reading, reads, admits.describes peg.rollsBack⟩
  refine ⟨fun reading => ⟨?_, ?_⟩, ?_⟩
  · intro reads
    obtain ⟨allowance, finishes⟩ := reads.finishes pegs peg.combinator peg.tidy
    have faithful := run_faithful pegs peg.combinator peg.tidy allowance
    obtain ⟨outcome, ran, admits⟩ := finishes.admits faithful reads ⟨rfl, rfl, uncut⟩
    exact ⟨allowance, outcome, ran, admits.describes peg.rollsBack⟩
  · rintro ⟨allowance, outcome, ran, describes⟩
    obtain ⟨other, reads, describesOther⟩ := sound allowance outcome ran
    rw [describes.unique describesOther]
    exact reads
  · intro allowance outcome ran
    obtain ⟨reading, reads, describes⟩ := sound allowance outcome ran
    exact ⟨reading, reads, describes, fun other others => others.unique reads⟩

/-- Lists in lists, with an element that was there before: the run ends with the tree, and the tokens
mean that tree and nothing else. -/
theorem run_adequate_nested :
    let list : Grammar := .all [.eat "(", .many (.rule "value"), .eat ")"]
    let rules : Rules := [("value", .choice [.node "list" 0 list [], .token "x"])]
    let tokens : List Token := [⟨"z", "z", 0⟩, ⟨"(", "(", 1⟩, ⟨"x", "x", 2⟩, ⟨"(", "(", 3⟩,
      ⟨"x", "x", 4⟩, ⟨")", ")", 5⟩, ⟨")", ")", 6⟩]
    let tree : Element := .node "list" [.leaf ⟨"x", "x", 2⟩, .node "list" [.leaf ⟨"x", "x", 4⟩]]
    let before : Session := .ofState ⟨tokens, 1, [.leaf ⟨"z", "z", 0⟩], none⟩
    let after : Session := .ofState ⟨tokens, 7, [.leaf ⟨"z", "z", 0⟩, tree], none⟩
    (Grammar.rule "value").run rules 4 before = some after.matched ∧
      ∀ reading, (Grammar.rule "value").Reads rules tokens 1 reading ↔
        reading = .upTo 7 [tree] := by
  intro list rules tokens tree before after
  have rollsBackRule : (Grammar.rule "value").RollsBack := .rule fun _ found => nomatch found
  have rollBack : ∀ alternative ∈ [Grammar.node "list" 0 list [], .token "x"],
      alternative.RollsBack := by
    intro alternative member
    rcases List.mem_cons.mp member with rfl | member
    · exact .node ..
    · rw [List.mem_singleton.mp member]
      exact .primitive trivial
  have tidyList : list.Throughout Tidy :=
    ⟨trivial, trivial, ⟨rollsBackRule, trivial⟩, trivial, trivial⟩
  have pegs : rules.Peg := by
    intro entry member
    rw [List.mem_singleton.mp member]
    refine ⟨?_, ⟨rollBack, ⟨rfl, tidyList⟩, trivial, trivial⟩, .choice rollBack⟩
    simp [list, Combinator, CombinatorAll]
  have peg : (Grammar.rule "value").Peg := ⟨trivial, trivial, rollsBackRule⟩
  have ran : (Grammar.rule "value").run rules 4 before = some after.matched := by decide +kernel
  obtain ⟨-, described⟩ := run_adequate pegs peg (rfl : before.state.cut = none)
  obtain ⟨found, reads, describes, only⟩ := described 4 after.matched ran
  have same : found = .upTo 7 [tree] := describes.unique ⟨rfl, rfl⟩
  rw [same] at reads only
  refine ⟨ran, fun reading => ⟨only reading, ?_⟩⟩
  rintro rfl
  exact reads

end Grammar

end TokenGrammar
