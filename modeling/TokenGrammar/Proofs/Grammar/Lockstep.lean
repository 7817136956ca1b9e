import TokenGrammar.Proofs.Grammar.Rewriting

/-! # Two runs in lockstep

A grammar is run from two states that differ in a way that no combinator notices. Said once for all
such differences: whoever names what the two runs have in common, and shows that a token consumed, a
cut and a rollback keep it, gets two runs of every grammar that end alike.

* `Lockstep`: what a relation between two runs owes.
* `Outcome.Alike`, `Repetition.Alike`: two runs with the same verdict and related states.
* `Parser.InStep`: two parsers that go the same way from related states.
* `Lockstep.congruenceWithin`: every combinator but the node keeps two runs in lockstep, and so do
  nodes that do for themselves. -/

namespace TokenGrammar

/-- A relation between two stretches of a run, each from a state to a later one, that no permitted
grammar can tell apart. The states where the stretches start are themselves related as stretches of
no length. -/
structure Lockstep (permits : Grammar → Prop)
    (Linked : ParseState → ParseState → ParseState → ParseState → Prop)
    (SameError : ParseError → ParseError → Prop) : Prop where
  /-- The cursors agree. -/
  cursor : ∀ {before before' after after' : ParseState}, Linked before before' after after' →
    after'.cursor = after.cursor
  /-- There are as many tokens. -/
  length : ∀ {before before' after after' : ParseState}, Linked before before' after after' →
    after'.tokens.length = after.tokens.length
  /-- The next tokens have the same name. -/
  peek : ∀ {before before' after after' : ParseState}, Linked before before' after after' →
    ∀ name, after'.peek name = after.peek name
  /-- New stretches can start where old ones end. -/
  rest : ∀ {before before' after after' : ParseState}, Linked before before' after after' →
    Linked after after' after after'
  /-- One stretch after another. -/
  trans : ∀ {before before' middle middle' after after' : ParseState},
    Linked before before' middle middle' → Linked middle middle' after after' →
      Linked before before' after after'
  /-- A token is kept. -/
  keep : ∀ {state state' : ParseState}, Linked state state' state state' →
    Option.Rel (Linked state state') state.keep? state'.keep?
  /-- A token is dropped. -/
  skip : ∀ {state state' : ParseState}, Linked state state' state state' →
    Option.Rel (Linked state state') state.skip? state'.skip?
  /-- A cut is made. -/
  commit : ∀ {state state' : ParseState}, Linked state state' state state' → ∀ label,
    permits (.cut label) → Linked state state' (state.commit label) (state'.commit label)
  /-- A stretch is undone. -/
  restore_ok : ∀ {before before' after after' next : ParseState},
    Linked before before' before before' → Linked before before' after after' →
      after.restore before.checkpoint = .ok next →
        ∃ next', after'.restore before'.checkpoint = .ok next' ∧ Linked before before' next next'
  /-- A stretch cannot be undone. -/
  restore_error : ∀ {before before' after after' : ParseState} {error : ParseError},
    Linked before before' before before' → Linked before before' after after' →
      after.restore before.checkpoint = .error error →
        ∃ error', after'.restore before'.checkpoint = .error error' ∧ SameError error error'
  /-- A repetition makes no progress. -/
  stalled : ∀ cursor, SameError (.noProgress cursor) (.noProgress cursor)

section

variable (Linked : ParseState → ParseState → Prop) (SameError : ParseError → ParseError → Prop)

/-- Two runs ended with the same verdict in related states. -/
inductive Outcome.Alike : Outcome → Outcome → Prop where
  /-- Both matched. -/
  | matched {after after' : Session} (linked : Linked after.state after'.state) :
      Alike after.matched after'.matched
  /-- Both failed. -/
  | failed {after after' : Session} (linked : Linked after.state after'.state) :
      Alike after.failed after'.failed
  /-- Both were given up. -/
  | aborted {after after' : Session} {error error' : ParseError} (same : SameError error error')
      (linked : Linked after.state after'.state) : Alike (after.aborted error) (after'.aborted error')

/-- Two repetitions ended with the same number of matches, or with the same error, in related
states. -/
inductive Repetition.Alike : Repetition → Repetition → Prop where
  /-- Both came to an end. -/
  | counted {after after' : Session} (count : Nat) (linked : Linked after.state after'.state) :
      Alike ⟨.ok count, after⟩ ⟨.ok count, after'⟩
  /-- Both were given up. -/
  | ended {after after' : Session} {error error' : ParseError} (same : SameError error error')
      (linked : Linked after.state after'.state) :
      Alike ⟨.error error, after⟩ ⟨.error error', after'⟩

end

section

variable {Linked Linked' : ParseState → ParseState → Prop}
  {SameError : ParseError → ParseError → Prop}

/-- What relates the states may be widened. -/
theorem Outcome.Alike.imp (widen : ∀ {after after' : ParseState}, Linked after after' →
    Linked' after after') {outcome outcome' : Outcome}
    (alike : outcome.Alike Linked SameError outcome') : outcome.Alike Linked' SameError outcome' := by
  cases alike with
  | matched linked => exact .matched (widen linked)
  | failed linked => exact .failed (widen linked)
  | aborted same linked => exact .aborted same (widen linked)

/-- What relates the states of repetitions may be widened. -/
theorem Repetition.Alike.imp (widen : ∀ {after after' : ParseState}, Linked after after' →
    Linked' after after') {repetition repetition' : Repetition}
    (alike : repetition.Alike Linked SameError repetition') :
    repetition.Alike Linked' SameError repetition' := by
  cases alike with
  | counted count linked => exact .counted count (widen linked)
  | ended same linked => exact .ended same (widen linked)

end

section

variable {α β γ δ : Type} {Related : α → β → Prop} {Related' : γ → δ → Prop}

/-- Related optional values go on to related ones if related values do. -/
theorem rel_bind {first : Option α} {first' : Option β} (related : Option.Rel Related first first')
    {next : α → Option γ} {next' : β → Option δ}
    (go : ∀ value value', Related value value' → Option.Rel Related' (next value) (next' value')) :
    Option.Rel Related' (first.bind next) (first'.bind next') := by
  cases related with
  | none => exact .none
  | some same => exact go _ _ same

/-- Related optional values are turned into related ones if related values are. -/
theorem rel_map {first : Option α} {first' : Option β} (related : Option.Rel Related first first')
    {change : α → γ} {change' : β → δ}
    (go : ∀ value value', Related value value' → Related' (change value) (change' value')) :
    Option.Rel Related' (first.map change) (first'.map change') := by
  cases related with
  | none => exact .none
  | some same => exact .some (go _ _ same)

/-- Of related optional values it is known that they are these. -/
theorem rel_attach {first : Option α} {first' : Option β}
    (related : Option.Rel Related first first') :
    Option.Rel (fun value value' => first = some value ∧ first' = some value' ∧ Related value value')
      first first' := by
  cases related with
  | none => exact .none
  | some same => exact .some ⟨rfl, rfl, same⟩

/-- The relation between optional values may be widened. -/
theorem rel_imp {Wider : α → β → Prop} {first : Option α} {first' : Option β}
    (related : Option.Rel Related first first')
    (widen : ∀ value value', Related value value' → Wider value value') :
    Option.Rel Wider first first' := by
  cases related with
  | none => exact .none
  | some same => exact .some (widen _ _ same)

end

/-- Two parsers that from related states both finish and end alike, or both do not finish. -/
def Parser.InStep (Linked : ParseState → ParseState → ParseState → ParseState → Prop)
    (SameError : ParseError → ParseError → Prop) (parser parser' : Parser) : Prop :=
  ∀ ⦃before before' : Session⦄, Linked before.state before'.state before.state before'.state →
    Option.Rel (Outcome.Alike (Linked before.state before'.state) SameError)
      (parser before) (parser' before')

namespace Lockstep

variable {permits : Grammar → Prop}
  {Linked : ParseState → ParseState → ParseState → ParseState → Prop}
  {SameError : ParseError → ParseError → Prop} {before before' after after' : Session}

section

variable (lockstep : Lockstep permits Linked SameError)
  (start : Linked before.state before'.state before.state before'.state)

include start in
/-- A test of what both states have in common. -/
theorem test {condition condition' : Bool} (same : condition' = condition) :
    (before.test condition).Alike (Linked before.state before'.state) SameError
      (before'.test condition') := by
  rw [same]
  cases condition
  · exact .failed start
  · exact .matched start

include start in
/-- A step to related states, or to none. -/
theorem step {next? next'? : Option ParseState}
    (related : Option.Rel (Linked before.state before'.state) next? next'?) :
    (before.step next?).Alike (Linked before.state before'.state) SameError
      (before'.step next'?) := by
  cases related with
  | none => exact .failed start
  | some linked => exact .matched linked

include lockstep start in
/-- Rolling back to the start is refused in both runs or in none. -/
theorem restore (linked : Linked before.state before'.state after.state after'.state) :
    (after.restore before.checkpoint Session.failed).Alike (Linked before.state before'.state)
      SameError (after'.restore before'.checkpoint Session.failed) := by
  cases restored : after.state.restore before.state.checkpoint with
  | ok next =>
      obtain ⟨next', restored', linkedNext⟩ := lockstep.restore_ok start linked restored
      have ending := Session.restore_of_ok restored Session.failed
      have ending' := Session.restore_of_ok restored' Session.failed
      rw [Session.checkpoint_eq, Session.checkpoint_eq, ending, ending']
      exact .failed linkedNext
  | error error =>
      obtain ⟨error', refused, same⟩ := lockstep.restore_error start linked restored
      have ending := Session.restore_of_error restored Session.failed
      have ending' := Session.restore_of_error refused Session.failed
      rw [Session.checkpoint_eq, Session.checkpoint_eq, ending, ending']
      exact .aborted same linked

end

section

variable (lockstep : Lockstep permits Linked SameError) {body body' : Parser}

include lockstep

/-- Primitives go the same way. -/
theorem primitive (grammar : Grammar) (primitive : grammar.Primitive) (permitted : permits grammar)
    (call call' : String → Parser) :
    Parser.InStep Linked SameError (grammar.eval call) (grammar.eval call') := by
  intro before before' start
  have peeked := lockstep.peek start
  cases grammar with
  | peek name => exact .some (test start (peeked name))
  | endOfInput =>
      have ended : before'.state.atEnd = before.state.atEnd := by
        rw [ParseState.atEnd, ParseState.atEnd, lockstep.cursor start, lockstep.length start]
      exact .some (test start ended)
  | token name =>
      refine .some (step start ?_)
      rw [peeked name]
      split
      · exact lockstep.keep start
      · exact .none
  | tokenExcept name =>
      refine .some (step start ?_)
      rw [peeked name]
      split
      · exact .none
      · exact lockstep.keep start
  | eat name =>
      refine .some (step start ?_)
      rw [peeked name]
      split
      · exact lockstep.skip start
      · exact .none
  | any => exact .some (step start (lockstep.keep start))
  | skip => exact .some (step start (lockstep.skip start))
  | cut label => exact .some (.matched (lockstep.commit start label permitted))
  | trace label => exact .some (.matched start)
  | succeed => exact .some (.matched start)
  | fail => exact .some (.failed start)
  | _ => exact primitive.elim

/-- What follows after two runs that ended alike ends alike, seen from their starts. -/
theorem goOn {second second' : Parser} (right : Parser.InStep Linked SameError second second')
    (linked : Linked before.state before'.state after.state after'.state) :
    Option.Rel (Outcome.Alike (Linked before.state before'.state) SameError)
      (second after) (second' after') :=
  rel_imp (right (lockstep.rest linked)) fun _ _ alike => alike.imp (lockstep.trans linked)

/-- Parts in order go the same way. -/
theorem andThen {first first' second second' : Parser}
    (left : Parser.InStep Linked SameError first first')
    (right : Parser.InStep Linked SameError second second') :
    Parser.InStep Linked SameError (first.andThen second) (first'.andThen second') := by
  intro before before' start
  refine rel_bind (left start) fun middle middle' alike => ?_
  cases alike with
  | matched linked => exact lockstep.goOn right linked
  | failed linked => exact .some (.failed linked)
  | aborted same linked => exact .some (.aborted same linked)

/-- Alternatives go the same way. -/
theorem orElse {first first' second second' : Parser}
    (left : Parser.InStep Linked SameError first first')
    (right : Parser.InStep Linked SameError second second') :
    Parser.InStep Linked SameError (first.orElse second) (first'.orElse second') := by
  intro before before' start
  refine rel_bind (left start) fun middle middle' alike => ?_
  cases alike with
  | matched linked => exact .some (.matched linked)
  | failed linked => exact lockstep.goOn right linked
  | aborted same linked => exact .some (.aborted same linked)

/-- Failures are rolled back alike. -/
theorem backtrack (inStep : Parser.InStep Linked SameError body body') :
    Parser.InStep Linked SameError body.backtrack body'.backtrack := by
  intro before before' start
  refine rel_map (inStep start) fun inner inner' alike => ?_
  cases alike with
  | matched linked => exact .matched linked
  | failed linked => exact lockstep.restore start linked
  | aborted same linked => exact .aborted same linked

omit lockstep in
/-- Failures are passed over alike. -/
theorem optional (inStep : Parser.InStep Linked SameError body body') :
    Parser.InStep Linked SameError body.optional body'.optional := by
  intro before before' start
  refine rel_map (inStep start) fun inner inner' alike => ?_
  cases alike with
  | matched linked => exact .matched linked
  | failed linked => exact .matched linked
  | aborted same linked => exact .aborted same linked

/-- Repetitions go through as many rounds. -/
theorem iterate (inStep : Parser.InStep Linked SameError body body') (budget count : Nat)
    (start : Linked before.state before'.state before.state before'.state) :
    Option.Rel (Repetition.Alike (Linked before.state before'.state) SameError)
      (Parser.iterate body budget count before) (Parser.iterate body' budget count before') := by
  induction budget generalizing before before' count with
  | zero => exact .none
  | succ budget induction =>
      rw [Parser.iterate, Parser.iterate]
      refine rel_bind (inStep start) fun outcome outcome' alike => ?_
      cases alike with
      | matched linked =>
          rename_i after after'
          have cursors : before'.state.cursor = before.state.cursor := lockstep.cursor start
          have moves : before'.state.cursor < after'.state.cursor ↔
              before.state.cursor < after.state.cursor := by
            rw [cursors, lockstep.cursor linked]
          change Option.Rel _ (if before.state.cursor < after.state.cursor then _ else _)
            (if before'.state.cursor < after'.state.cursor then _ else _)
          by_cases moved : before.state.cursor < after.state.cursor
          · rw [if_pos moved, if_pos (moves.mpr moved)]
            exact rel_imp (induction (count + 1) (lockstep.rest linked))
              fun _ _ alike => alike.imp (lockstep.trans linked)
          · rw [if_neg moved, if_neg (mt moves.mp moved), cursors]
            exact .some (.ended (lockstep.stalled _) linked)
      | failed linked => exact .some (.counted count linked)
      | aborted same linked => exact .some (.ended same linked)

/-- Repetitions from the same place have the same budget. -/
theorem «repeat» (inStep : Parser.InStep Linked SameError body body')
    (start : Linked before.state before'.state before.state before'.state) :
    Option.Rel (Repetition.Alike (Linked before.state before'.state) SameError)
      (body.repeat before) (body'.repeat before') := by
  have budget : Parser.iterationBudget before' = Parser.iterationBudget before := by
    rw [Parser.iterationBudget, Parser.iterationBudget, lockstep.cursor start,
      lockstep.length start]
  rw [Parser.repeat, Parser.repeat, budget]
  exact lockstep.iterate inStep _ 0 start

/-- Repetitions go the same way. -/
theorem many (inStep : Parser.InStep Linked SameError body body') :
    Parser.InStep Linked SameError body.many body'.many := by
  intro before before' start
  refine rel_map (lockstep.repeat inStep start) fun repetition repetition' alike => ?_
  cases alike with
  | counted count linked => exact .matched linked
  | ended same linked => exact .aborted same linked

/-- Repetitions that need one match go the same way. -/
theorem many1 (inStep : Parser.InStep Linked SameError body body') :
    Parser.InStep Linked SameError body.many1 body'.many1 := by
  intro before before' start
  refine rel_map (lockstep.repeat inStep start) fun repetition repetition' alike => ?_
  cases alike with
  | counted count linked =>
      cases count with
      | zero => exact lockstep.restore start linked
      | succ count => exact .matched linked
  | ended same linked => exact .aborted same linked

/-- Every permitted combinator keeps two runs in lockstep, if what stands in the place of nodes does
and cuts are left as they are. -/
theorem congruenceWithin {rewriting : Grammar.Rewriting}
    (cuts : ∀ label, rewriting.cut label = .cut label)
    (node : ∀ (name : String) (minChildren : Nat) (actions : List Action) {inner : Grammar},
      permits (.node name minChildren inner actions) →
      ∀ {body : Parser} {grammar : Grammar} {call : String → Parser},
        Parser.InStep Linked SameError body (grammar.eval call) →
        Parser.InStep Linked SameError (.node name minChildren actions body)
          ((rewriting.node name minChildren grammar actions).eval call)) :
    Parser.CongruenceWithin permits (Parser.InStep Linked SameError) rewriting where
  exhausted _ _ _ := .none
  succeed _ _ start := .some (.matched start)
  fail _ _ start := .some (.failed start)
  primitive grammar primitive permitted call call' := by
    have same : grammar.rewrite rewriting = grammar := by
      cases grammar with
      | cut label => exact cuts label
      | peek | token | tokenExcept | eat | any | skip | endOfInput => rfl
      | trace | succeed | fail => rfl
      | _ => exact primitive.elim
    rw [same]
    exact lockstep.primitive grammar primitive permitted call call'
  andThen := lockstep.andThen
  orElse := lockstep.orElse
  backtrack := lockstep.backtrack
  optional := optional
  many := lockstep.many
  many1 := lockstep.many1
  node := node

end

end Lockstep

end TokenGrammar
