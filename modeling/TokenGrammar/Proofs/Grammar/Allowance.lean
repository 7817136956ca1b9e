import TokenGrammar.Proofs.Grammar.Rewriting

/-! # The allowance of nested calls

The allowance of nested rule calls only says whether a run comes to an end. A run that does ends in
the same way with any larger allowance.

* `Parser.Below`: a parser finishes the runs that another one finishes, and as that one does.
* `Parser.congruence_below`: every combinator hands this on.
* `Grammar.run_mono`: a larger allowance does not change a finished run. -/

namespace TokenGrammar

namespace Parser

/-- What the first parser finishes the second one finishes in the same way. -/
def Below (parser parser' : Parser) : Prop :=
  ∀ ⦃before : Session⦄ ⦃outcome : Outcome⦄, parser before = some outcome →
    parser' before = some outcome

/-- A parser finishes what it finishes. -/
theorem Below.refl (parser : Parser) : parser.Below parser :=
  fun _ _ ran => ran

/-- Primitives call no rules. -/
theorem below_primitive (grammar : Grammar) (primitive : grammar.Primitive)
    (call call' : String → Parser) :
    Below (grammar.eval call) ((grammar.rewrite .identity).eval call') := by
  intro before outcome ran
  cases grammar with
  | peek | token | tokenExcept | eat | any | skip | endOfInput => exact ran
  | cut | trace | succeed | fail => exact ran
  | _ => exact primitive.elim

/-- Parts in order. -/
theorem Below.andThen {first first' second second' : Parser} (left : first.Below first')
    (right : second.Below second') : (first.andThen second).Below (first'.andThen second') := by
  intro before outcome ran
  obtain ⟨middle, start, ⟨matched, rest⟩ | stopped⟩ := andThen_eq_some_iff.mp ran
  · exact andThen_eq_some_iff.mpr ⟨middle, left start, .inl ⟨matched, right rest⟩⟩
  · exact andThen_eq_some_iff.mpr ⟨middle, left start, .inr stopped⟩

/-- Alternatives. -/
theorem Below.orElse {first first' second second' : Parser} (left : first.Below first')
    (right : second.Below second') : (first.orElse second).Below (first'.orElse second') := by
  intro before outcome ran
  obtain ⟨middle, start, ⟨failed, rest⟩ | stopped⟩ := orElse_eq_some_iff.mp ran
  · exact orElse_eq_some_iff.mpr ⟨middle, left start, .inl ⟨failed, right rest⟩⟩
  · exact orElse_eq_some_iff.mpr ⟨middle, left start, .inr stopped⟩

/-- Rollback on failure. -/
theorem Below.backtrack {body body' : Parser} (below : body.Below body') :
    body.backtrack.Below body'.backtrack := by
  intro before outcome ran
  obtain ⟨inner, start, ending⟩ := backtrack_eq_some_iff.mp ran
  exact backtrack_eq_some_iff.mpr ⟨inner, below start, ending⟩

/-- Optional parts. -/
theorem Below.optional {body body' : Parser} (below : body.Below body') :
    body.optional.Below body'.optional := by
  intro before outcome ran
  obtain ⟨inner, start, ending⟩ := optional_eq_some_iff.mp ran
  exact optional_eq_some_iff.mpr ⟨inner, below start, ending⟩

/-- Rounds of a repetition. -/
theorem Below.iterate {body body' : Parser} (below : body.Below body') (budget count : Nat)
    {before : Session} {repetition : Repetition}
    (ran : iterate body budget count before = some repetition) :
    iterate body' budget count before = some repetition := by
  induction budget generalizing before count with
  | zero => cases ran
  | succ budget induction =>
      obtain ⟨outcome, start, ⟨matched, moved, rest⟩ | stopped⟩ := iterate_succ_eq_some_iff.mp ran
      · have further := induction (count + 1) rest
        exact iterate_succ_eq_some_iff.mpr ⟨outcome, below start, .inl ⟨matched, moved, further⟩⟩
      · exact iterate_succ_eq_some_iff.mpr ⟨outcome, below start, .inr stopped⟩

/-- Repetition. -/
theorem Below.many {body body' : Parser} (below : body.Below body') :
    body.many.Below body'.many := by
  intro before outcome ran
  obtain ⟨repetition, repeated, ending⟩ := many_eq_some_iff.mp ran
  exact many_eq_some_iff.mpr ⟨repetition, below.iterate _ _ repeated, ending⟩

/-- Repetition with at least one match. -/
theorem Below.many1 {body body' : Parser} (below : body.Below body') :
    body.many1.Below body'.many1 := by
  intro before outcome ran
  obtain ⟨repetition, repeated, ending⟩ := many1_eq_some_iff.mp ran
  exact many1_eq_some_iff.mpr ⟨repetition, below.iterate _ _ repeated, ending⟩

/-- Nodes. -/
theorem Below.node (name : String) (minChildren : Nat) (actions : List Action)
    {body body' : Parser} (below : body.Below body') :
    (Parser.node name minChildren actions body).Below (.node name minChildren actions body') := by
  intro before outcome ran
  obtain ⟨inner, start, ending⟩ := node_eq_some_iff.mp ran
  exact node_eq_some_iff.mpr ⟨inner, below start, ending⟩

/-- Every combinator finishes what it finishes with parts that finish less. -/
theorem congruence_below : Congruence Below .identity where
  exhausted := .refl _
  primitive := below_primitive
  andThen := Below.andThen
  orElse := Below.orElse
  backtrack := Below.backtrack
  optional := Below.optional
  many := Below.many
  many1 := Below.many1
  node name minChildren actions _ _ _ := Below.node name minChildren actions

end Parser

namespace Grammar

variable {rules : Rules} {allowance : Nat}

/-- Parsers of rules that finish more make the parser of a grammar that finishes more. -/
theorem eval_below {call call' : String → Parser} (calls : ∀ name, (call name).Below (call' name))
    {grammar : Grammar} (combinator : grammar.Combinator) :
    (grammar.eval call).Below (grammar.eval call') := by
  have always : grammar.Throughout fun _ => True := throughout_of_forall (fun _ => trivial) grammar
  have below := eval_related (Parser.congruence_below.within fun _ => True) calls grammar combinator
    always
  rwa [rewrite_identity] at below

/-- One more nested call does not change a finished call. -/
theorem call_below_succ (combinators : rules.Combinator) (allowance : Nat) (name : String) :
    (call rules allowance name).Below (call rules (allowance + 1) name) := by
  induction allowance generalizing name with
  | zero => exact fun _ _ ran => nomatch ran
  | succ allowance induction =>
      rw [call_succ, call_succ]
      cases found : rules.lookup name with
      | none => exact .refl _
      | some body => exact eval_below induction (combinators.of_lookup found)

/-- A larger allowance does not change a finished run. -/
theorem run_mono (combinators : rules.Combinator) {grammar : Grammar}
    (combinator : grammar.Combinator) {larger : Nat} (le : allowance ≤ larger) {before : Session}
    {outcome : Outcome} (ran : grammar.run rules allowance before = some outcome) :
    grammar.run rules larger before = some outcome := by
  induction le with
  | refl => exact ran
  | @step larger le induction =>
      exact eval_below (call_below_succ combinators larger) combinator induction

end Grammar

end TokenGrammar
