import TokenGrammar.Proofs.Grammar.Outcomes

/-! # Induction over grammars

What every combinator hands on from its parts to itself holds of every grammar. Stated for two runs
at once: a grammar on one side, and on the other the grammar with its cuts and nodes replaced. Where
only some primitives and nodes hand it on, it holds of the grammars that are built from these.

* `Grammar.Primitive`: the grammars that refer to no other grammar.
* `Grammar.Rewriting`, `Grammar.rewrite`: what to put in the place of cuts and nodes.
* `Grammar.Throughout`: a condition on a grammar and everything that it is built from.
* `Parser.CongruenceWithin`: a relation between parsers that every permitted combinator hands on.
* `Parser.Congruence`: a relation between parsers that every combinator hands on.
* `Parser.Closed`: a property of parsers that every combinator hands on.
* `Grammar.run_relatedWithin`, `Grammar.run_related`, `Grammar.run_closed`: they hold of the runs of
  every grammar, as far as permitted. -/

namespace TokenGrammar

namespace Grammar

/-- Whether a grammar refers to no other grammar and is no host step. -/
def Primitive : Grammar → Prop
  | .peek _ | .token _ | .tokenExcept _ | .eat _ | .any | .skip | .endOfInput => True
  | .cut _ | .trace _ | .succeed | .fail => True
  | _ => False

/-- What to put in the place of cuts and nodes. -/
structure Rewriting where
  /-- In the place of a cut, given its label. -/
  cut : String → Grammar
  /-- In the place of a node, given its parts with the body rewritten. -/
  node : String → Nat → Grammar → List Action → Grammar

mutual

/-- A grammar with its cuts and nodes replaced. -/
def rewrite (rewriting : Rewriting) : Grammar → Grammar
  | .cut label => rewriting.cut label
  | .node name minChildren body actions =>
      rewriting.node name minChildren (rewrite rewriting body) actions
  | .all parts => .all (rewriteAll rewriting parts)
  | .sequence parts => .sequence (rewriteAll rewriting parts)
  | .choice alternatives => .choice (rewriteAll rewriting alternatives)
  | .backtrack body => .backtrack (rewrite rewriting body)
  | .optional body => .optional (rewrite rewriting body)
  | .many body => .many (rewrite rewriting body)
  | .many1 body => .many1 (rewrite rewriting body)
  | grammar => grammar

/-- A list of grammars with their cuts and nodes replaced. -/
def rewriteAll (rewriting : Rewriting) : List Grammar → List Grammar
  | [] => []
  | grammar :: grammars => rewrite rewriting grammar :: rewriteAll rewriting grammars

end

/-- Cuts and nodes left as they are. -/
def Rewriting.identity : Rewriting :=
  ⟨.cut, .node⟩

mutual

/-- Nothing is replaced. -/
theorem rewrite_identity : (grammar : Grammar) → grammar.rewrite .identity = grammar
  | .peek _ | .token _ | .tokenExcept _ | .eat _ | .any | .skip | .endOfInput | .cut _ | .trace _
  | .succeed | .fail | .rule _ | .bookmark _ | .rewind _ | .push _ => rfl
  | .all parts => congrArg Grammar.all (rewriteAll_identity parts)
  | .sequence parts => congrArg Grammar.sequence (rewriteAll_identity parts)
  | .choice alternatives => congrArg Grammar.choice (rewriteAll_identity alternatives)
  | .backtrack body => congrArg Grammar.backtrack (rewrite_identity body)
  | .optional body => congrArg Grammar.optional (rewrite_identity body)
  | .many body => congrArg Grammar.many (rewrite_identity body)
  | .many1 body => congrArg Grammar.many1 (rewrite_identity body)
  | .node name minChildren body actions =>
      congrArg (Grammar.node name minChildren · actions) (rewrite_identity body)

/-- Nothing is replaced in a list. -/
theorem rewriteAll_identity : (grammars : List Grammar) → rewriteAll .identity grammars = grammars
  | [] => rfl
  | grammar :: grammars => by
      rw [rewriteAll, rewrite_identity grammar, rewriteAll_identity grammars]

end

mutual

/-- Whether a condition holds of a grammar and of everything that it is built from. -/
def Throughout (permits : Grammar → Prop) : Grammar → Prop
  | .all parts => permits (.all parts) ∧ ThroughoutAll permits parts
  | .sequence parts => permits (.sequence parts) ∧ ThroughoutAll permits parts
  | .choice alternatives => permits (.choice alternatives) ∧ ThroughoutAll permits alternatives
  | .backtrack body => permits (.backtrack body) ∧ Throughout permits body
  | .optional body => permits (.optional body) ∧ Throughout permits body
  | .many body => permits (.many body) ∧ Throughout permits body
  | .many1 body => permits (.many1 body) ∧ Throughout permits body
  | .node name minChildren body actions =>
      permits (.node name minChildren body actions) ∧ Throughout permits body
  | grammar => permits grammar

/-- Whether a condition holds of every grammar of a list and of everything that these are built
from. -/
def ThroughoutAll (permits : Grammar → Prop) : List Grammar → Prop
  | [] => True
  | grammar :: grammars => Throughout permits grammar ∧ ThroughoutAll permits grammars

end

section

variable {permits permits' both : Grammar → Prop}

mutual

/-- What follows from two conditions holds throughout if they do. -/
theorem Throughout.imp (follows : ∀ grammar, permits grammar → permits' grammar → both grammar) :
    (grammar : Grammar) → grammar.Throughout permits → grammar.Throughout permits' →
      grammar.Throughout both
  | .peek _, left, right | .token _, left, right | .tokenExcept _, left, right
  | .eat _, left, right | .any, left, right | .skip, left, right | .endOfInput, left, right
  | .cut _, left, right | .trace _, left, right | .succeed, left, right | .fail, left, right
  | .rule _, left, right | .bookmark _, left, right | .rewind _, left, right
  | .push _, left, right => follows _ left right
  | .all parts, left, right | .sequence parts, left, right | .choice parts, left, right =>
      ⟨follows _ left.1 right.1, ThroughoutAll.imp follows parts left.2 right.2⟩
  | .backtrack body, left, right | .optional body, left, right | .many body, left, right
  | .many1 body, left, right | .node _ _ body _, left, right =>
      ⟨follows _ left.1 right.1, Throughout.imp follows body left.2 right.2⟩

/-- What follows from two conditions holds throughout a list if they do. -/
theorem ThroughoutAll.imp
    (follows : ∀ grammar, permits grammar → permits' grammar → both grammar) :
    (grammars : List Grammar) → ThroughoutAll permits grammars → ThroughoutAll permits' grammars →
      ThroughoutAll both grammars
  | [], _, _ => trivial
  | grammar :: grammars, left, right =>
      ⟨Throughout.imp follows grammar left.1 right.1,
        ThroughoutAll.imp follows grammars left.2 right.2⟩

end

mutual

/-- What always holds does so throughout. -/
theorem throughout_of_forall (always : ∀ grammar, permits grammar) :
    (grammar : Grammar) → grammar.Throughout permits
  | .peek _ | .token _ | .tokenExcept _ | .eat _ | .any | .skip | .endOfInput | .cut _ | .trace _
  | .succeed | .fail | .rule _ | .bookmark _ | .rewind _ | .push _ => always _
  | .all parts | .sequence parts | .choice parts =>
      ⟨always _, throughoutAll_of_forall always parts⟩
  | .backtrack body | .optional body | .many body | .many1 body | .node _ _ body _ =>
      ⟨always _, throughout_of_forall always body⟩

/-- What always holds does so throughout a list. -/
theorem throughoutAll_of_forall (always : ∀ grammar, permits grammar) :
    (grammars : List Grammar) → ThroughoutAll permits grammars
  | [] => trivial
  | grammar :: grammars =>
      ⟨throughout_of_forall always grammar, throughoutAll_of_forall always grammars⟩

end

/-- What holds throughout in some case is in that case asked of every part. -/
theorem Throughout.of_imp {condition : Prop} {grammar : Grammar}
    (holds : condition → grammar.Throughout permits) :
    grammar.Throughout fun part => condition → permits part := by
  by_cases met : condition
  · exact Throughout.imp (fun _ permitted _ _ => permitted) grammar (holds met) (holds met)
  · exact throughout_of_forall (fun _ must => absurd must met) grammar

end

end Grammar

/-- Whether a condition holds throughout every rule. -/
def Rules.Throughout (rules : Rules) (permits : Grammar → Prop) : Prop :=
  ∀ entry ∈ rules, entry.2.Throughout permits

/-- Whether every rule is built from primitives, combinators and rule references alone. -/
def Rules.Combinator (rules : Rules) : Prop :=
  ∀ entry ∈ rules, entry.2.Combinator

/-- Rules with their cuts and nodes replaced. -/
def Rules.rewrite (rules : Rules) (rewriting : Grammar.Rewriting) : Rules :=
  rules.map fun (name, body) => (name, body.rewrite rewriting)

namespace Rules

/-- A rule that is found is one of the rules. -/
theorem mem_of_lookup {rules : Rules} {name : String} {body : Grammar}
    (found : rules.lookup name = some body) : (name, body) ∈ rules := by
  induction rules with
  | nil => cases found
  | cons entry rest induction =>
      rw [List.lookup_cons] at found
      split at found
      · rename_i same
        rw [beq_iff_eq.mp same, ← Option.some.inj found]
        exact List.mem_cons_self
      · exact List.mem_cons_of_mem entry (induction found)

/-- The body of a rule that is found is that of one of the rules. -/
theorem exists_mem_of_lookup {rules : Rules} {name : String} {body : Grammar}
    (found : rules.lookup name = some body) : ∃ entry ∈ rules, entry.2 = body :=
  ⟨(name, body), mem_of_lookup found, rfl⟩

/-- What holds of every rule holds of one that is found. -/
theorem Combinator.of_lookup {rules : Rules} (combinators : rules.Combinator) {name : String}
    {body : Grammar} (found : rules.lookup name = some body) : body.Combinator := by
  obtain ⟨entry, member, rfl⟩ := exists_mem_of_lookup found
  exact combinators entry member

/-- What holds throughout every rule holds throughout one that is found. -/
theorem Throughout.of_lookup {rules : Rules} {permits : Grammar → Prop}
    (permitted : rules.Throughout permits) {name : String} {body : Grammar}
    (found : rules.lookup name = some body) : body.Throughout permits := by
  obtain ⟨entry, member, rfl⟩ := exists_mem_of_lookup found
  exact permitted entry member

/-- One rule alone. -/
theorem Combinator.single {name : String} {body : Grammar} (combinator : body.Combinator) :
    Combinator [(name, body)] := by
  intro entry member
  rw [List.mem_singleton.mp member]
  exact combinator

/-- One rule alone. -/
theorem Throughout.single {permits : Grammar → Prop} {name : String} {body : Grammar}
    (permitted : body.Throughout permits) : Throughout [(name, body)] permits := by
  intro entry member
  rw [List.mem_singleton.mp member]
  exact permitted

/-- Nothing is replaced in rules. -/
theorem rewrite_identity (rules : Rules) : rules.rewrite .identity = rules := by
  have same : ∀ entry ∈ rules, (entry.1, entry.2.rewrite .identity) = entry := by
    intro entry _
    rw [Grammar.rewrite_identity]
  rw [rewrite, List.map_congr_left same, List.map_id']

/-- Replacing happens rule by rule. -/
theorem lookup_rewrite (rules : Rules) (rewriting : Grammar.Rewriting) (name : String) :
    (rules.rewrite rewriting).lookup name =
      (rules.lookup name).map (Grammar.rewrite rewriting) := by
  induction rules with
  | nil => rfl
  | cons entry rest induction =>
      rw [rewrite, List.map_cons, List.lookup_cons, List.lookup_cons]
      split
      · rfl
      · exact induction

end Rules

namespace Parser

/-- A relation between parsers that every combinator hands on, with cuts and nodes replaced on the
right, as far as primitives and nodes are permitted. -/
structure CongruenceWithin (permits : Grammar → Prop) (Related : Parser → Parser → Prop)
    (rewriting : Grammar.Rewriting) : Prop where
  /-- A call beyond the allowance. -/
  exhausted : Related (fun _ => none) (fun _ => none)
  /-- No parts. -/
  succeed : Related .succeed .succeed
  /-- No alternatives. -/
  fail : Related .fail .fail
  /-- A primitive, or what is put in the place of a cut. -/
  primitive : ∀ grammar : Grammar, grammar.Primitive → permits grammar →
    ∀ call call' : String → Parser,
      Related (grammar.eval call) ((grammar.rewrite rewriting).eval call')
  /-- Parts in order. -/
  andThen : ∀ {first first' second second' : Parser}, Related first first' →
    Related second second' → Related (first.andThen second) (first'.andThen second')
  /-- Alternatives. -/
  orElse : ∀ {first first' second second' : Parser}, Related first first' →
    Related second second' → Related (first.orElse second) (first'.orElse second')
  /-- Rollback on failure. -/
  backtrack : ∀ {body body' : Parser}, Related body body' →
    Related body.backtrack body'.backtrack
  /-- Optional parts. -/
  optional : ∀ {body body' : Parser}, Related body body' → Related body.optional body'.optional
  /-- Repetition. -/
  many : ∀ {body body' : Parser}, Related body body' → Related body.many body'.many
  /-- Repetition with at least one match. -/
  many1 : ∀ {body body' : Parser}, Related body body' → Related body.many1 body'.many1
  /-- Nodes, or what is put in their place. -/
  node : ∀ (name : String) (minChildren : Nat) (actions : List Action) {inner : Grammar},
    permits (.node name minChildren inner actions) →
    ∀ {body : Parser} {grammar : Grammar} {call : String → Parser},
      Related body (grammar.eval call) → Related (.node name minChildren actions body)
        ((rewriting.node name minChildren grammar actions).eval call)

/-- A relation between parsers that every combinator hands on, with cuts and nodes replaced on the
right. -/
structure Congruence (Related : Parser → Parser → Prop) (rewriting : Grammar.Rewriting) :
    Prop where
  /-- A call beyond the allowance. -/
  exhausted : Related (fun _ => none) (fun _ => none)
  /-- A primitive, or what is put in the place of a cut. -/
  primitive : ∀ grammar : Grammar, grammar.Primitive → ∀ call call' : String → Parser,
    Related (grammar.eval call) ((grammar.rewrite rewriting).eval call')
  /-- Parts in order. -/
  andThen : ∀ {first first' second second' : Parser}, Related first first' →
    Related second second' → Related (first.andThen second) (first'.andThen second')
  /-- Alternatives. -/
  orElse : ∀ {first first' second second' : Parser}, Related first first' →
    Related second second' → Related (first.orElse second) (first'.orElse second')
  /-- Rollback on failure. -/
  backtrack : ∀ {body body' : Parser}, Related body body' →
    Related body.backtrack body'.backtrack
  /-- Optional parts. -/
  optional : ∀ {body body' : Parser}, Related body body' → Related body.optional body'.optional
  /-- Repetition. -/
  many : ∀ {body body' : Parser}, Related body body' → Related body.many body'.many
  /-- Repetition with at least one match. -/
  many1 : ∀ {body body' : Parser}, Related body body' → Related body.many1 body'.many1
  /-- Nodes, or what is put in their place. -/
  node : ∀ (name : String) (minChildren : Nat) (actions : List Action) {body : Parser}
    {grammar : Grammar} {call : String → Parser}, Related body (grammar.eval call) →
    Related (.node name minChildren actions body)
      ((rewriting.node name minChildren grammar actions).eval call)

/-- What every combinator hands on is handed on as far as anything is permitted. -/
theorem Congruence.within {Related : Parser → Parser → Prop} {rewriting : Grammar.Rewriting}
    (congruence : Congruence Related rewriting) (permits : Grammar → Prop) :
    CongruenceWithin permits Related rewriting where
  exhausted := congruence.exhausted
  succeed := congruence.primitive .succeed trivial (fun _ => .fail) (fun _ => .fail)
  fail := congruence.primitive .fail trivial (fun _ => .fail) (fun _ => .fail)
  primitive grammar primitive _ := congruence.primitive grammar primitive
  andThen := congruence.andThen
  orElse := congruence.orElse
  backtrack := congruence.backtrack
  optional := congruence.optional
  many := congruence.many
  many1 := congruence.many1
  node name minChildren actions _ _ _ _ _ := congruence.node name minChildren actions

/-- A property of parsers that every combinator hands on. -/
structure Closed (Holds : Parser → Prop) : Prop where
  /-- A call beyond the allowance. -/
  exhausted : Holds fun _ => none
  /-- A primitive. -/
  primitive : ∀ grammar : Grammar, grammar.Primitive → ∀ call : String → Parser,
    Holds (grammar.eval call)
  /-- Parts in order. -/
  andThen : ∀ {first second : Parser}, Holds first → Holds second → Holds (first.andThen second)
  /-- Alternatives. -/
  orElse : ∀ {first second : Parser}, Holds first → Holds second → Holds (first.orElse second)
  /-- Rollback on failure. -/
  backtrack : ∀ {body : Parser}, Holds body → Holds body.backtrack
  /-- Optional parts. -/
  optional : ∀ {body : Parser}, Holds body → Holds body.optional
  /-- Repetition. -/
  many : ∀ {body : Parser}, Holds body → Holds body.many
  /-- Repetition with at least one match. -/
  many1 : ∀ {body : Parser}, Holds body → Holds body.many1
  /-- Nodes. -/
  node : ∀ (name : String) (minChildren : Nat) (actions : List Action) {body : Parser},
    Holds body → Holds (.node name minChildren actions body)

/-- A property of parsers as a relation that ignores the right side. -/
theorem Closed.congruence {Holds : Parser → Prop} (closed : Closed Holds)
    (rewriting : Grammar.Rewriting) : Congruence (fun parser _ => Holds parser) rewriting where
  exhausted := closed.exhausted
  primitive grammar primitive call _ := closed.primitive grammar primitive call
  andThen := closed.andThen
  orElse := closed.orElse
  backtrack := closed.backtrack
  optional := closed.optional
  many := closed.many
  many1 := closed.many1
  node name minChildren actions _ _ _ := closed.node name minChildren actions

end Parser

namespace Grammar

section

variable {permits : Grammar → Prop} {Related : Parser → Parser → Prop} {rewriting : Rewriting}
  {call call' : String → Parser}

mutual

/-- The parsers of a grammar are related if those of the rules are. -/
theorem eval_related (congruence : Parser.CongruenceWithin permits Related rewriting)
    (calls : ∀ name, Related (call name) (call' name)) :
    (grammar : Grammar) → grammar.Combinator → grammar.Throughout permits →
      Related (grammar.eval call) ((grammar.rewrite rewriting).eval call')
  | .peek _, _, permitted | .token _, _, permitted | .tokenExcept _, _, permitted
  | .eat _, _, permitted | .any, _, permitted | .skip, _, permitted | .endOfInput, _, permitted
  | .cut _, _, permitted | .trace _, _, permitted | .succeed, _, permitted | .fail, _, permitted =>
      by refine congruence.primitive _ ?_ permitted call call'; trivial
  | .all parts, combinator, permitted =>
      evalAll_related_all congruence calls parts combinator permitted.2
  | .sequence parts, combinator, permitted => by
      have related := congruence.backtrack
        (evalAll_related_all congruence calls parts combinator permitted.2)
      rw [← Parser.sequence_eq_backtrack_all, ← Parser.sequence_eq_backtrack_all] at related
      exact related
  | .choice alternatives, combinator, permitted =>
      evalAll_related_choice congruence calls alternatives combinator permitted.2
  | .backtrack body, combinator, permitted =>
      congruence.backtrack (eval_related congruence calls body combinator permitted.2)
  | .optional body, combinator, permitted =>
      congruence.optional (eval_related congruence calls body combinator permitted.2)
  | .many body, combinator, permitted =>
      congruence.many (eval_related congruence calls body combinator permitted.2)
  | .many1 body, combinator, permitted =>
      congruence.many1 (eval_related congruence calls body combinator permitted.2)
  | .node name minChildren body actions, combinator, permitted =>
      congruence.node name minChildren actions permitted.1
        (eval_related congruence calls body combinator permitted.2)
  | .rule name, _, _ => calls name

/-- Parts in order are related if the rules are. -/
theorem evalAll_related_all (congruence : Parser.CongruenceWithin permits Related rewriting)
    (calls : ∀ name, Related (call name) (call' name)) :
    (grammars : List Grammar) → CombinatorAll grammars → ThroughoutAll permits grammars →
      Related (.all (evalAll call grammars)) (.all (evalAll call' (rewriteAll rewriting grammars)))
  | [], _, _ => congruence.succeed
  | grammar :: grammars, combinators, permitted =>
      congruence.andThen (eval_related congruence calls grammar combinators.1 permitted.1)
        (evalAll_related_all congruence calls grammars combinators.2 permitted.2)

/-- Alternatives are related if the rules are. -/
theorem evalAll_related_choice (congruence : Parser.CongruenceWithin permits Related rewriting)
    (calls : ∀ name, Related (call name) (call' name)) :
    (grammars : List Grammar) → CombinatorAll grammars → ThroughoutAll permits grammars →
      Related (.choice (evalAll call grammars))
        (.choice (evalAll call' (rewriteAll rewriting grammars)))
  | [], _, _ => congruence.fail
  | grammar :: grammars, combinators, permitted =>
      congruence.orElse (eval_related congruence calls grammar combinators.1 permitted.1)
        (evalAll_related_choice congruence calls grammars combinators.2 permitted.2)

end

end

section

variable {permits : Grammar → Prop} {Related : Parser → Parser → Prop} {rewriting : Rewriting}
  {rules : Rules}

/-- A relation that every permitted combinator hands on relates the calls of every rule, whatever
the allowance. -/
theorem call_related (congruence : Parser.CongruenceWithin permits Related rewriting)
    (combinators : rules.Combinator) (permitted : rules.Throughout permits) (allowance : Nat)
    (name : String) :
    Related (call rules allowance name) (call (rules.rewrite rewriting) allowance name) := by
  induction allowance generalizing name with
  | zero => exact congruence.exhausted
  | succ allowance induction =>
      rw [call_succ, call_succ, Rules.lookup_rewrite]
      cases found : rules.lookup name with
      | none => exact congruence.fail
      | some body =>
          exact eval_related congruence induction body (combinators.of_lookup found)
            (permitted.of_lookup found)

/-- A relation that every permitted combinator hands on relates the runs of every grammar that is
built from these. -/
theorem run_relatedWithin (congruence : Parser.CongruenceWithin permits Related rewriting)
    (combinators : rules.Combinator) (permittedRules : rules.Throughout permits)
    {grammar : Grammar} (combinator : grammar.Combinator)
    (permitted : grammar.Throughout permits) (allowance : Nat) :
    Related (run rules allowance grammar)
      (run (rules.rewrite rewriting) allowance (grammar.rewrite rewriting)) :=
  eval_related congruence (call_related congruence combinators permittedRules allowance) grammar
    combinator permitted

/-- A relation that every combinator hands on relates the runs of every grammar. -/
theorem run_related (congruence : Parser.Congruence Related rewriting)
    (combinators : rules.Combinator) {grammar : Grammar} (combinator : grammar.Combinator)
    (allowance : Nat) :
    Related (run rules allowance grammar)
      (run (rules.rewrite rewriting) allowance (grammar.rewrite rewriting)) := by
  have always : ∀ grammar : Grammar, grammar.Throughout fun _ => True :=
    throughout_of_forall fun _ => trivial
  exact run_relatedWithin (congruence.within fun _ => True) combinators
    (fun entry _ => always entry.2) combinator (always grammar) allowance

/-- A property that every combinator hands on holds of the parser of a grammar if it holds of those
of the rules. -/
theorem eval_closed {Holds : Parser → Prop} (closed : Parser.Closed Holds)
    {call : String → Parser} (calls : ∀ name, Holds (call name)) {grammar : Grammar}
    (combinator : grammar.Combinator) : Holds (grammar.eval call) := by
  have always : grammar.Throughout fun _ => True := throughout_of_forall (fun _ => trivial) grammar
  have congruence := (closed.congruence .identity).within fun _ => True
  exact @eval_related _ _ _ call call congruence calls grammar combinator always

/-- A property that every combinator hands on holds of the runs of every grammar. -/
theorem run_closed {Holds : Parser → Prop} (closed : Parser.Closed Holds)
    (combinators : rules.Combinator) {grammar : Grammar} (combinator : grammar.Combinator)
    (allowance : Nat) : Holds (run rules allowance grammar) :=
  run_related (closed.congruence .identity) combinators combinator allowance

end

end Grammar

end TokenGrammar
