import TokenGrammar.Proofs.Grammar.Adequacy
import TokenGrammar.Proofs.Grammar.Consumption
import TokenGrammar.Proofs.Grammar.Evaluations

/-! # Guarded recursion comes to an end

Rules may refer to each other as long as no circle of references can be followed without consuming
a token. A run of such rules ends, though backtracking moves the cursor back and repetitions enter
the same rules over and over: a call has fewer tokens left than the call around it, or as many, and
then it is the call of a rule of smaller rank.

* `Grammar.Guarded`, `Rules.Guarded`: what may be referred to before anything was consumed.
* `Session.Ready`: where a grammar may be run.
* `Grammar.run_ends`: what the calls of rules owe to the grammars that refer to them.
* `Grammar.rule_terminates`: the calls of guarded rules come to an end, and how deep they nest. -/

namespace TokenGrammar

/-- How many tokens are left. -/
def ParseState.tokensLeft (state : ParseState) : Nat :=
  state.tokens.length - state.cursor

namespace Grammar

mutual

/-- Whether every reference in a grammar that no part before it keeps from being followed in place
is to an allowed rule. A part keeps what comes after it in order from that if it must consume. -/
def Guarded (rules : Rules) (allows : String → Prop) : Grammar → Prop
  | .rule name => allows name
  | .all parts => GuardedInOrder rules allows parts
  | .sequence parts => GuardedInOrder rules allows parts
  | .choice alternatives => GuardedAll rules allows alternatives
  | .backtrack body => Guarded rules allows body
  | .optional body => Guarded rules allows body
  | .many body => Guarded rules allows body
  | .many1 body => Guarded rules allows body
  | .node _ _ body _ => Guarded rules allows body
  | _ => True

/-- Whether parts in order are guarded up to the first one that must consume. -/
def GuardedInOrder (rules : Rules) (allows : String → Prop) : List Grammar → Prop
  | [] => True
  | part :: parts =>
      Guarded rules allows part ∧ (part.MustConsume rules ∨ GuardedInOrder rules allows parts)

/-- Whether each of some alternatives is guarded. -/
def GuardedAll (rules : Rules) (allows : String → Prop) : List Grammar → Prop
  | [] => True
  | alternative :: alternatives =>
      Guarded rules allows alternative ∧ GuardedAll rules allows alternatives

end

end Grammar

namespace Rules

/-- Whether a rule refers to rules of smaller rank alone before it must have consumed something. -/
def Guarded (rules : Rules) (rank : String → Nat) : Prop :=
  ∀ entry ∈ rules, entry.2.Guarded rules fun name => rank name < rank entry.1

/-- A number that is greater than the rank of every rule. -/
def height (rules : Rules) (rank : String → Nat) : Nat :=
  rules.foldr (fun entry height => max (rank entry.1 + 1) height) 0

variable {rules : Rules} {rank : String → Nat} {name : String} {body : Grammar}

/-- The body of a rule is guarded. -/
theorem Guarded.of_lookup (guarded : rules.Guarded rank) (found : rules.lookup name = some body) :
    body.Guarded rules fun other => rank other < rank name :=
  guarded _ (mem_of_lookup found)

/-- The rank of a rule is smaller than the height. -/
theorem rank_lt_height (found : rules.lookup name = some body) (rank : String → Nat) :
    rank name < rules.height rank := by
  have member := mem_of_lookup found
  clear found
  induction rules with
  | nil => cases member
  | cons first rules induction =>
      rw [height, List.foldr_cons]
      rcases List.mem_cons.mp member with rfl | later
      · exact Nat.lt_of_lt_of_le (Nat.lt_succ_self _) (Nat.le_max_left ..)
      · exact Nat.lt_of_lt_of_le (induction later) (Nat.le_max_right ..)

end Rules

namespace Parser.Advancing

variable {parser : Parser} {before : Session} {outcome : Outcome}

/-- No more tokens are left than before. -/
theorem tokensLeft_le (advancing : parser.Advancing) (ran : parser before = some outcome) :
    outcome.session.state.tokensLeft ≤ before.state.tokensLeft := by
  rw [ParseState.tokensLeft, ParseState.tokensLeft, advancing.tokens_eq ran]
  exact Nat.sub_le_sub_left (advancing.cursor_le ran) _

/-- Fewer tokens are left where the cursor has moved. -/
theorem tokensLeft_lt (advancing : parser.Advancing) (ran : parser before = some outcome)
    (within : before.state.cursor ≤ before.state.tokens.length)
    (moved : before.state.cursor < outcome.session.state.cursor) :
    outcome.session.state.tokensLeft < before.state.tokensLeft := by
  have inside := advancing.cursor_le_length ran within
  rw [advancing.tokens_eq ran] at inside
  rw [ParseState.tokensLeft, ParseState.tokensLeft, advancing.tokens_eq ran]
  exact Nat.sub_lt_sub_left (Nat.lt_of_lt_of_le moved inside) moved

end Parser.Advancing

/-- Where a parser may be run: fewer than a number of tokens are left, or just as many and a
condition holds. -/
structure Session.Ready (session : Session) (count : Nat) (guarded : Prop) : Prop where
  /-- The cursor lies within the tokens. -/
  within : session.state.cursor ≤ session.state.tokens.length
  /-- Few tokens are left, or the condition holds. -/
  left : session.state.tokensLeft < count ∨ session.state.tokensLeft = count ∧ guarded

namespace Session.Ready

variable {before : Session} {count : Nat} {guarded further : Prop}

/-- A weaker condition. -/
theorem imp (ready : before.Ready count guarded) (weaker : guarded → further) :
    before.Ready count further :=
  ⟨ready.within, ready.left.imp_right (And.imp_right weaker)⟩

/-- Behind a parser a condition need only hold if that one may have stayed in place. -/
theorem after (ready : before.Ready count guarded) {parser : Parser}
    (advancing : parser.Advancing) {outcome : Outcome} (ran : parser before = some outcome)
    (next : guarded → before.state.cursor < outcome.session.state.cursor ∨ further) :
    outcome.session.Ready count further := by
  have le := advancing.tokensLeft_le ran
  refine ⟨advancing.cursor_le_length ran ready.within, ?_⟩
  rcases ready.left with fewer | ⟨rfl, holds⟩
  · exact .inl (Nat.lt_of_le_of_lt le fewer)
  · rcases next holds with moved | holdsFurther
    · exact .inl (advancing.tokensLeft_lt ran ready.within moved)
    · exact (Nat.lt_or_eq_of_le le).imp_right fun same => ⟨same, holdsFurther⟩

end Session.Ready

namespace Parser

/-- A parser that finishes where it may be run. -/
def Ends (parser : Parser) (count : Nat) (guarded : Prop) : Prop :=
  ∀ ⦃before : Session⦄, before.Ready count guarded → (parser before).isSome

namespace Ends

variable {first second body : Parser} {count : Nat} {guarded further : Prop}

/-- Parts in order finish if the first does, and the second behind it. -/
theorem andThen (left : first.Ends count guarded) (advancing : first.Advancing)
    {consumes : Prop} (consuming : consumes → first.Consuming)
    (right : second.Ends count further) :
    (first.andThen second).Ends count (guarded ∧ (consumes ∨ further)) := by
  intro before ready
  obtain ⟨middle, start⟩ := Option.isSome_iff_exists.mp (left (ready.imp And.left))
  refine isSome_andThen start fun matched => right (ready.after advancing start ?_)
  rintro ⟨-, must | holds⟩
  · exact .inl (consuming must start matched)
  · exact .inr holds

/-- Alternatives finish if each does, though one that fails may leave the cursor further on. -/
theorem orElse (left : first.Ends count guarded) (advancing : first.Advancing)
    (right : second.Ends count further) :
    (first.orElse second).Ends count (guarded ∧ further) := by
  intro before ready
  obtain ⟨middle, start⟩ := Option.isSome_iff_exists.mp (left (ready.imp And.left))
  exact isSome_orElse start fun _ => right (ready.after advancing start fun both => .inr both.2)

/-- A rollback changes no finish. -/
theorem backtrack (ends : body.Ends count guarded) : body.backtrack.Ends count guarded := by
  intro before ready
  rw [isSome_backtrack]
  exact ends ready

/-- An optional part finishes as the part does. -/
theorem optional (ends : body.Ends count guarded) : body.optional.Ends count guarded := by
  intro before ready
  rw [isSome_optional]
  exact ends ready

/-- A node rule finishes as its body does. -/
theorem node (name : String) (minChildren : Nat) (actions : List Action)
    (ends : body.Ends count guarded) :
    (Parser.node name minChildren actions body).Ends count guarded := by
  intro before ready
  rw [isSome_node]
  exact ends ready

/-- The rounds of a repetition come to an end: each of them leaves fewer tokens, or is the last. -/
theorem iterate (ends : body.Ends count guarded) (advancing : body.Advancing)
    {budget rounds : Nat} {before : Session} (ready : before.Ready count guarded)
    (enough : before.state.tokensLeft < budget) :
    (Parser.iterate body budget rounds before).isSome := by
  induction budget generalizing rounds before with
  | zero => cases enough
  | succ budget induction =>
      obtain ⟨outcome, start⟩ := Option.isSome_iff_exists.mp (ends ready)
      refine isSome_iterate start fun _ moved => ?_
      have fewer := advancing.tokensLeft_lt start ready.within moved
      exact induction (ready.after advancing start fun _ => .inl moved)
        (Nat.lt_of_lt_of_le fewer (Nat.le_of_lt_succ enough))

/-- A repetition comes to an end within its rounds. -/
theorem «repeat» (ends : body.Ends count guarded) (advancing : body.Advancing)
    {before : Session} (ready : before.Ready count guarded) : (body.repeat before).isSome :=
  ends.iterate advancing ready (Nat.lt_succ_self _)

/-- A repetition finishes if its rounds do. -/
theorem many (ends : body.Ends count guarded) (advancing : body.Advancing) :
    body.many.Ends count guarded := by
  intro before ready
  rw [isSome_many]
  exact ends.repeat advancing ready

/-- A repetition that needs one match finishes if its rounds do. -/
theorem many1 (ends : body.Ends count guarded) (advancing : body.Advancing) :
    body.many1.Ends count guarded := by
  intro before ready
  rw [isSome_many1]
  exact ends.repeat advancing ready

end Ends

end Parser

namespace Grammar

section

variable {rules : Rules} {allows : String → Prop} {allowance count : Nat}

mutual

/-- A grammar finishes where every rule does when fewer tokens are left, and every allowed rule
when as many are. -/
theorem run_ends (combinators : rules.Combinator)
    (calls : ∀ name, (call rules allowance name).Ends count (allows name)) :
    (grammar : Grammar) → grammar.Combinator →
      (grammar.run rules allowance).Ends count (grammar.Guarded rules allows)
  | .peek _, _ | .token _, _ | .tokenExcept _, _ | .eat _, _ | .any, _ | .skip, _
  | .endOfInput, _ | .cut _, _ | .trace _, _ | .succeed, _ | .fail, _ => fun _ _ => rfl
  | .all parts, combinator => by
      rw [run_all]
      exact runAll_ends combinators calls parts combinator
  | .sequence parts, combinator => by
      rw [run_sequence, Parser.sequence_eq_backtrack_all]
      exact (runAll_ends combinators calls parts combinator).backtrack
  | .choice alternatives, combinator => by
      rw [run_choice]
      exact runChoice_ends combinators calls alternatives combinator
  | .backtrack body, combinator => (run_ends combinators calls body combinator).backtrack
  | .optional body, combinator => (run_ends combinators calls body combinator).optional
  | .many body, combinator => by
      have inner : body.Combinator := combinator
      exact (run_ends combinators calls body inner).many (run_advancing combinators inner allowance)
  | .many1 body, combinator => by
      have inner : body.Combinator := combinator
      exact (run_ends combinators calls body inner).many1 (run_advancing combinators inner allowance)
  | .node name minChildren body actions, combinator =>
      (run_ends combinators calls body combinator).node name minChildren actions
  | .rule name, _ => calls name

/-- Parts in order finish where the rules do that are referred to in place. -/
theorem runAll_ends (combinators : rules.Combinator)
    (calls : ∀ name, (call rules allowance name).Ends count (allows name)) :
    (parts : List Grammar) → CombinatorAll parts →
      (Parser.all (parts.map (run rules allowance))).Ends count
        (GuardedInOrder rules allows parts)
  | [], _ => fun _ _ => rfl
  | part :: parts, combinator =>
      (run_ends combinators calls part combinator.1).andThen
        (run_advancing combinators combinator.1 allowance)
        (fun consumes => consumes.consuming combinators combinator.1 allowance)
        (runAll_ends combinators calls parts combinator.2)

/-- Alternatives finish where the rules do that are referred to in place. -/
theorem runChoice_ends (combinators : rules.Combinator)
    (calls : ∀ name, (call rules allowance name).Ends count (allows name)) :
    (alternatives : List Grammar) → CombinatorAll alternatives →
      (Parser.choice (alternatives.map (run rules allowance))).Ends count
        (GuardedAll rules allows alternatives)
  | [], _ => fun _ _ => rfl
  | alternative :: alternatives, combinator =>
      (run_ends combinators calls alternative combinator.1).orElse
        (run_advancing combinators combinator.1 allowance)
        (runChoice_ends combinators calls alternatives combinator.2)

end

end

variable {rules : Rules} {rank : String → Nat}

/-- A number of tokens and a rank below a height are counted in lexicographic order. -/
theorem depth_lt {left right low high height : Nat} (below : low < height)
    (descends : left < right ∨ left = right ∧ low < high) :
    left * height + low < right * height + high := by
  rcases descends with fewer | ⟨rfl, lower⟩
  · have whole : (left + 1) * height ≤ right * height := Nat.mul_le_mul_right height fewer
    rw [Nat.succ_mul] at whole
    omega
  · exact Nat.add_lt_add_left lower _

/-- The calls of guarded rules finish. Along a chain of calls the number of tokens left and the rank
descend in lexicographic order, and the allowance need only count how often they can. -/
theorem call_finishes (combinators : rules.Combinator) (guarded : rules.Guarded rank)
    {allowance : Nat} (positive : 0 < allowance) {name : String} {before : Session}
    (within : before.state.cursor ≤ before.state.tokens.length)
    (enough : ∀ body, rules.lookup name = some body →
      before.state.tokensLeft * rules.height rank + rank name < allowance) :
    (call rules allowance name before).isSome := by
  induction allowance generalizing name before with
  | zero => cases positive
  | succ allowance induction =>
      rw [call_succ]
      cases found : rules.lookup name with
      | none => rfl
      | some body =>
          have bound := Nat.le_of_lt_succ (enough body found)
          have below := Rules.rank_lt_height found rank
          have calls : ∀ other, (call rules allowance other).Ends before.state.tokensLeft
              (rank other < rank name) := by
            intro other session ready
            refine induction ?_ ready.within fun inner foundInner => ?_
            · -- A name without a rule fails at once, but that is a call as well.
              have descends := ready.left.imp_right (And.imp_right Nat.zero_lt_of_lt)
              exact Nat.zero_lt_of_lt (Nat.lt_of_lt_of_le
                (depth_lt (Nat.zero_lt_of_lt below) descends) bound)
            · have belowInner := Rules.rank_lt_height foundInner rank
              exact Nat.lt_of_lt_of_le (depth_lt belowInner ready.left) bound
          exact run_ends combinators calls body (combinators.of_lookup found)
            ⟨within, .inr ⟨rfl, guarded.of_lookup found⟩⟩

/-- **Guarded recursion comes to an end.** Let the bodies of rules be built from combinators, and
let the rules be ranked so that each refers in place to rules of smaller rank alone: every other
reference comes after a part, in the order of its body, that must consume. Then from every session
within its tokens the call of a rule has one evaluation, with a finite number of parser calls and
without a bound on the rounds of a repetition. Calls of rules nest no deeper in it than the tokens
left times the height of the ranks, and the rank of the rule on top, so a run with that allowance or
more ends with the outcome of the evaluation. -/
theorem rule_terminates (combinators : rules.Combinator) (guarded : rules.Guarded rank)
    (name : String) {before : Session}
    (within : before.state.cursor ≤ before.state.tokens.length) :
    ∃ calls outcome,
      (∀ other result, (Grammar.rule name).Evaluates rules before other result ↔
        other = calls ∧ result = outcome) ∧
      ∀ allowance, before.state.tokensLeft * rules.height rank + rank name < allowance →
        (Grammar.rule name).run rules allowance before = some outcome := by
  let depth := before.state.tokensLeft * rules.height rank + rank name
  have finishes : ((Grammar.rule name).run rules (depth + 1) before).isSome :=
    call_finishes combinators guarded (Nat.succ_pos depth) within fun _ _ => Nat.lt_succ_self depth
  obtain ⟨outcome, ran⟩ := Option.isSome_iff_exists.mp finishes
  have reference : (Grammar.rule name).Combinator := trivial
  obtain ⟨calls, evaluates⟩ := exists_evaluates_of_run combinators reference ran
  refine ⟨calls, outcome, fun other result => ⟨fun another => another.unique evaluates, ?_⟩, ?_⟩
  · rintro ⟨rfl, rfl⟩
    exact evaluates
  · exact fun allowance enough => run_mono combinators reference enough ran

/-- Sums of values, and values that are lists of sums: each rule calls the other, and one of the
two does so in place. -/
theorem rule_terminates_sums :
    let sum : Grammar :=
      .all [.rule "value", .many (.sequence [.eat "+", .rule "value"])]
    let list : Grammar := .all [.eat "(", .many (.rule "sum"), .eat ")"]
    let rules : Rules :=
      [("sum", .node "sum" 1 sum []), ("value", .choice [.node "list" 0 list [], .token "x"])]
    let rank : String → Nat := fun name => if name = "sum" then 1 else 0
    let tokens : List Token :=
      [⟨"(", "(", 0⟩, ⟨"x", "x", 1⟩, ⟨"+", "+", 2⟩, ⟨"x", "x", 3⟩, ⟨")", ")", 4⟩]
    let tree : Element :=
      .node "list" [.node "sum" [.leaf ⟨"x", "x", 1⟩, .leaf ⟨"x", "x", 3⟩]]
    let before : Session := .ofState ⟨tokens, 0, [], none⟩
    let after : Session := .ofState ⟨tokens, 5, [tree], none⟩
    rules.Combinator ∧ rules.Guarded rank ∧ before.state.cursor ≤ before.state.tokens.length ∧
      (∃ calls, (Grammar.rule "sum").Evaluates rules before calls after.matched) ∧
      (Grammar.rule "sum").run rules 12 before = some after.matched := by
  intro sum list rules rank tokens tree before after
  have combinators : rules.Combinator := by
    intro entry member
    rcases List.mem_cons.mp member with rfl | member
    · simp [sum, Combinator, CombinatorAll]
    · rw [List.mem_singleton.mp member]
      simp [list, Combinator, CombinatorAll]
  have guarded : rules.Guarded rank := by
    intro entry member
    rcases List.mem_cons.mp member with rfl | member
    · have repeated : Guarded rules (fun name => rank name < 1)
          (.many (.sequence [.eat "+", .rule "value"])) := ⟨trivial, .inl (.eat "+")⟩
      exact ⟨Nat.zero_lt_one, .inr ⟨repeated, .inr trivial⟩⟩
    · rw [List.mem_singleton.mp member]
      exact ⟨⟨trivial, .inl (.eat "(")⟩, trivial, trivial⟩
  have ran : (Grammar.rule "sum").run rules 12 before = some after.matched := by decide +kernel
  have within : before.state.cursor ≤ before.state.tokens.length := Nat.zero_le 5
  obtain ⟨calls, outcome, evaluates, runs⟩ := rule_terminates combinators guarded "sum" within
  have same : outcome = after.matched :=
    Option.some.inj ((runs 12 (by decide)).symm.trans ran)
  exact ⟨combinators, guarded, within, ⟨calls, (evaluates _ _).mpr ⟨rfl, same.symm⟩⟩, ran⟩

end Grammar

end TokenGrammar
