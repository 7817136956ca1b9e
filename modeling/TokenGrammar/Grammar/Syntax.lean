import TokenGrammar.Action

/-! # Grammars

Grammars over named tokens, as data.

* `Grammar`: primitives that look at one token, combinators that roll back, repeat and build nodes,
  references to named rules, and the steps with which a host reaches into the parse.
* `Rules`: named rules, which may refer to each other.
* `Grammar.Combinator`: the grammars without host steps. -/

namespace TokenGrammar

/-- A grammar over named tokens. -/
inductive Grammar where
  /-- Match if the next token has the given name, and consume nothing. -/
  | peek (name : String)
  /-- Consume and keep the next token if it has the given name. -/
  | token (name : String)
  /-- Consume and keep the next token if it has another name. -/
  | tokenExcept (name : String)
  /-- Consume and drop the next token if it has the given name. -/
  | eat (name : String)
  /-- Consume and keep the next token. -/
  | any
  /-- Consume and drop the next token. -/
  | skip
  /-- Match if every token has been consumed. -/
  | endOfInput
  /-- Commit to what has been consumed. -/
  | cut (label : String)
  /-- Note in the log of the run how far it has come. -/
  | trace (label : String)
  /-- Match without doing anything. -/
  | succeed
  /-- Fail without doing anything. -/
  | fail
  /-- The parts in order, up to the first that fails, and no rollback then. -/
  | all (parts : List Grammar)
  /-- The parts in order, rolled back when one fails. -/
  | sequence (parts : List Grammar)
  /-- The first alternative that matches, without a rollback in between. -/
  | choice (alternatives : List Grammar)
  /-- The body, rolled back when it fails. -/
  | backtrack (body : Grammar)
  /-- The body once, matching either way. -/
  | optional (body : Grammar)
  /-- The body as often as it matches. -/
  | many (body : Grammar)
  /-- The body as often as it matches, and at least once. -/
  | many1 (body : Grammar)
  /-- The body, with what it pushed collected in a node if that is more than `minChildren`
  elements, and the node passed through the actions. Rolled back when the body fails or an action
  rejects the node. -/
  | node (name : String) (minChildren : Nat) (body : Grammar) (actions : List Action)
  /-- The rule of the given name. -/
  | rule (name : String)
  /-- Host step: remember this place under a name. -/
  | bookmark (slot : String)
  /-- Host step: roll back to the place remembered under a name, or fail if there is none. -/
  | rewind (slot : String)
  /-- Host step: push an element. -/
  | push (element : Element)

/-- Named rules; the first of a name counts. -/
abbrev Rules := List (String × Grammar)

namespace Grammar

mutual

/-- Whether a grammar is built from primitives, combinators and rule references alone. -/
def Combinator : Grammar → Prop
  | .all parts => CombinatorAll parts
  | .sequence parts => CombinatorAll parts
  | .choice alternatives => CombinatorAll alternatives
  | .backtrack body => Combinator body
  | .optional body => Combinator body
  | .many body => Combinator body
  | .many1 body => Combinator body
  | .node _ _ body _ => Combinator body
  | .bookmark _ => False
  | .rewind _ => False
  | .push _ => False
  | _ => True

/-- Whether every grammar of a list is built from primitives, combinators and rule references
alone. -/
def CombinatorAll : List Grammar → Prop
  | [] => True
  | grammar :: grammars => Combinator grammar ∧ CombinatorAll grammars

end

theorem combinatorAll_iff {grammars : List Grammar} :
    CombinatorAll grammars ↔ ∀ grammar ∈ grammars, grammar.Combinator := by
  induction grammars with
  | nil => simp [CombinatorAll]
  | cons grammar grammars induction => simp [CombinatorAll, induction]

end Grammar

end TokenGrammar
