import TokenGrammar.Action
import TokenGrammar.Text.Numeral

/-! # Folding arithmetic nodes

The action that computes a chain of operations, as a node `operand operator operand …` holds it,
from left to right in 64-bit signed integers.

* `Arithmetic.Operator`: the four operations, named by tokens.
* `Arithmetic.fold`: replace a node by its value, or reject it when there is none. -/

namespace TokenGrammar.Arithmetic

/-- Whether a number is a 64-bit signed integer. -/
def inRange (n : Int) : Bool :=
  -0x8000000000000000 ≤ n && n < 0x8000000000000000

/-- A number, if it is a 64-bit signed integer. -/
def checked (n : Int) : Option Int :=
  if inRange n then some n else none

/-- Value of a numeral: an optional sign and decimal digits. -/
def numeral? (text : String) : Option Int :=
  (Numeral.signed? text.toList).bind checked

/-- Value of an element: that of the numeral at its leftmost leaf. -/
def value? : Element → Option Int
  | .leaf token => numeral? token.text
  | .node _ [] => none
  | .node _ (child :: _) => value? child

/-- Position of an element: that of its leftmost leaf. -/
def position : Element → Nat
  | .leaf token => token.position
  | .node _ [] => 0
  | .node _ (child :: _) => position child

/-- The operations. -/
inductive Operator where
  /-- Addition. -/
  | plus
  /-- Subtraction. -/
  | minus
  /-- Multiplication. -/
  | star
  /-- Division, toward zero. -/
  | slash
  deriving DecidableEq

/-- The operation that an element of the given name stands for. -/
def Operator.ofName? : String → Option Operator
  | "plus" => some .plus
  | "minus" => some .minus
  | "star" => some .star
  | "slash" => some .slash
  | _ => none

/-- Apply an operation, if its result exists and is a 64-bit signed integer. -/
def Operator.apply? (left right : Int) : Operator → Option Int
  | .plus => checked (left + right)
  | .minus => checked (left - right)
  | .star => checked (left * right)
  | .slash => if right = 0 then none else checked (left.tdiv right)

/-- Apply the operations of a list `operator operand …` in order, starting from a value. An
element without a partner at the end has no effect. -/
def foldPairs? (accumulated : Int) : List Element → Option Int
  | operator :: operand :: rest => do
      let right ← value? operand
      let operation ← Operator.ofName? operator.name
      foldPairs? (← operation.apply? accumulated right) rest
  | _ => some accumulated

/-- Replace a chain of operations by its value, a node `value` over one token `number` at the
position of the first operand. A chain without a value is rejected. -/
def fold : Action := fun node =>
  match node.children with
  | [] => .error ⟨"no operand"⟩
  | first :: rest =>
      match (value? first).bind (foldPairs? · rest) with
      | some result =>
          .ok ⟨"value", [.leaf ⟨"number", toString result, position first⟩]⟩
      | none => .error ⟨"no value"⟩

end TokenGrammar.Arithmetic
