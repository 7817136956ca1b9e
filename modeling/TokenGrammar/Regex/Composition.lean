import TokenGrammar.Regex.Expr

/-! # Putting expressions together

Sequences and alternatives are flat, whichever way their groups were written. What all alternatives
start with is matched once, before the choice is made. That decides which match is preferred: the
first way to match the common start is tried with every alternative before the second way is.

* `Regex.Expr.parts`, `Regex.Expr.choices`: the parts of a sequence, the members of a choice.
* `Regex.Expr.sequenceAll`: expressions in order.
* `Regex.Expr.alternativeAll`: a choice, with a common start in front of it. -/

namespace TokenGrammar.Regex

open Unicode (CharSet)

namespace Expr

/-- Whether an expression is a set of a single character. -/
def isCharacter : Expr → Bool
  | .set members => members.isSingle
  | _ => false

/-- The members of an expression that is a class: a set, but not of a single character. -/
def class? : Expr → Option CharSet
  | .set members => if members.isSingle then none else some members
  | _ => none

/-- The members of an expression that is a set of a single character. -/
def character? : Expr → Option CharSet
  | .set members => if members.isSingle then some members else none
  | _ => none

/-- The parts of a sequence, without empty ones. -/
def parts : Expr → List Expr
  | .empty => []
  | .sequence first second => first.parts ++ second.parts
  | expr => [expr]

/-- The members of a choice, the preferred first. -/
def choices : Expr → List Expr
  | .alternative first second => first.choices ++ second.choices
  | expr => [expr]

/-- The sequence with the given parts. -/
def ofParts : List Expr → Expr
  | [] => .empty
  | [part] => part
  | part :: parts => .sequence part (ofParts parts)

/-- The choice with the given members. -/
def ofChoices : List Expr → Expr
  | [] => .set .empty
  | [choice] => choice
  | choice :: choices => .alternative choice (ofChoices choices)

/-- Expressions in order. -/
def sequenceAll (exprs : List Expr) : Expr :=
  ofParts (exprs.flatMap parts)

/-- Parts of a sequence, where characters that follow each other make up a word. -/
def words : List Expr → List (List Expr)
  | [] => []
  | part :: rest =>
      match words rest with
      | (next :: word) :: others =>
          if part.isCharacter && next.isCharacter then (part :: next :: word) :: others
          else [part] :: (next :: word) :: others
      | others => [part] :: others

/-- What two lists have in common at their starts. -/
def commonStart : List (List Expr) → List (List Expr) → List (List Expr)
  | first :: left, second :: right =>
      if first = second then first :: commonStart left right else []
  | _, _ => []

/-- The words that all sequences start with. An expression of less than two words has none to
share. -/
def sharedStart (exprs : List Expr) : List (List Expr) :=
  match exprs.map fun expr => words expr.parts with
  | [] => []
  | first :: rest =>
      if (first :: rest).all (2 ≤ ·.length) then rest.foldl commonStart first else []

/-- Number of nodes. -/
def size : Expr → Nat
  | .sequence first second => first.size + second.size + 1
  | .alternative first second => first.size + second.size + 1
  | .repetition _ _ _ body => body.size + 1
  | .capture _ _ body => body.size + 1
  | _ => 1

/-- A choice between expressions, the preferred first. A choice of characters or of classes is a
class. Each round takes a common start away, so the bound is above the number of nodes. -/
def alternativeUpTo : (bound : Nat) → List Expr → Expr
  | 0, exprs => ofChoices exprs
  | bound + 1, exprs =>
      let members := exprs.flatMap choices
      match members with
      | [] | [_] => ofChoices members
      | _ =>
          match (members.mapM character?).or (members.mapM class?) with
          | some sets => .set (.unionAll sets)
          | none =>
              let shared := (sharedStart members).flatten
              if shared = [] then ofChoices members
              else
                let remainders := members.map fun expr => ofParts (expr.parts.drop shared.length)
                sequenceAll (shared ++ [alternativeUpTo bound remainders])

/-- A choice between expressions, the preferred first. -/
def alternativeAll (exprs : List Expr) : Expr :=
  alternativeUpTo (exprs.foldr (fun expr total => expr.size + total) 1) exprs

end Expr

end TokenGrammar.Regex
