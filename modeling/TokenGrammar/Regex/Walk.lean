import Std.Data.HashSet
import TokenGrammar.Regex.Thread

/-! # Walks through expressions

Many ways through an expression can lead through the same places, and a repetition whose body can
match the empty text could go round for ever. The walk through an expression therefore remembers the
pairs of a point in the expression and a place in the text where it has been, and does not go there
twice. What it finds the second time it has found before with preference, so nothing is lost.

* `Regex.Walk`: the points visited, and the threads that reached the end of the expression.
* `Regex.Expr.walk`: the walk through an expression, continued where the expression ends.
* `Regex.Expr.walkExits`: the threads that match an expression, the preferred first. -/

namespace TokenGrammar.Regex

/-- A point in an expression: the way to it from the root, the last step first. -/
abbrev Point := List Nat

/-- A walk in progress. -/
structure Walk where
  /-- Where it has been: places in the text with points in the expression. -/
  visited : Std.HashSet (Nat × Point)
  /-- The threads that reached the end of the expression, latest first. -/
  exits : List Thread

/-- What happens to a thread that reaches the end of an expression. -/
abbrev Continuation := Thread → Walk → Walk

namespace Walk

/-- Nowhere yet. -/
def start : Walk :=
  ⟨∅, []⟩

/-- Note that a thread reached the end. -/
def exit : Continuation := fun thread walk =>
  { walk with exits := thread :: walk.exits }

/-- Go on from a point, unless the walk has been there at this place of the text. -/
def visit (point : Point) (go : Continuation) : Continuation := fun thread walk =>
  if walk.visited.contains (thread.offset, point) then walk
  else go thread { walk with visited := walk.visited.insert (thread.offset, point) }

/-- Try two ways, the preferred one first: that is the first way if `greedy`. -/
def branch (greedy : Bool) (more less : Continuation) : Continuation := fun thread walk =>
  if greedy then less thread (more thread walk) else more thread (less thread walk)

/-- A body a fixed number of times. -/
def copies (body : Point → Continuation → Continuation) (point : Point) :
    Nat → Continuation → Continuation
  | 0, go => go
  | count + 1, go => body (count :: 0 :: point) (copies body point count go)

/-- A body up to a number of times. -/
def upTo (body : Point → Continuation → Continuation) (point : Point) (greedy : Bool) :
    Nat → Continuation → Continuation
  | 0, go => go
  | count + 1, go =>
      visit (count :: 1 :: point)
        (branch greedy (body (count :: 2 :: point) (upTo body point greedy count go)) go)

/-- A body at least once, and at most as often as there are places left in the text: each round
ends at a place where none has ended before. -/
def atLeastOnce (body : Point → Continuation → Continuation) (point : Point) (greedy : Bool) :
    (rounds : Nat) → Continuation → Continuation
  | 0, _ => fun _ walk => walk
  | rounds + 1, go =>
      body (3 :: point)
        (visit (4 :: point) (branch greedy (atLeastOnce body point greedy rounds go) go))

/-- A body any number of times, and at most as often as there are places left in the text. The
walk comes back to one and the same point before each round. -/
def anyNumber (body : Point → Continuation → Continuation) (point : Point) (greedy : Bool) :
    (rounds : Nat) → Continuation → Continuation
  | 0, _ => fun _ walk => walk
  | rounds + 1, go =>
      visit (4 :: point)
        (branch greedy (body (3 :: point) (anyNumber body point greedy rounds go)) go)

/-- A body without limit, after the least number of times. A body that may match the empty text
and need not occur is an optional body that occurs at least once: only so is the preferred match
found when a round goes nowhere. -/
def unlimited (body : Point → Continuation → Continuation) (point : Point) (greedy : Bool)
    (consuming : Bool) : (min : Nat) → Continuation → Continuation
  | 0, go => fun thread walk =>
      -- Each round but the first and the last ends at a place of its own.
      let rounds := thread.position.rest.length + 2
      if consuming then anyNumber body point greedy rounds go thread walk
      else
        visit (5 :: point) (branch greedy (atLeastOnce body point greedy rounds go) go) thread walk
  | min + 1, go =>
      copies body point min fun thread walk =>
        atLeastOnce body point greedy (thread.position.rest.length + 2) go thread walk

/-- A body as often as a repetition asks for. -/
def repetition (body : Point → Continuation → Continuation) (point : Point) (min : Nat)
    (max : Option Nat) (greedy consuming : Bool) (go : Continuation) : Continuation :=
  match max with
  | none => unlimited body point greedy consuming min go
  | some max => copies body point min (upTo body point greedy (max - min) go)

end Walk

namespace Expr

/-- The walk through an expression that stands at a point, continued where the expression ends.
Sequences, choices and the rounds of repetitions are remembered; from any other point the walk goes
straight on to one of these. -/
def walk (expr : Expr) (point : Point) (go : Continuation) : Continuation :=
  match expr with
  | .empty => go
  | .set members => fun thread walk =>
      match thread.accept? members with
      | some next => go next walk
      | none => walk
  | .assertion condition => fun thread walk =>
      if condition.holds thread.position then go thread walk else walk
  | .sequence first second =>
      Walk.visit point (walk first (0 :: point) (walk second (1 :: point) go))
  | .alternative first second =>
      Walk.visit point (Walk.branch true (walk first (0 :: point) go) (walk second (1 :: point) go))
  | .repetition min max greedy body =>
      Walk.repetition (fun inner => walk body inner) point min max greedy body.consumes go
  | .capture index _ body => fun thread found =>
      walk body (0 :: point) (fun next => go (next.record index thread.offset)) thread found

/-- The threads that match an expression from a place, the preferred first. -/
def walkExits (expr : Expr) (thread : Thread) : List Thread :=
  (expr.walk [] Walk.exit thread .start).exits.reverse

end Expr

end TokenGrammar.Regex
