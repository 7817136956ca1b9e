import TokenGrammar.Element.Basic

/-! # Actions on nodes

A node rule hands the node it built to a chain of actions. Each action rewrites the node or rejects
it, and a rejection undoes the match of the rule.

* `Action`: a function from nodes to nodes that may reject.
* `Action.runAll`: a chain of actions, first to last, up to the first rejection.
* the actions that rename, reorder, wrap and veto nodes. -/

namespace TokenGrammar

/-- Why an action turned a node down. -/
structure Rejection where
  /-- The reason, for reports. -/
  reason : String
  deriving DecidableEq

/-- A step that rewrites a finished node or rejects it. -/
abbrev Action := Node → Except Rejection Node

namespace Action

/-- Run a chain of actions over a node, in order, up to the first rejection. -/
def runAll : List Action → Node → Except Rejection Node
  | [], node => .ok node
  | action :: actions, node =>
      match action node with
      | .ok next => runAll actions next
      | .error rejection => .error rejection

@[simp] theorem runAll_nil (node : Node) : runAll [] node = .ok node := rfl

@[simp] theorem runAll_cons (action : Action) (actions : List Action) (node : Node) :
    runAll (action :: actions) node = (action node).bind (runAll actions) := by
  simp only [runAll]
  cases action node <;> rfl

/-- Running a longer chain is running its two parts one after the other. -/
theorem runAll_append (first second : List Action) (node : Node) :
    runAll (first ++ second) node = (runAll first node).bind (runAll second) := by
  induction first generalizing node with
  | nil => rfl
  | cons action actions induction =>
      simp only [List.cons_append, runAll_cons]
      cases action node with
      | ok next => exact induction next
      | error rejection => rfl

/-- Give the node another name. -/
def rename (name : String) : Action :=
  fun node => .ok { node with name := name }

/-- Reverse the children. -/
def reverse : Action :=
  fun node => .ok { node with children := node.children.reverse }

/-- Drop the first child, if there is one. -/
def dropFirst : Action :=
  fun node => .ok { node with children := node.children.drop 1 }

/-- Drop every child. -/
def clear : Action :=
  fun node => .ok { node with children := [] }

/-- Put the node alone under a new one. -/
def wrap (name : String) : Action :=
  fun node => .ok ⟨name, [node.toElement]⟩

/-- Turn every node down. -/
def reject (reason : String) : Action :=
  fun _ => .error ⟨reason⟩

/-- Turn down the nodes that satisfy a condition. -/
def rejectIf (condition : Node → Bool) (reason : String) : Action :=
  fun node => if condition node then .error ⟨reason⟩ else .ok node

/-- Turn down nodes with a given name. -/
def rejectNamed (name : String) : Action :=
  rejectIf (·.name == name) "name"

/-- Turn down nodes with more than a given number of children. -/
def rejectMore (limit : Nat) : Action :=
  rejectIf (limit < ·.children.length) "children"

/-- Turn down nodes with a child that renders as a given text. -/
def rejectText (text : String) : Action :=
  rejectIf (·.children.any (·.render == text)) "text"

end Action

end TokenGrammar
