import TokenGrammar.Token

/-! # Elements of a syntax forest

A parse builds a forest whose leaves are tokens and whose inner nodes are named.

* `Element`: a token, or a named node over a list of elements.
* `Node`: the name and children of a node before it joins the forest.
* `Element.render`: the s-expression of an element.
* `Element.leaves`: the tokens of an element from left to right. -/

namespace TokenGrammar

/-- A tree over tokens: a leaf token, or a named node with its children in order. -/
inductive Element where
  /-- A leaf. -/
  | leaf (token : Token)
  /-- A named inner node. -/
  | node (name : String) (children : List Element)
  deriving Inhabited

/-- A node under construction: what actions inspect and change. -/
structure Node where
  /-- Name of the node. -/
  name : String
  /-- Children from left to right. -/
  children : List Element
  deriving Inhabited

/-- The element that a finished node becomes. -/
def Node.toElement (node : Node) : Element :=
  .node node.name node.children

namespace Element

/-- Name of the token or node. -/
def name : Element → String
  | .leaf token => token.name
  | .node name _ => name

/-- The token, if the element is a leaf. -/
def token? : Element → Option Token
  | .leaf token => some token
  | .node _ _ => none

/-- The node, if the element is not a leaf. -/
def node? : Element → Option Node
  | .leaf _ => none
  | .node name children => some ⟨name, children⟩

mutual

/-- Decide whether two elements are the same tree. -/
def decideEq : (left right : Element) → Decidable (left = right)
  | .leaf left, .leaf right =>
      if same : left = right then .isTrue (congrArg _ same)
      else .isFalse fun equal => same (Element.leaf.inj equal)
  | .leaf _, .node _ _ => .isFalse nofun
  | .node _ _, .leaf _ => .isFalse nofun
  | .node leftName leftChildren, .node rightName rightChildren =>
      if names : leftName = rightName then
        -- Names settle most comparisons without a look at the children.
        match decideEqList leftChildren rightChildren with
        | .isTrue children => .isTrue (by rw [names, children])
        | .isFalse differ => .isFalse fun equal => differ (Element.node.inj equal).2
      else .isFalse fun equal => names (Element.node.inj equal).1

/-- Decide whether two forests are the same. -/
def decideEqList : (left right : List Element) → Decidable (left = right)
  | [], [] => .isTrue rfl
  | [], _ :: _ => .isFalse nofun
  | _ :: _, [] => .isFalse nofun
  | left :: lefts, right :: rights =>
      match decideEq left right with
      | .isFalse differ => .isFalse fun equal => differ (List.cons.inj equal).1
      | .isTrue heads =>
          match decideEqList lefts rights with
          | .isTrue tails => .isTrue (by rw [heads, tails])
          | .isFalse differ => .isFalse fun equal => differ (List.cons.inj equal).2

end

instance : DecidableEq Element := decideEq

mutual

/-- The s-expression of an element: a token is its text, a node its name and children in
parentheses, each child after a space. -/
def render : Element → String
  | .leaf token => token.text
  | .node name children => "(" ++ name ++ renderChildren children ++ ")"

/-- The s-expressions of the children of a node, a space before each. -/
def renderChildren : List Element → String
  | [] => ""
  | child :: children => " " ++ render child ++ renderChildren children

end

mutual

/-- The tokens at the leaves, from left to right. -/
def leaves : Element → List Token
  | .leaf token => [token]
  | .node _ children => forestLeaves children

/-- The tokens at the leaves of a forest, from left to right. -/
def forestLeaves : List Element → List Token
  | [] => []
  | element :: elements => leaves element ++ forestLeaves elements

end

@[simp] theorem render_leaf (token : Token) : render (.leaf token) = token.text := rfl

@[simp] theorem render_node (name : String) (children : List Element) :
    render (.node name children) = "(" ++ name ++ renderChildren children ++ ")" := rfl

@[simp] theorem renderChildren_nil : renderChildren [] = "" := rfl

@[simp] theorem renderChildren_cons (child : Element) (children : List Element) :
    renderChildren (child :: children) = " " ++ render child ++ renderChildren children := rfl

@[simp] theorem leaves_leaf (token : Token) : leaves (.leaf token) = [token] := rfl

@[simp] theorem leaves_node (name : String) (children : List Element) :
    leaves (.node name children) = forestLeaves children := rfl

@[simp] theorem forestLeaves_nil : forestLeaves [] = [] := rfl

@[simp] theorem forestLeaves_cons (element : Element) (elements : List Element) :
    forestLeaves (element :: elements) = leaves element ++ forestLeaves elements := rfl

@[simp] theorem forestLeaves_append (left right : List Element) :
    forestLeaves (left ++ right) = forestLeaves left ++ forestLeaves right := by
  induction left with
  | nil => rfl
  | cons element elements induction => simp [induction]

end Element

end TokenGrammar
