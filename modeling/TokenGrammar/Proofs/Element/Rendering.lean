import TokenGrammar.Element.Basic
import TokenGrammar.Proofs.Text.Breaks

/-! # Trees and their s-expressions

An s-expression has no escapes, and a token is written as its bare text, which may be empty. Still
the tree can be read off, as long as spaces and parentheses stand for themselves: a space comes
before each child and nowhere else, so even an empty text has its place.

* `Element.words`, `Element.Wordy`: the names and texts in a tree, and trees where they are words.
* `Element.outline`: a tree without what an s-expression leaves out.
* `Element.render_append_inj`: an s-expression tells where it ends, whatever follows.
* `Element.render_eq_iff`: an s-expression tells the outline of a tree, and no more. -/

namespace TokenGrammar.Element

open Text (Breaks breaks_cons breaks_nil append_inj_of_breaks)

/-- Whether a tree or a word goes on with a character: anything but a space and what closes a
node. -/
def goesOn (c : Char) : Bool :=
  c != ' ' && c != ')'

/-- Whether a text has no space and no parenthesis. -/
def IsWord (text : String) : Prop :=
  ∀ c ∈ text.toList, c ≠ ' ' ∧ c ≠ '(' ∧ c ≠ ')'

instance (text : String) : Decidable (IsWord text) :=
  List.decidableBAll (fun c => c ≠ ' ' ∧ c ≠ '(' ∧ c ≠ ')') text.toList

mutual

/-- The names of nodes and the texts of tokens in a tree. -/
def words : Element → List String
  | .leaf token => [token.text]
  | .node name children => name :: wordsAll children

/-- The names of nodes and the texts of tokens in a forest. -/
def wordsAll : List Element → List String
  | [] => []
  | element :: elements => words element ++ wordsAll elements

end

/-- Whether the names of nodes and the texts of tokens in a tree have no space and no
parenthesis. -/
def Wordy (element : Element) : Prop :=
  ∀ text ∈ element.words, IsWord text

/-- Whether the names of nodes and the texts of tokens in a forest have no space and no
parenthesis. -/
def WordyAll (elements : List Element) : Prop :=
  ∀ text ∈ wordsAll elements, IsWord text

instance (element : Element) : Decidable element.Wordy :=
  inferInstanceAs (Decidable (∀ text ∈ element.words, IsWord text))

theorem wordy_leaf {token : Token} : (leaf token).Wordy ↔ IsWord token.text :=
  List.forall_mem_singleton

theorem wordy_node {name : String} {children : List Element} :
    (node name children).Wordy ↔ IsWord name ∧ WordyAll children :=
  List.forall_mem_cons

theorem wordyAll_cons {element : Element} {elements : List Element} :
    WordyAll (element :: elements) ↔ element.Wordy ∧ WordyAll elements :=
  List.forall_mem_append

mutual

/-- A tree without the names and positions of its tokens. -/
def outline : Element → Element
  | .leaf token => .leaf ⟨"", token.text, 0⟩
  | .node name children => .node name (outlineAll children)

/-- A forest without the names and positions of its tokens. -/
def outlineAll : List Element → List Element
  | [] => []
  | element :: elements => outline element :: outlineAll elements

end

/-! ## What is left out -/

mutual

/-- The names and positions of tokens do not show in an s-expression. -/
theorem render_outline : (element : Element) → element.outline.render = element.render
  | .leaf token => rfl
  | .node name children => by
      rw [outline, render_node, render_node, renderChildren_outlineAll children]

/-- Nor do they show in the s-expressions of children. -/
theorem renderChildren_outlineAll : (elements : List Element) →
    renderChildren (outlineAll elements) = renderChildren elements
  | [] => rfl
  | element :: elements => by
      rw [outlineAll, renderChildren_cons, renderChildren_cons, render_outline element,
        renderChildren_outlineAll elements]

end

/-! ## What is told -/

/-- The characters of a word go on with it. -/
theorem IsWord.goesOn {text : String} (isWord : IsWord text) :
    ∀ c ∈ text.toList, goesOn c = true := by
  intro c member
  obtain ⟨space, -, closing⟩ := isWord c member
  simp [Element.goesOn, space, closing]

/-- A node starts with a parenthesis and its name, and ends with a parenthesis. -/
theorem toList_render_node_append (name : String) (children : List Element) (rest : List Char) :
    (render (.node name children)).toList ++ rest =
      '(' :: (name.toList ++ ((renderChildren children).toList ++ ')' :: rest)) := by
  simp

/-- Before each child there is a space. -/
theorem toList_renderChildren_cons_append (child : Element) (children : List Element)
    (rest : List Char) :
    (renderChildren (child :: children)).toList ++ rest =
      ' ' :: ((render child).toList ++ ((renderChildren children).toList ++ rest)) := by
  simp

/-- What follows the name of a node, or one of its children, does not go on with it. -/
theorem breaks_renderChildren (children : List Element) (rest : List Char) :
    Breaks goesOn ((renderChildren children).toList ++ ')' :: rest) := by
  cases children with
  | nil => exact breaks_cons.mpr rfl
  | cons child children =>
      rw [toList_renderChildren_cons_append]
      exact breaks_cons.mpr rfl

/-- A word and what follows it do not look like a node. -/
theorem append_ne_parenthesis {text : String} (isWord : IsWord text) {rest other : List Char}
    (breaks : Breaks goesOn rest) : text.toList ++ rest ≠ '(' :: other := by
  intro same
  cases letters : text.toList with
  | nil =>
      rw [letters, List.nil_append] at same
      rw [same, breaks_cons] at breaks
      exact absurd breaks (by decide)
  | cons c word =>
      rw [letters, List.cons_append] at same
      have first : c ∈ text.toList := by
        rw [letters]
        exact List.mem_cons_self
      exact (isWord c first).2.1 (List.cons.inj same).1

mutual

/-- **An s-expression tells where it ends.** Two texts that are the same and start with
s-expressions of trees start with the same one. -/
theorem render_append_inj : (left right : Element) → left.Wordy → right.Wordy →
    ∀ rest other : List Char, Breaks goesOn rest → Breaks goesOn other →
      left.render.toList ++ rest = right.render.toList ++ other →
        left.outline = right.outline ∧ rest = other
  | .leaf token, .leaf token', wordy, wordyToo => by
      intro rest other breaks breaksToo same
      obtain ⟨texts, rests⟩ := append_inj_of_breaks (wordy_leaf.mp wordy).goesOn
        (wordy_leaf.mp wordyToo).goesOn breaks breaksToo same
      refine ⟨?_, rests⟩
      rw [outline, outline, String.toList_inj.mp texts]
  | .leaf token, .node name' children', wordy, _ => by
      intro rest other breaks _ same
      rw [toList_render_node_append] at same
      exact absurd same (append_ne_parenthesis (wordy_leaf.mp wordy) breaks)
  | .node name children, .leaf token', _, wordyToo => by
      intro rest other _ breaksToo same
      rw [toList_render_node_append] at same
      exact absurd same.symm (append_ne_parenthesis (wordy_leaf.mp wordyToo) breaksToo)
  | .node name children, .node name' children', wordy, wordyToo => by
      intro rest other _ _ same
      obtain ⟨isWord, wordyAll⟩ := wordy_node.mp wordy
      obtain ⟨isWordToo, wordyAllToo⟩ := wordy_node.mp wordyToo
      rw [toList_render_node_append, toList_render_node_append] at same
      -- The name ends where the first child or the end of the node begins.
      obtain ⟨names, inner⟩ := append_inj_of_breaks isWord.goesOn isWordToo.goesOn
        (breaks_renderChildren children rest) (breaks_renderChildren children' other)
        (List.cons.inj same).2
      obtain ⟨outlines, rests⟩ :=
        renderChildren_append_inj children children' wordyAll wordyAllToo _ _ inner
      refine ⟨?_, rests⟩
      rw [outline, outline, String.toList_inj.mp names, outlines]

/-- The s-expressions of children tell where they end, up to the parenthesis that closes them. -/
theorem renderChildren_append_inj : (lefts rights : List Element) → WordyAll lefts →
    WordyAll rights → ∀ rest other : List Char,
      (renderChildren lefts).toList ++ ')' :: rest =
          (renderChildren rights).toList ++ ')' :: other →
        outlineAll lefts = outlineAll rights ∧ rest = other
  | [], [], _, _ => fun _ _ same => ⟨rfl, (List.cons.inj same).2⟩
  | [], right :: rights, _, _ => by
      intro rest other same
      rw [toList_renderChildren_cons_append] at same
      exact absurd (List.cons.inj same).1 (by decide)
  | left :: lefts, [], _, _ => by
      intro rest other same
      rw [toList_renderChildren_cons_append] at same
      exact absurd (List.cons.inj same).1 (by decide)
  | left :: lefts, right :: rights, wordyCons, wordyConsToo => by
      intro rest other same
      obtain ⟨wordy, wordyAll⟩ := wordyAll_cons.mp wordyCons
      obtain ⟨wordyToo, wordyAllToo⟩ := wordyAll_cons.mp wordyConsToo
      rw [toList_renderChildren_cons_append, toList_renderChildren_cons_append] at same
      obtain ⟨heads, following⟩ := render_append_inj left right wordy wordyToo _ _
        (breaks_renderChildren lefts rest) (breaks_renderChildren rights other)
        (List.cons.inj same).2
      obtain ⟨tails, rests⟩ :=
        renderChildren_append_inj lefts rights wordyAll wordyAllToo _ _ following
      refine ⟨?_, rests⟩
      rw [outlineAll, outlineAll, heads, tails]

end

/-- **An s-expression tells the outline of a tree, and no more.** Trees whose names and texts have
no space and no parenthesis have the same s-expression just if they have the same nodes with the
same names, and tokens of the same texts in the same places. -/
theorem render_eq_iff {left right : Element} (wordy : left.Wordy) (wordyToo : right.Wordy) :
    left.render = right.render ↔ left.outline = right.outline := by
  constructor
  · intro same
    have texts : left.render.toList ++ [] = right.render.toList ++ [] := by rw [same]
    exact (render_append_inj left right wordy wordyToo [] [] breaks_nil breaks_nil texts).1
  · intro same
    rw [← render_outline left, ← render_outline right, same]

/-- No two of these have the same s-expression: a node without children, one with an empty text, one
with two of them, a node in a node, nodes side by side and within each other, and a text. -/
theorem render_eq_iff_look_alikes :
    let blank : Element := .leaf ⟨"blank", "", 0⟩
    let trees : List Element := [.node "a" [], .node "a" [blank], .node "a" [blank, blank],
      .node "a" [.node "a" []], .node "a" [.node "b" [], .node "c" []],
      .node "a" [.node "b" [.node "c" []]], .leaf ⟨"letter", "a", 0⟩, blank, .node "" []]
    (∀ tree ∈ trees, tree.Wordy) ∧
      trees.Pairwise (fun left right => left.render ≠ right.render) ∧
      (leaf ⟨"letter", "a", 0⟩).render = (leaf ⟨"word", "a", 7⟩).render := by
  intro blank trees
  have wordy : ∀ tree ∈ trees, tree.Wordy := by decide
  have outlines : trees.Pairwise (fun left right => left.outline ≠ right.outline) := by decide
  refine ⟨wordy, outlines.imp_of_mem ?_, ?_⟩
  · intro left right member memberToo differ same
    exact differ ((render_eq_iff (wordy left member) (wordy right memberToo)).mp same)
  · exact (render_eq_iff (by decide) (by decide)).mpr rfl

end TokenGrammar.Element
