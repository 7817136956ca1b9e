import TokenGrammar.Element.Json
import TokenGrammar.Proofs.Json.Unambiguous

/-! # Forests and their JSON texts

The JSON form of an element does not say whether it is a token or a node. It need not: a token has a
text and a position, a node has children, and the members of an object show in its text.

* `Token.toJson_inj`, `Element.eq_of_toJson`: the JSON form holds the whole element.
* `Element.legible_toJson`: its numbers look like numbers.
* `Element.render_toJson_inj`: the JSON text holds the whole forest. -/

namespace TokenGrammar

open Json (Legible)

namespace Token

/-- The JSON form of a token holds the whole token. -/
theorem toJson_inj {token other : Token} : token.toJson = other.toJson ↔ token = other := by
  constructor
  · intro same
    simp only [toJson, Json.object.injEq, List.cons.injEq, Prod.mk.injEq, true_and, and_true,
      Json.string.injEq, Json.ofNat_inj] at same
    obtain ⟨names, texts, positions⟩ := same
    cases token
    cases other
    cases names
    cases texts
    cases positions
    rfl
  · exact congrArg toJson

/-- Its position looks like a number. -/
theorem legible_toJson (token : Token) : token.toJson.Legible := by
  refine .object ?_
  simp [Json.legible_ofNat, Legible.string]

end Token

namespace Element

/-- A token has a text where a node has children. -/
theorem toJson_leaf_ne_node (token : Token) (name : String) (children : List Element) :
    toJson (.leaf token) ≠ toJson (.node name children) := by
  simp [toJson, Token.toJson]

mutual

/-- The JSON form of an element holds the whole element. -/
theorem eq_of_toJson : (left right : Element) → left.toJson = right.toJson → left = right
  | .leaf token, .leaf other, same => congrArg leaf (Token.toJson_inj.mp same)
  | .leaf token, .node name children, same => absurd same (toJson_leaf_ne_node token name children)
  | .node name children, .leaf token, same =>
      absurd same.symm (toJson_leaf_ne_node token name children)
  | .node name children, .node name' children', same => by
      simp only [toJson, Json.object.injEq, List.cons.injEq, Prod.mk.injEq, true_and, and_true,
        Json.string.injEq, Json.array.injEq] at same
      obtain ⟨names, forests⟩ := same
      rw [names, eq_of_listToJson children children' forests]

/-- The JSON forms of the elements of a forest hold the whole forest. -/
theorem eq_of_listToJson : (lefts rights : List Element) →
    listToJson lefts = listToJson rights → lefts = rights
  | [], [], _ => rfl
  | [], _ :: _, same => nomatch same
  | _ :: _, [], same => nomatch same
  | left :: lefts, right :: rights, same => by
      obtain ⟨heads, tails⟩ := List.cons.inj same
      rw [eq_of_toJson left right heads, eq_of_listToJson lefts rights tails]

end

mutual

/-- The numbers in the JSON form of an element look like numbers. -/
theorem legible_toJson : (element : Element) → element.toJson.Legible
  | .leaf token => token.legible_toJson
  | .node name children => by
      refine .object ?_
      simp [Legible.string, Legible.array (legible_listToJson children)]

/-- The numbers in the JSON form of a forest look like numbers. -/
theorem legible_listToJson : (elements : List Element) →
    ∀ item ∈ listToJson elements, item.Legible
  | [] => nofun
  | element :: elements =>
      List.forall_mem_cons.mpr ⟨legible_toJson element, legible_listToJson elements⟩

end

/-- **The JSON text holds the whole forest.** Forests with the same text are the same, whatever
characters there are in their names and texts, and however deep their nodes are nested. So are
elements with the same text; and a token never has the text of a node. -/
theorem render_toJson_inj :
    (∀ left right : List Element,
      (forestToJson left).render = (forestToJson right).render ↔ left = right) ∧
      (∀ left right : Element, left.toJson.render = right.toJson.render ↔ left = right) ∧
      ∀ (token : Token) (name : String) (children : List Element),
        (toJson (.leaf token)).render ≠ (toJson (.node name children)).render := by
  refine ⟨?_, ?_, ?_⟩
  · intro left right
    rw [forestToJson, forestToJson,
      Json.render_inj (.array (legible_listToJson left)) (.array (legible_listToJson right))]
    constructor
    · intro same
      exact eq_of_listToJson left right (Json.array.inj same)
    · exact congrArg forestToJson
  · intro left right
    rw [Json.render_inj (legible_toJson left) (legible_toJson right)]
    constructor
    · exact eq_of_toJson left right
    · exact congrArg toJson
  · intro token name children same
    have forms := (Json.render_inj (legible_toJson _) (legible_toJson _)).mp same
    exact toJson_leaf_ne_node token name children forms

end Element

end TokenGrammar
