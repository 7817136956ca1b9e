import TokenGrammar.Json.Value
import TokenGrammar.ParseState

/-! # Forests as JSON

A token is an object of its name, text and position, a node one of its name and children, so the
two are told apart by their keys.

* `Element.toJson`, `Element.forestToJson`: the JSON form of an element and of a forest.
* `ParseState.toJson`: the JSON form of a parse state. -/

namespace TokenGrammar

/-- The JSON form of a token. -/
def Token.toJson (token : Token) : Json :=
  .object [("name", .string token.name), ("text", .string token.text),
    ("position", .ofNat token.position)]

namespace Element

mutual

/-- The JSON form of an element. -/
def toJson : Element → Json
  | .leaf token => token.toJson
  | .node name children =>
      .object [("name", .string name), ("children", .array (listToJson children))]

/-- The JSON forms of the elements of a forest. -/
def listToJson : List Element → List Json
  | [] => []
  | element :: elements => toJson element :: listToJson elements

end

/-- The JSON form of a forest. -/
def forestToJson (forest : List Element) : Json :=
  .array (listToJson forest)

end Element

/-- The JSON form of a cut marker. -/
def CutMarker.toJson (marker : CutMarker) : Json :=
  .object [("label", .string marker.label), ("cursor", .ofNat marker.cursor)]

/-- The JSON form of a parse state. -/
def ParseState.toJson (state : ParseState) : Json :=
  .object [("tokens", .array (state.tokens.map Token.toJson)), ("cursor", .ofNat state.cursor),
    ("stack", Element.forestToJson state.stack),
    ("cut", (state.cut.map CutMarker.toJson).getD .null)]

end TokenGrammar
