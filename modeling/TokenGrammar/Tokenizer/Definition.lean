import TokenGrammar.Regex.Elaboration
import TokenGrammar.Regex.Footprint
import TokenGrammar.Tokenizer.Error

/-! # Definitions of tokens

* `Definition`: a name with the pattern of the tokens that go by it.
* `Definition.keyword`, `Definition.literal`, `Definition.regex`: the three kinds.
* `Definition.validate`: what a definition must satisfy on its own. -/

namespace TokenGrammar

/-- The name of the definition whose tokens are dropped. -/
def whitespaceName : String :=
  "whitespace"

/-- The pattern of white space where no definition gives another. -/
def defaultWhitespace : String :=
  "\\s+"

/-- A name with the pattern of the tokens that go by it. -/
structure Definition where
  /-- Name of the tokens. -/
  name : String
  /-- Pattern of the tokens. -/
  source : String
  deriving DecidableEq

/-- The pattern that matches a text and nothing else. -/
def escapePattern (text : String) : String :=
  .ofList (text.toList.flatMap fun c => if Regex.isMeta c then ['\\', c] else [c])

namespace Definition

/-- Tokens of one text, which is also their name. -/
def keyword (text : String) : Definition :=
  ⟨text, escapePattern text⟩

/-- Tokens of one text. -/
def literal (name text : String) : Definition :=
  ⟨name, escapePattern text⟩

/-- Tokens that match a pattern. -/
def regex (name source : String) : Definition :=
  ⟨name, source⟩

/-- The definition of white space by a pattern. -/
def whitespace (source : String) : Definition :=
  ⟨whitespaceName, source⟩

/-- Whether the tokens are white space. -/
def isWhitespace (definition : Definition) : Bool :=
  definition.name == whitespaceName

/-- What is wrong with a definition taken alone. -/
def fault? (definition : Definition) : Option PatternFault :=
  if definition.name = "" then some .emptyName
  else if definition.name = unknownName then some .reservedName
  else if definition.source = "" then some .emptySource
  else
    match Regex.Expr.ofText definition.source with
    | .ok expr => if expr.fits then none else some (.oversized Regex.sizeLimit)
    | .error error => some (.malformed error)

/-- Refuse a definition that is wrong taken alone. -/
def validate (definition : Definition) : Except TokenizerError Unit :=
  match definition.fault? with
  | none => .ok ()
  | some fault => .error (.invalidPattern definition.name fault)

/-- Whether nothing is wrong with a definition taken alone. -/
def Valid (definition : Definition) : Prop :=
  definition.fault? = none

instance (definition : Definition) : Decidable definition.Valid :=
  inferInstanceAs (Decidable (_ = none))

theorem validate_eq_ok_iff {definition : Definition} :
    definition.validate = .ok () ↔ definition.Valid := by
  unfold validate Valid
  cases definition.fault? <;> simp

end Definition

end TokenGrammar
