import TokenGrammar.Json.Reader
import TokenGrammar.Tokenizer

/-! # Settings of tokenizers

A tokenizer can be described by a JSON object: whether white space is kept, the pattern of white
space, and a list of definitions. A definition is a string, or an object with a name and either a
literal or a pattern.

* `Settings`, `DefinitionSetting`: the description.
* `Settings.toJson`, `Settings.render`: its JSON form.
* `Settings.read`, `Settings.ofText`: the description that a JSON text holds.
* `Settings.load`: the description that a file holds.
* `Tokenizer.ofSettings`: the tokenizer described. -/

namespace TokenGrammar

open Json (ReadError)
open Json.Reading (Input colon skipSpace)

/-- A definition as settings give it. -/
inductive DefinitionSetting where
  /-- Tokens of one text, which is also their name. -/
  | keyword (text : String)
  /-- Tokens of one text. -/
  | literal (name text : String)
  /-- Tokens that match a pattern. -/
  | pattern (name source : String)
  deriving DecidableEq

/-- The description of a tokenizer. -/
structure Settings where
  /-- Whether white space becomes tokens too. -/
  keepWhitespace : Bool
  /-- Pattern of white space where no definition gives another. -/
  whitespace : String
  /-- The definitions in order. -/
  definitions : List DefinitionSetting
  deriving DecidableEq

/-- The definition that a setting gives. -/
def DefinitionSetting.toDefinition : DefinitionSetting → Definition
  | .keyword text => .keyword text
  | .literal name text => .literal name text
  | .pattern name source => .regex name source

namespace Settings

/-- White space dropped, the usual pattern for it, and no definitions. -/
def default : Settings :=
  ⟨false, defaultWhitespace, []⟩

/-! ## Writing -/

/-- The JSON form of a definition. -/
def definitionToJson : DefinitionSetting → Json
  | .keyword text => .string text
  | .literal name text => .object [("name", .string name), ("literal", .string text)]
  | .pattern name source => .object [("name", .string name), ("pattern", .string source)]

/-- The JSON form of settings. -/
def toJson (settings : Settings) : Json :=
  .object [("keep_whitespace", .bool settings.keepWhitespace),
    ("whitespace", .string settings.whitespace),
    ("definitions", .array (settings.definitions.map definitionToJson))]

/-- The JSON text of settings. -/
def render (settings : Settings) : String :=
  settings.toJson.render

/-! ## Reading -/

/-- The string under a name that occurs once among the members of an object. -/
def uniqueString? (name : String) (members : List (String × Json)) : Option String :=
  match members.filter (·.1 == name) with
  | [(_, .string text)] => some text
  | _ => none

/-- The definition that a JSON value describes. An object is tried as a literal first. -/
def definitionOfJson? : Json → Option DefinitionSetting
  | .string text => some (.keyword text)
  | .object members => do
      let name ← uniqueString? "name" members
      ((uniqueString? "literal" members).map (.literal name)).or
        ((uniqueString? "pattern" members).map (.pattern name))
  | _ => none

/-- How many values may stand within a definition, itself included: the settings and the list of
definitions are around it. -/
def definitionDepth : Nat :=
  Json.Reading.recursionLimit - 2

/-- Read a definition. -/
def readDefinition (input : Input) : Except ReadError (DefinitionSetting × Input) := do
  let (value, rest) ← Json.Reading.value definitionDepth input
  match definitionOfJson? value with
  | some definition => pure (definition, rest)
  | none => throw (.noVariant "PatternConfig")

/-- Read a list of definitions. -/
def readDefinitions (input : Input) : Except ReadError (List DefinitionSetting × Input) :=
  match skipSpace input with
  | [] => .error .endInValue
  | some '[' :: rest => do
      let (definitions, remaining) ← Json.Reading.foldItems
        (fun definitions item => do
          let (definition, after) ← readDefinition item
          pure (definitions ++ [definition], after))
        (rest.length + 1) true [] rest
      pure (definitions, ← Json.Reading.endList remaining)
  | other => .error (Json.Reading.mismatch "a sequence" other)

/-- Settings of which some fields have been read. -/
structure Partial where
  /-- Whether white space is kept. -/
  keepWhitespace : Option Bool
  /-- Pattern of white space. -/
  whitespace : Option String
  /-- The definitions. -/
  definitions : Option (List DefinitionSetting)

/-- No fields. -/
def Partial.empty : Partial :=
  ⟨none, none, none⟩

/-- The settings, with the usual values of the fields that are missing. -/
def Partial.complete (fields : Partial) : Settings :=
  ⟨fields.keepWhitespace.getD default.keepWhitespace,
    fields.whitespace.getD default.whitespace,
    fields.definitions.getD default.definitions⟩

/-- Read the value of a member by its name. A known name may not occur twice, and what stands under
other names does not matter. -/
def readMember (fields : Partial) (name : String) (input : Input) :
    Except ReadError (Partial × Input) :=
  -- A second member of a known name is refused before its value is read.
  if name = "keep_whitespace" then do
    if fields.keepWhitespace.isSome then throw (.duplicateField name)
    let (keep, rest) ← Json.Reading.boolean (← colon input)
    pure ({ fields with keepWhitespace := some keep }, rest)
  else if name = "whitespace" then do
    if fields.whitespace.isSome then throw (.duplicateField name)
    let (source, rest) ← Json.Reading.text (← colon input)
    pure ({ fields with whitespace := some source }, rest)
  else if name = "definitions" then do
    if fields.definitions.isSome then throw (.duplicateField name)
    let (definitions, rest) ← readDefinitions (← colon input)
    pure ({ fields with definitions := some definitions }, rest)
  else do
    pure (fields, ← Json.Reading.skipValue (← colon input))

/-- Read an item of a list, if there is one left. -/
def readItem {α : Type} (first : Bool)
    (reader : Input → Except ReadError (α × Input)) (input : Input) :
    Except ReadError (Option α × Input) := do
  match ← Json.Reading.nextItem? first input with
  | none => pure (none, input)
  | some item =>
      let (value, rest) ← reader item
      pure (some value, rest)

/-- Read the fields in order from a list, after its opening bracket. Fields may be missing at the
end. -/
def readFields (input : Input) : Except ReadError (Partial × Input) := do
  let (keep, rest) ← readItem true Json.Reading.boolean input
  let (source, following) ← readItem keep.isNone Json.Reading.text rest
  let (definitions, remaining) ← readItem source.isNone readDefinitions following
  pure (⟨keep, source, definitions⟩, remaining)

/-- Read settings: an object, or a list of its fields in order. -/
def readValue (input : Input) : Except ReadError (Settings × Input) :=
  match skipSpace input with
  | [] => .error .endInValue
  | some '[' :: rest => do
      let (fields, remaining) ← readFields rest
      pure (fields.complete, ← Json.Reading.endList remaining)
  | some '\x7b' :: rest => do
      let (fields, remaining) ←
        Json.Reading.foldMembers readMember (rest.length + 1) true .empty rest
      pure (fields.complete, ← Json.Reading.endObject remaining)
  | other => .error (Json.Reading.mismatch "struct TokenizerConfig" other)

/-- The settings that a text holds, and nothing else. -/
def read (input : Input) : Except ReadError Settings := do
  let (settings, rest) ← readValue input
  match skipSpace rest with
  | [] => pure settings
  | _ :: _ => throw .trailingCharacters

/-- The settings that a text holds. -/
def ofText (text : String) : Except TokenizerError Settings :=
  match read (Json.Reading.inputOfText text) with
  | .ok settings => .ok settings
  | .error error => .error (.config error.message)

/-! ## Files -/

end Settings

/-- Why a file cannot be read. -/
inductive FileError where
  /-- There is no such file. -/
  | notFound
  /-- It is a directory. -/
  | isDirectory
  deriving DecidableEq

/-- The report. -/
def FileError.message : FileError → String
  | .notFound => "No such file or directory (os error 2)"
  | .isDirectory => "Is a directory (os error 21)"

namespace Settings

/-- The settings in a file, given its path and what reading it gave. -/
def load (path : String) (contents : Except FileError (List UInt8)) :
    Except TokenizerError Settings :=
  match contents with
  | .error error => .error (.config (path ++ ": " ++ error.message))
  | .ok bytes =>
      match read (Text.decodeUtf8 bytes) with
      | .ok settings => .ok settings
      | .error error => .error (.config (path ++ ": " ++ error.message))

end Settings

/-- The tokenizer that settings describe. The pattern of white space must be valid even where it is
not used. -/
def Tokenizer.ofSettings (settings : Settings) : Except TokenizerError Tokenizer := do
  (Definition.whitespace settings.whitespace).validate
  let start : Tokenizer :=
    { Tokenizer.empty with
      keepWhitespace := settings.keepWhitespace
      whitespaceSource := settings.whitespace }
  start.defineAll (settings.definitions.map DefinitionSetting.toDefinition)

end TokenGrammar
