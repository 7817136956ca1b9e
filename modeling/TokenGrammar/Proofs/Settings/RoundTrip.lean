import TokenGrammar.Proofs.Json.Values
import TokenGrammar.Settings

/-! # Settings that are written and read

Definitions are written without a mark of their kind, and a reader tells the kinds apart by their
shape. No setting is taken for another one in this way.

* `Settings.definitionOfJson?_definitionToJson`: the shape of a definition shows its kind.
* `Settings.readDefinitions_written`, `Settings.foldMembers_members`: a list of definitions and the
  members of settings are read back.
* `Settings.ofText_render`: settings are read back. -/

namespace TokenGrammar.Settings

open Json (ReadError)
open Json.Reading

/-! ## Definitions -/

/-- The kind of a definition shows in its JSON form. -/
theorem definitionOfJson?_definitionToJson (definition : DefinitionSetting) :
    definitionOfJson? (definitionToJson definition) = some definition := by
  cases definition with
  | keyword text => rfl
  | literal name text => simp [definitionToJson, definitionOfJson?, uniqueString?]
  | pattern name source => simp [definitionToJson, definitionOfJson?, uniqueString?]

/-- The JSON form of a definition has no numbers, and is flat. -/
theorem plain_definitionToJson (definition : DefinitionSetting) :
    Json.Plain definitionDepth (definitionToJson definition) := by
  have room : 1 < definitionDepth := by decide
  cases definition with
  | keyword text => exact .string _ text
  | literal name text | pattern name text =>
      refine .object room ?_
      simp only [List.forall_mem_cons, List.not_mem_nil, false_imp_iff, implies_true, and_true]
      exact ⟨.string _ _, .string _ _⟩

/-- A definition is read back. -/
theorem readDefinition_written (definition : DefinitionSetting) (rest : Input) :
    readDefinition (written (definitionToJson definition) ++ rest) = .ok (definition, rest) := by
  have read := value_written (plain_definitionToJson definition) rest
  have shown := definitionOfJson?_definitionToJson definition
  simp [readDefinition, read, shown, bind, Except.bind, pure, Except.pure]

/-- A list of definitions is read one by one. -/
theorem readDefinitions_bracket (rest : Input) :
    readDefinitions (some '[' :: rest) =
      foldItems (appendItem readDefinition) (rest.length + 1) true [] rest >>=
        fun read => (endList read.2).map fun remaining => (read.1, remaining) := by
  rfl

/-- A list of definitions is read back. -/
theorem readDefinitions_written (definitions : List DefinitionSetting) (rest : Input) :
    readDefinitions (written (.array (definitions.map definitionToJson)) ++ rest) =
      .ok (definitions, rest) := by
  have starts : ∀ definition ∈ definitions, ∃ c rest,
      (written ∘ definitionToJson) definition = some c :: rest ∧ StartsItem c :=
    fun definition _ => exists_written_eq_cons (plain_definitionToJson definition)
  have reads : ∀ definition ∈ definitions, ∀ rest,
      readDefinition ((written ∘ definitionToJson) definition ++ rest) =
        .ok (definition, rest) :=
    fun definition _ => readDefinition_written definition
  have folded := foldItems_written starts reads rest
  rw [written_array_append, List.map_map, readDefinitions_bracket, folded]
  simp [endList_cons, bind, Except.bind, Except.map]

/-! ## Members -/

variable {fields : Partial}

/-- A truth value is read back. -/
theorem boolean_written (value : Bool) (rest : Input) :
    boolean (written (.bool value) ++ rest) = .ok (value, rest) := by
  cases value <;> rfl

/-- A string is read back. -/
theorem text_inQuotes (string : String) (rest : Input) :
    text (inQuotes string ++ rest) = .ok (string, rest) := by
  rw [inQuotes_append]
  exact stringBody_quoted string rest

/-- Whether white space is kept is read back. -/
theorem readMember_keepWhitespace (missing : fields.keepWhitespace = none) (keep : Bool)
    (rest : Input) :
    readMember fields "keep_whitespace" (some ':' :: (written (.bool keep) ++ rest)) =
      .ok ({ fields with keepWhitespace := some keep }, rest) := by
  have read := boolean_written keep rest
  simp [readMember, missing, colon_cons, read, bind, Except.bind, pure, Except.pure]

/-- The pattern of white space is read back. -/
theorem readMember_whitespace (missing : fields.whitespace = none) (source : String)
    (rest : Input) :
    readMember fields "whitespace" (some ':' :: (written (.string source) ++ rest)) =
      .ok ({ fields with whitespace := some source }, rest) := by
  have read := text_inQuotes source rest
  rw [written_string]
  simp [readMember, missing, colon_cons, read, bind, Except.bind, pure, Except.pure]

/-- The definitions are read back. -/
theorem readMember_definitions (missing : fields.definitions = none)
    (definitions : List DefinitionSetting) (rest : Input) :
    readMember fields "definitions"
        (some ':' :: (written (.array (definitions.map definitionToJson)) ++ rest)) =
      .ok ({ fields with definitions := some definitions }, rest) := by
  have read := readDefinitions_written definitions rest
  simp only [readMember, colon_cons, bind, Except.bind, read]
  simp [missing, pure, Except.pure]

/-! ## Settings -/

/-- The members of settings. -/
def members (settings : Settings) : List (String × Json) :=
  [("keep_whitespace", .bool settings.keepWhitespace), ("whitespace", .string settings.whitespace),
    ("definitions", .array (settings.definitions.map definitionToJson))]

/-- The members of settings are read back, one after the other. -/
theorem foldMembers_members (settings : Settings) {bound : Nat}
    (enough : settings.members.length < bound) (rest : Input) :
    foldMembers readMember bound true .empty
        (separated true (settings.members.map writtenMember) ++ some '\x7d' :: rest) =
      .ok (⟨some settings.keepWhitespace, some settings.whitespace, some settings.definitions⟩,
        some '\x7d' :: rest) := by
  -- One step for each member, and one to see the closing brace.
  obtain ⟨bound, rfl⟩ : ∃ less, bound = less + 1 + 1 + 1 + 1 :=
    ⟨bound - 4, by simp only [members, List.length_cons, List.length_nil] at enough; omega⟩
  simp only [members, List.map_cons, List.map_nil, separated, writtenMember, List.append_assoc,
    List.cons_append, List.nil_append]
  rw [foldMembers_cons, readMember_keepWhitespace rfl]
  simp only [bind, Except.bind]
  rw [foldMembers_cons, readMember_whitespace rfl]
  simp only [bind, Except.bind]
  rw [foldMembers_cons, readMember_definitions rfl]
  simp only [bind, Except.bind]
  exact foldMembers_end readMember bound false _ rest

/-- An object of settings is read member by member. -/
theorem readValue_brace (rest : Input) :
    readValue (some '\x7b' :: rest) =
      foldMembers readMember (rest.length + 1) true .empty rest >>=
        fun read => (endObject read.2).map fun remaining => (read.1.complete, remaining) := by
  rfl

/-- Settings are read from their object. -/
theorem readValue_written (settings : Settings) (rest : Input) :
    readValue (written settings.toJson ++ rest) = .ok (settings, rest) := by
  have isObject : settings.toJson = .object settings.members := rfl
  have folded := foldMembers_members settings (length_lt_of_members settings.members rest) rest
  rw [isObject, written_object_append, readValue_brace, folded]
  simp [endObject_cons, Partial.complete, bind, Except.bind, Except.map]

/-- **Settings are read back.** The JSON text of any settings holds those settings: every definition
is of the kind that it was, with the strings that it had, and in its place. -/
theorem ofText_render (settings : Settings) : ofText settings.render = .ok settings := by
  have read := readValue_written settings []
  rw [List.append_nil, written] at read
  simp [ofText, Settings.read, render, read, skipSpace, bind, Except.bind, pure, Except.pure]

end TokenGrammar.Settings
