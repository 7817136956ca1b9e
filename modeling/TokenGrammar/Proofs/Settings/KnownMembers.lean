import TokenGrammar.Proofs.Settings.Rewording

/-! # Texts of the same settings

Settings depend on the known members of their text only.

* `Settings.Document.IsOf`: a text as a document.
* `Settings.exists_site`: every definition stands at a place of its own.
* `Settings.KnownMembersOnly`, `Settings.ofText_of_rewordings`: texts in other words hold the same
  settings. -/

namespace TokenGrammar.Settings

open Json.Layout
open Json.Reading
open Text (breaks_nil)

variable {settings : Settings} {members : List Member}

/-! ## Definitions in their places -/

/-- Whether a text is that of an object of settings. -/
def Document.IsOf (document : Document) (text : String) : Prop :=
  document.WellFormed ∧ inputOfText text = document.text

/-- Whether a text has the form of a definition: a string or an object. -/
def HasForm (written : Input) : DefinitionSetting → Prop
  | .keyword text => IsStringOf written text
  | _ => ∃ members closing, (∀ member ∈ members, member.WellFormed) ∧ Blank closing ∧
      written = objectText members closing

/-- What is read as a definition has the form of one. -/
theorem hasForm_of_reads {written' : Input} {definition : DefinitionSetting}
    (isValue : IsValue written') (reads : Reads readDefinition written' definition) :
    HasForm written' definition := by
  obtain ⟨json, readsValue, isDefinition⟩ := (reads_readDefinition_iff isValue).mp reads
  -- Each kind of value is read as one of that kind, and only two kinds have the shape of a
  -- definition.
  cases isValue with
  | null =>
      have isNull : Reads (value definitionDepth) (written .null) .null := fun _ _ => rfl
      obtain rfl := readsValue.unique isNull
      cases isDefinition
  | bool truth =>
      have isTruth : Reads (value definitionDepth) (written (.bool truth)) (.bool truth) := by
        intro rest _
        cases truth <;> rfl
      obtain rfl := readsValue.unique isTruth
      cases isDefinition
  | number isNumber =>
      obtain ⟨literal, rfl⟩ := isNumber_of_reads isNumber readsValue
      cases isDefinition
  | string isString =>
      obtain ⟨string, isStringOf⟩ := isStringOf_of_reads isString readsValue
      obtain rfl := readsValue.unique (reads_string isStringOf _)
      obtain rfl : DefinitionSetting.keyword string = definition := Option.some.inj isDefinition
      exact isStringOf
  | @list items closing spaced values blank =>
      obtain ⟨jsons, rfl⟩ := isArray_of_reads readsValue
      cases isDefinition
  | @object members closing spaced values blank =>
      have formed : ∀ member ∈ members, member.WellFormed :=
        fun member among => ⟨spaced member among, values member among⟩
      obtain ⟨-, entries, rfl, -⟩ := (reads_objectText_iff formed blank).mp readsValue
      cases definition with
      | keyword text => exact absurd isDefinition (definitionOfJson?_object_ne_keyword entries text)
      | literal | pattern => exact ⟨members, closing, formed, blank, rfl⟩

/-- Settings are read from the characters of a text. -/
theorem ofText_eq_ok_iff {text : String} :
    ofText text = .ok settings ↔ read (inputOfText text) = .ok settings := by
  rw [ofText]
  cases read (inputOfText text) <;> simp

/-- Settings are read from a text of their object. -/
theorem Document.IsOf.ofText_eq_ok_iff {document : Document} {text : String}
    (isOf : document.IsOf text) :
    ofText text = .ok settings ↔ Accepted document.members settings := by
  rw [Settings.ofText_eq_ok_iff, isOf.2, read_text_eq_ok_iff isOf.1]

/-- Every definition stands at a place of its own. -/
theorem exists_site (formed : ∀ member ∈ members, member.WellFormed)
    (accepted : Accepted members settings) {index : Nat} {definition : DefinitionSetting}
    (isDefinition : settings.definitions[index]? = some definition) :
    ∃ (site : Site) (written : Input), site.WellFormed ∧ site.index = index ∧
      members = site.members written ∧ HasForm written definition := by
  by_cases missing : ∀ other ∈ members, ¬other.Named "definitions"
  · obtain ⟨contributions, final, each, gathered, rfl⟩ := accepted
    have absent := (definitions_eq_none_iff each gathered).mpr missing
    simp [Partial.complete, absent, default] at isDefinition
  · obtain ⟨member, among, named⟩ : ∃ member ∈ members, member.Named "definitions" := by
      simpa using missing
    obtain ⟨earlier, later, rfl⟩ := List.append_of_mem among
    obtain ⟨reads, -, -⟩ := (accepted_cons_definitions_iff named).mp
      (accepted.of_perm List.perm_middle.symm)
    -- The definitions and the items of the list go together, also before and behind the place.
    obtain ⟨items, closing, formedItems, blank, isList⟩ :=
      isList_of_readDefinitions (formed member among).value (reads [] breaks_nil)
    rw [isList, reads_readDefinitions_iff formedItems blank] at reads
    obtain ⟨inside, isElement⟩ := List.getElem?_eq_some_iff.mp isDefinition
    rw [← List.take_append_drop index settings.definitions, List.drop_eq_getElem_cons inside,
      isElement] at reads
    obtain ⟨before, item, after, rfl, eachBefore, readsItem, -⟩ :=
      forall₂_append_cons_iff.mp reads.flip
    have formedItem := formedItems item (List.mem_append_right _ List.mem_cons_self)
    refine ⟨⟨earlier, member, before, item, after, closing, later⟩, item.value, ?_, ?_, ?_, ?_⟩
    · exact ⟨named, fun other among => formedItems other (List.mem_append_left _ among),
        formedItem.spaced, fun other among => formedItems other
          (List.mem_append_right _ (List.mem_cons_of_mem _ among)), blank⟩
    · have length := eachBefore.length_eq
      rw [List.length_take] at length
      simp only [Site.index]
      omega
    · simp only [Site.members, Site.definitions, Site.items, ← isList]
    · exact hasForm_of_reads formedItem.value readsItem

/-- An object with strings for the name, the text and the pattern that is accepted as a definition
is accepted as a literal. -/
theorem isLiteral_of_hasAllStrings {site : Site} (wellFormed : site.WellFormed)
    {closing : Input} {name text : String} (formed : ∀ member ∈ members, member.WellFormed)
    (blank : Blank closing) (hasAll : HasAllStrings members name text)
    (accepted : Accepted (site.members (objectText members closing)) settings) :
    settings.definitions[site.index]? = some (.literal name text) := by
  obtain ⟨found, isFound, reads, -⟩ :=
    accepted.exchange wellFormed (isValue_objectText formed blank)
  obtain ⟨entries, each, isDefinition⟩ :=
    (reads_readDefinition_objectText_iff formed blank).mp reads
  rw [isFound, ← isDefinition, definitionOfJson?_of_hasAllStrings hasAll each]

/-- Whether settings depend on the known members of a text only. -/
structure KnownMembersOnly (document : Document) (settings : Settings) : Prop where
  /-- Every definition stands at a place of its own, as a string or as an object. -/
  places : ∀ index definition, settings.definitions[index]? = some definition →
    ∃ (site : Site) (written : Input), site.WellFormed ∧ site.index = index ∧
      document.members = site.members written ∧ HasForm written definition
  /-- The texts in other words hold the same settings. -/
  rewordings : ∀ (document' : Document) (text : String), document'.IsOf text →
    Relation.ReflTransGen (Rewording settings) document.members document'.members →
      ofText text = .ok settings
  /-- An object with strings for the name, the text and the pattern of a definition is a literal. -/
  literals : ∀ (site : Site) (members : List Member) (closing : Input) (name literal : String),
    site.WellFormed → (∀ member ∈ members, member.WellFormed) → Blank closing →
      HasAllStrings members name literal →
        document.members = site.members (objectText members closing) →
          settings.definitions[site.index]? = some (.literal name literal)
  /-- Such an object is accepted in the place of every definition, if what it has under other names
  can be read. -/
  literalsInstead : ∀ (site : Site) (definition : Input) (members : List Member) (closing : Input)
    (name literal : String), site.WellFormed → IsValue definition →
      document.members = site.members definition → (∀ member ∈ members, member.WellFormed) →
        Blank closing → HasAllStrings members name literal →
          (∀ member ∈ members, (∃ name ∉ definitionNames, member.Named name) →
            ∃ json, Reads (value (definitionDepth - 1)) member.value json) →
            ∀ (document' : Document) (text : String), document'.IsOf text →
              document'.members = site.members (objectText members closing) →
                ofText text = .ok { settings with
                  definitions := settings.definitions.set site.index (.literal name literal) }

/-! ## Settings with one definition -/

/-- A member with a string as its value, without blanks. -/
def stringMember (name string : String) : Member :=
  ⟨[], inQuotes name, [], [], inQuotes string, []⟩

/-- Such a member has its name. -/
theorem stringMember_named (name string : String) : (stringMember name string).Named name :=
  isStringOf_inQuotes name

/-- Such a member has the right form. -/
theorem stringMember_wellFormed (name string : String) : (stringMember name string).WellFormed := by
  obtain ⟨body, spells, isName⟩ := isStringOf_inQuotes name
  have isValue := (IsScalar.string (isStringOf_inQuotes string)).isValue
  exact ⟨⟨blank_nil, ⟨body, spells.isBody, isName⟩, blank_nil, blank_nil, blank_nil⟩, isValue⟩

/-- The only definition of some settings. -/
def onlySite : Site :=
  ⟨[], stringMember "definitions" "", [], ⟨[], [], []⟩, [], [], []⟩

theorem onlySite_wellFormed : onlySite.WellFormed :=
  ⟨stringMember_named _ _, nofun, ⟨blank_nil, blank_nil⟩, nofun, blank_nil⟩

/-- Settings with an object as their only definition. -/
def onlyDocument (members : List Member) : Document :=
  ⟨[], onlySite.members (objectText members []), [], []⟩

theorem onlyDocument_wellFormed {members : List Member}
    (formed : ∀ member ∈ members, member.WellFormed) : (onlyDocument members).WellFormed := by
  have formedItem : ∀ item ∈ onlySite.items (objectText members []), item.WellFormed := by
    intro item among
    obtain rfl := List.mem_singleton.mp among
    exact ⟨⟨blank_nil, blank_nil⟩, isValue_objectText formed blank_nil⟩
  refine ⟨blank_nil, ?_, blank_nil, blank_nil⟩
  intro member among
  obtain rfl := List.mem_singleton.mp among
  have spaced := (stringMember_wellFormed "definitions" "").spaced
  exact ⟨⟨spaced.beforeName, spaced.name, spaced.afterName, spaced.beforeValue, spaced.after⟩,
    isValue_listText formedItem blank_nil⟩

/-! ## Texts in other words -/

/-- **Settings depend on the known members of their text only.** The text of an object that is
accepted can be taken apart into members, and with these in other words it is accepted as the same
settings. -/
theorem ofText_of_rewordings {text : String} (accepted : ofText text = .ok settings)
    (opens : startsWith '\x7b' (skipSpace (inputOfText text)) = true) :
    (∃ document : Document, document.IsOf text) ∧
      ∀ document : Document, document.IsOf text → KnownMembersOnly document settings := by
  constructor
  · obtain ⟨document, wellFormed, isText⟩ :=
      exists_document_of_read (ofText_eq_ok_iff.mp accepted) opens
    exact ⟨document, wellFormed, isText⟩
  intro document isOf
  have given := isOf.ofText_eq_ok_iff.mp accepted
  refine ⟨fun index definition => exists_site isOf.1.members given, ?_, ?_, ?_⟩
  · intro document' text' isOf' reworded
    exact isOf'.ofText_eq_ok_iff.mpr (accepted_of_rewordings reworded given)
  · intro site members closing name literal wellFormed formed blank hasAll isMembers
    exact isLiteral_of_hasAllStrings wellFormed formed blank hasAll (isMembers ▸ given)
  · intro site definition members closing name literal wellFormed isValue isMembers formed blank
      hasAll readable document' text' isOf' isMembers'
    obtain ⟨-, -, -, exchange⟩ := (isMembers ▸ given).exchange wellFormed isValue
    rw [isOf'.ofText_eq_ok_iff, isMembers']
    exact exchange (isValue_objectText formed blank)
      (reads_readDefinition_of_hasAllStrings hasAll formed blank readable)

/-- A pattern can be added to a literal. -/
theorem ofText_literal_with_pattern :
    ofText "\x7b\"definitions\":[\x7b\"name\":\"plus\",\"literal\":\"+\"\x7d]\x7d" =
        .ok { default with definitions := [.literal "plus" "+"] } ∧
      ofText ("\x7b\"definitions\":" ++
          "[\x7b\"pattern\":\"p\",\"name\":\"plus\",\"literal\":\"+\"\x7d]\x7d") =
        .ok { default with definitions := [.literal "plus" "+"] } := by
  have accepted : ofText "\x7b\"definitions\":[\x7b\"name\":\"plus\",\"literal\":\"+\"\x7d]\x7d" =
      .ok { default with definitions := [.literal "plus" "+"] } := by rfl
  have formed : ∀ member ∈ [stringMember "name" "plus", stringMember "literal" "+"],
      member.WellFormed := by
    simp [stringMember_wellFormed]
  have formed' := List.forall_mem_cons.mpr ⟨stringMember_wellFormed "pattern" "p", formed⟩
  have known := (ofText_of_rewordings accepted (by rfl)).2 (onlyDocument _)
    ⟨onlyDocument_wellFormed formed, by rfl⟩
  refine ⟨accepted, known.rewordings (onlyDocument _) _ ⟨onlyDocument_wellFormed formed', by rfl⟩
    (.single ?_)⟩
  exact .definition onlySite_wellFormed rfl (.patternAdded rfl (stringMember_named "pattern" "p")
    (isStringOf_inQuotes "p") (.refl _)) formed formed' blank_nil blank_nil

end TokenGrammar.Settings
