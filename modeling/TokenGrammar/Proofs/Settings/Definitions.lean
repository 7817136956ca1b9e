import TokenGrammar.Proofs.Json.Coverage
import TokenGrammar.Proofs.Settings.RoundTrip

/-! # Definitions by their members

A definition is read from the names of its members and the strings under them. Neither the order of
the members matters nor what stands under other names, and a literal is a literal whatever pattern
stands beside it.

* `Settings.definitionOfJson?_perm`, `Settings.definitionOfJson?_cons`: the order of the members,
  and members with other names.
* `Settings.definitionOfJson?_eq_literal_iff`: where a definition is a literal.
* `Settings.reads_readDefinition_objectText_iff`: what is read as a definition, by its members.
* `Settings.readDefinitions_eq_ok_iff`: what is read as a list of definitions. -/

namespace TokenGrammar.Settings

open Json (ReadError)
open Json.Layout
open Json.Reading
open Text (Breaks breaks_nil)

/-! ## Members of a definition -/

/-- The names of the members that a definition is read from. -/
def definitionNames : List String :=
  ["name", "literal", "pattern"]

variable {name text : String} {entries entries' : List (String × Json)} {entry : String × Json}

/-- The string under a name is that of the only member with the name. -/
theorem uniqueString?_eq_some_iff :
    uniqueString? name entries = some text ↔
      entries.filter (·.1 == name) = [(name, .string text)] := by
  rw [uniqueString?]
  constructor
  · intro found
    split at found
    · rename_i other string only
      cases found
      have among : (other, Json.string text) ∈ entries.filter (·.1 == name) := by
        rw [only]
        exact List.mem_singleton_self _
      obtain rfl : other = name := by simpa using (List.mem_filter.mp among).2
      exact only
    · cases found
  · intro only
    rw [only]

/-- The order of the members does not matter to the string under a name. -/
theorem uniqueString?_perm (perm : entries.Perm entries') (name : String) :
    uniqueString? name entries = uniqueString? name entries' := by
  have same := perm.filter (·.1 == name)
  ext text
  rw [uniqueString?_eq_some_iff, uniqueString?_eq_some_iff]
  constructor
  · intro only
    rw [only] at same
    exact List.perm_singleton.mp same.symm
  · intro only
    rw [only] at same
    exact List.perm_singleton.mp same

/-- A member with another name does not matter to the string under a name. -/
theorem uniqueString?_cons (other : entry.1 ≠ name) :
    uniqueString? name (entry :: entries) = uniqueString? name entries := by
  have dropped : (entry :: entries).filter (·.1 == name) = entries.filter (·.1 == name) :=
    List.filter_cons_of_neg (by simpa using other)
  rw [uniqueString?, dropped, uniqueString?]

/-- The order of its members does not matter to a definition. -/
theorem definitionOfJson?_perm (perm : entries.Perm entries') :
    definitionOfJson? (.object entries) = definitionOfJson? (.object entries') := by
  simp only [definitionOfJson?, uniqueString?_perm perm]

/-- Members with other names do not matter to a definition. -/
theorem definitionOfJson?_cons (other : entry.1 ∉ definitionNames) :
    definitionOfJson? (.object (entry :: entries)) = definitionOfJson? (.object entries) := by
  have differs : ∀ name ∈ definitionNames, entry.1 ≠ name := by
    rintro name among rfl
    exact other among
  simp only [definitionOfJson?, uniqueString?_cons (differs "name" (by decide)),
    uniqueString?_cons (differs "literal" (by decide)),
    uniqueString?_cons (differs "pattern" (by decide))]

/-- **A definition is a literal** where there is one string each for the name and for the text,
whatever stands under the name of the pattern. -/
theorem definitionOfJson?_eq_literal_iff :
    definitionOfJson? (.object entries) = some (.literal name text) ↔
      uniqueString? "name" entries = some name ∧ uniqueString? "literal" entries = some text := by
  rw [definitionOfJson?]
  cases uniqueString? "name" entries with
  | none => simp
  | some found =>
      cases uniqueString? "literal" entries with
      | none => cases uniqueString? "pattern" entries <;> simp
      | some string => simp

/-- A literal stays one with a pattern beside it. -/
theorem definitionOfJson?_cons_pattern (isPattern : entry.1 = "pattern")
    (isLiteral : definitionOfJson? (.object entries) = some (.literal name text)) :
    definitionOfJson? (.object (entry :: entries)) = some (.literal name text) := by
  rw [definitionOfJson?_eq_literal_iff] at isLiteral ⊢
  have noName : entry.1 ≠ "name" := by
    rw [isPattern]
    decide
  have noLiteral : entry.1 ≠ "literal" := by
    rw [isPattern]
    decide
  rwa [uniqueString?_cons noName, uniqueString?_cons noLiteral]

/-- No keyword is read from an object. -/
theorem definitionOfJson?_object_ne_keyword (entries : List (String × Json)) (text : String) :
    definitionOfJson? (.object entries) ≠ some (.keyword text) := by
  rw [definitionOfJson?]
  cases uniqueString? "name" entries with
  | none => simp
  | some name =>
      cases uniqueString? "literal" entries <;> cases uniqueString? "pattern" entries <;> simp

/-! ## Texts of definitions -/

variable {input rest after : Input} {definition : DefinitionSetting}

/-- A definition is read as a value, and then by its shape. -/
theorem readDefinition_eq_ok_iff :
    readDefinition input = .ok (definition, after) ↔
      ∃ json, value definitionDepth input = .ok (json, after) ∧
        definitionOfJson? json = some definition := by
  rw [readDefinition, bind_eq_ok_iff]
  constructor
  · rintro ⟨⟨json, remaining⟩, read, shown⟩
    simp only at shown
    split at shown
    · rename_i found isDefinition
      cases shown
      exact ⟨json, read, isDefinition⟩
    · cases shown
  · rintro ⟨json, read, isDefinition⟩
    exact ⟨(json, after), read, by simp only [isDefinition]; rfl⟩

/-- What is read as a definition, whatever follows. -/
theorem reads_readDefinition_iff {source : Input} (isValue : IsValue source) :
    Reads readDefinition source definition ↔
      ∃ json, Reads (value definitionDepth) source json ∧
        definitionOfJson? json = some definition := by
  constructor
  · intro reads
    obtain ⟨json, read, isDefinition⟩ := readDefinition_eq_ok_iff.mp (reads [] breaks_nil)
    exact ⟨json, (value_readsAlone isValue _ _ _ _ breaks_nil read).2, isDefinition⟩
  · rintro ⟨json, reads, isDefinition⟩ rest breaks
    exact readDefinition_eq_ok_iff.mpr ⟨json, reads rest breaks, isDefinition⟩

/-- What is read as a definition does not depend on what follows. -/
theorem readDefinition_readsAlone {source : Input} (isValue : IsValue source) :
    ReadsAlone readDefinition source := by
  intro rest definition after breaks read
  obtain ⟨json, readValue, isDefinition⟩ := readDefinition_eq_ok_iff.mp read
  obtain ⟨rfl, reads⟩ := value_readsAlone isValue _ _ _ _ breaks readValue
  exact ⟨rfl, (reads_readDefinition_iff isValue).mpr ⟨json, reads, isDefinition⟩⟩

/-- **What is read as a definition**, by its members. -/
theorem reads_readDefinition_objectText_iff {members : List Member} {closing : Input}
    (wellFormed : ∀ member ∈ members, member.WellFormed) (blank : Blank closing) :
    Reads readDefinition (objectText members closing) definition ↔
      ∃ entries, List.Forall₂ (Gives (value (definitionDepth - 1))) members entries ∧
        definitionOfJson? (.object entries) = some definition := by
  have room : 1 < definitionDepth := by decide
  rw [reads_readDefinition_iff (isValue_objectText wellFormed blank)]
  simp only [reads_objectText_iff wellFormed blank]
  constructor
  · rintro ⟨_, ⟨-, entries, rfl, each⟩, isDefinition⟩
    exact ⟨entries, each, isDefinition⟩
  · rintro ⟨entries, each, isDefinition⟩
    exact ⟨_, ⟨room, entries, rfl, each⟩, isDefinition⟩

/-- What is read as a definition is a value. -/
theorem covers_readDefinition : Covers readDefinition := by
  intro input definition rest read
  obtain ⟨json, readValue, -⟩ := readDefinition_eq_ok_iff.mp read
  exact covers_value _ _ _ _ readValue

/-! ## Lists of definitions -/

/-- Blanks before a list of definitions do not matter. -/
theorem readDefinitions_append {blanks : Input} (blank : Blank blanks) (input : Input) :
    readDefinitions (blanks ++ input) = readDefinitions input := by
  rw [readDefinitions, skipSpace_append blank]
  rfl

/-- A list of definitions is read from its opening bracket on. -/
theorem readDefinitions_openList (rest : Input) :
    readDefinitions (some '[' :: rest) =
      readList (appendItem readDefinition) (rest.length + 1) true [] rest :=
  rfl

/-- **What is read as a list of definitions**, each of them by itself. -/
theorem readDefinitions_eq_ok_iff {items : List Item} {closing : Input}
    (wellFormed : ∀ item ∈ items, item.WellFormed) (blank : Blank closing)
    {definitions : List DefinitionSetting} :
    readDefinitions (listText items closing ++ rest) = .ok (definitions, after) ↔
      after = rest ∧
        List.Forall₂ (fun item => Reads readDefinition item.value) items definitions := by
  have short := length_lt_of_items
    (fun item member => (wellFormed item member).value) closing rest
  rw [listText_append, readDefinitions_openList, readList_eq_ok_iff wellFormed
    (fun item member => readDefinition_readsAlone (wellFormed item member).value) short blank]
  simp

/-- What is read as a list of definitions, whatever follows. -/
theorem reads_readDefinitions_iff {items : List Item} {closing : Input}
    (wellFormed : ∀ item ∈ items, item.WellFormed) (blank : Blank closing)
    {definitions : List DefinitionSetting} :
    Reads readDefinitions (listText items closing) definitions ↔
      List.Forall₂ (fun item => Reads readDefinition item.value) items definitions := by
  constructor
  · intro reads
    exact ((readDefinitions_eq_ok_iff wellFormed blank).mp (reads [] breaks_nil)).2
  · intro each rest _
    exact (readDefinitions_eq_ok_iff wellFormed blank).mpr ⟨rfl, each⟩

/-- What is read as a list of definitions has the form of a list. -/
theorem isList_of_readDefinitions {source : Input} (isValue : IsValue source)
    {definitions : List DefinitionSetting}
    (read : readDefinitions (source ++ rest) = .ok (definitions, after)) : IsList source := by
  obtain ⟨c, following, isText, starts, -, -, isList⟩ := exists_kind_of_isValue isValue
  by_cases first : c = '['
  · exact isList first
  · exfalso
    rw [isText, List.cons_append, readDefinitions, starts.skipSpace_cons] at read
    split at read <;> simp_all

/-- What is read as a list of definitions does not depend on what follows. -/
theorem readDefinitions_readsAlone {source : Input} (isValue : IsValue source) :
    ReadsAlone readDefinitions source := by
  intro rest definitions after breaks read
  obtain ⟨items, closing, wellFormed, blank, rfl⟩ := isList_of_readDefinitions isValue read
  obtain ⟨rfl, each⟩ := (readDefinitions_eq_ok_iff wellFormed blank).mp read
  exact ⟨rfl, (reads_readDefinitions_iff wellFormed blank).mpr each⟩

/-- What is read as a list of definitions is a value. -/
theorem covers_readDefinitions : Covers readDefinitions := by
  intro input definitions rest read
  rw [readDefinitions] at read
  split at read
  · cases read
  · rename_i following visible
    obtain ⟨blanks, blank, rfl⟩ := exists_blank_of_skipSpace visible
    obtain ⟨items, closing, wellFormed, blankClosing, isText⟩ :=
      exists_listText_of_readList covers_readDefinition read
    exact ⟨blanks, _, blank, isValue_listText wellFormed blankClosing, by rw [isText]⟩
  · cases read

end TokenGrammar.Settings
