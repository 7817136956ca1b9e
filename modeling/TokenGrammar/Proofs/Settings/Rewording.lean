import Mathlib.Data.List.Perm.Basic
import Mathlib.Logic.Relation
import TokenGrammar.Proofs.Pairing
import TokenGrammar.Proofs.Settings.Objects

/-! # Settings in other words

The order of members does not matter to settings, nor what stands under other names, nor whether the
usual value of a field is spelled out.

* `Settings.DefinitionRewording`, `Settings.reads_of_definitionRewording`: a definition in other
  words is the same definition.
* `Settings.HasAllStrings`, `Settings.definitionOfJson?_of_hasAllStrings`: definitions with the
  members of a literal and those of a pattern.
* `Settings.Site`, `Settings.Accepted.exchange`: a definition can be exchanged for another one.
* `Settings.Rewording`, `Settings.accepted_of_rewordings`: settings in other words are the same
  settings. -/

namespace TokenGrammar.Settings

open Json (ReadError)
open Json.Layout
open Json.Reading
open Text (breaks_nil)

/-! ## Rewordings -/

/-- Whether two members have the same name, however it is spelled, and the same value, whatever
blanks stand around them. -/
def Restates (member other : Member) : Prop :=
  (∃ name, member.Named name ∧ other.Named name) ∧ member.value = other.value

/-- The texts of the null value, of truth values and of strings. -/
inductive IsScalar : Input → Prop where
  /-- The null value. -/
  | null : IsScalar (written .null)
  /-- A truth value. -/
  | bool (truth : Bool) : IsScalar (written (.bool truth))
  /-- A string. -/
  | string {text : Input} {string : String} (isString : IsStringOf text string) : IsScalar text

/-- The members of an object that describes a definition in other words. -/
inductive DefinitionRewording (definition : DefinitionSetting) :
    List Member → List Member → Prop where
  /-- The same members in another order. -/
  | permuted {members members' : List Member} (perm : members'.Perm members) :
      DefinitionRewording definition members members'
  /-- The same members with other blanks, and with their names spelled in another way. -/
  | restated {members members' : List Member} (each : List.Forall₂ Restates members members') :
      DefinitionRewording definition members members'
  /-- One more member of another name. -/
  | unknownAdded {members members' : List Member} {member : Member} {name : String}
      (named : member.Named name) (unknown : name ∉ definitionNames)
      (scalar : IsScalar member.value) (added : members'.Perm (member :: members)) :
      DefinitionRewording definition members members'
  /-- A pattern beside a literal. -/
  | patternAdded {members members' : List Member} {member : Member} {name text source : String}
      (isLiteral : definition = .literal name text) (named : member.Named "pattern")
      (isString : IsStringOf member.value source) (added : members'.Perm (member :: members)) :
      DefinitionRewording definition members members'

/-- The usual value of a field, as a text. -/
inductive IsDefault : (name : String) → Input → Prop where
  /-- Whether white space is kept. -/
  | keepWhitespace : IsDefault "keep_whitespace" (written (.bool default.keepWhitespace))
  /-- The pattern of white space. -/
  | whitespace {text : Input} (isString : IsStringOf text default.whitespace) :
      IsDefault "whitespace" text
  /-- No definitions. -/
  | definitions {closing : Input} (blank : Blank closing) :
      IsDefault "definitions" (listText [] closing)

/-- A place for the text of a definition among the members of settings. -/
structure Site where
  /-- The members before that with the definitions. -/
  earlier : List Member
  /-- The member with the definitions, whatever its value. -/
  member : Member
  /-- The definitions before the place. -/
  itemsBefore : List Item
  /-- The item at the place, whatever its value. -/
  item : Item
  /-- The definitions behind the place. -/
  itemsAfter : List Item
  /-- What stands behind the last definition. -/
  closing : Input
  /-- The members behind that with the definitions. -/
  later : List Member

namespace Site

/-- How many definitions stand before the place. -/
def index (site : Site) : Nat :=
  site.itemsBefore.length

/-- The list of definitions with a given text at the place. -/
def items (site : Site) (definition : Input) : List Item :=
  site.itemsBefore ++ { site.item with value := definition } :: site.itemsAfter

/-- The member with the definitions, with a given text at the place. -/
def definitions (site : Site) (definition : Input) : Member :=
  { site.member with value := listText (site.items definition) site.closing }

/-- The members of settings with a given text at the place. -/
def members (site : Site) (definition : Input) : List Member :=
  site.earlier ++ site.definitions definition :: site.later

/-- Whether the place is one in the list of definitions, with blanks around it. -/
structure WellFormed (site : Site) : Prop where
  /-- The name of the list. -/
  named : site.member.Named "definitions"
  /-- The definitions before the place. -/
  itemsBefore : ∀ item ∈ site.itemsBefore, item.WellFormed
  /-- The place. -/
  item : site.item.Spaced
  /-- The definitions behind the place. -/
  itemsAfter : ∀ item ∈ site.itemsAfter, item.WellFormed
  /-- Blanks behind the last definition. -/
  closing : Blank site.closing

end Site

/-- The members of an object that describes settings in other words. -/
inductive Rewording (settings : Settings) : List Member → List Member → Prop where
  /-- The same members in another order. -/
  | permuted {members members' : List Member} (perm : members'.Perm members) :
      Rewording settings members members'
  /-- The same members with other blanks, and with their names spelled in another way. -/
  | restated {members members' : List Member} (each : List.Forall₂ Restates members members') :
      Rewording settings members members'
  /-- One more member of another name. -/
  | unknownAdded {members members' : List Member} {member : Member} {name : String}
      (named : member.Named name) (unknown : name ∉ fieldNames)
      (added : members'.Perm (member :: members)) : Rewording settings members members'
  /-- A missing field with its usual value. -/
  | defaultAdded {members members' : List Member} {member : Member} {name : String}
      (missing : ∀ other ∈ members, ¬other.Named name) (named : member.Named name)
      (isDefault : IsDefault name member.value) (added : members'.Perm (member :: members)) :
      Rewording settings members members'
  /-- A definition in other words. -/
  | definition {site : Site} (wellFormed : site.WellFormed) {definition : DefinitionSetting}
      (isDefinition : settings.definitions[site.index]? = some definition)
      {members members' : List Member} (reworded : DefinitionRewording definition members members')
      (formed : ∀ member ∈ members, member.WellFormed)
      (formed' : ∀ member ∈ members', member.WellFormed)
      {closing closing' : Input} (blank : Blank closing) (blank' : Blank closing') :
      Rewording settings (site.members (objectText members closing))
        (site.members (objectText members' closing'))

/-! ## Members in another order or in other words -/

variable {settings : Settings} {members members' : List Member} {member other : Member}

/-- A member in other words has the same name. -/
theorem Restates.named {name : String} (restates : Restates member other)
    (named : member.Named name) : other.Named name := by
  obtain ⟨⟨name', named', namedOther⟩, -⟩ := restates
  rwa [named_unique named named']

/-! ## Definitions in other words -/

/-- A text of a null value, a truth value or a string is that of a value. -/
theorem IsScalar.isValue {text : Input} (scalar : IsScalar text) : IsValue text := by
  cases scalar with
  | null => exact .null
  | bool truth => exact .bool truth
  | string isString =>
      obtain ⟨body, spells, rfl⟩ := isString
      exact .string ⟨body, spells.isBody, rfl⟩

/-- Null values, truth values and strings are read. -/
theorem IsScalar.exists_reads {text : Input} (scalar : IsScalar text) (depth : Nat) :
    ∃ json, Reads (value depth) text json := by
  cases scalar with
  | null => exact ⟨.null, fun rest _ => rfl⟩
  | bool truth => exact ⟨.bool truth, fun rest _ => by cases truth <;> rfl⟩
  | @string _ string isString => exact ⟨.string string, reads_string isString depth⟩

/-- The members of a definition with the same names and values have the same entries. -/
theorem gives_of_restates {reader : Input → Except ReadError (Json × Input)} {entry : String × Json}
    (restates : Restates member other) (gives : Gives reader member entry) :
    Gives reader other entry :=
  ⟨restates.named gives.1, restates.2 ▸ gives.2⟩

/-- **A definition in other words is the same definition.** -/
theorem reads_of_definitionRewording {definition : DefinitionSetting}
    (reworded : DefinitionRewording definition members members')
    (formed : ∀ member ∈ members, member.WellFormed)
    (formed' : ∀ member ∈ members', member.WellFormed) {closing closing' : Input}
    (blank : Blank closing) (blank' : Blank closing')
    (reads : Reads readDefinition (objectText members closing) definition) :
    Reads readDefinition (objectText members' closing') definition := by
  rw [reads_readDefinition_objectText_iff formed blank] at reads
  rw [reads_readDefinition_objectText_iff formed' blank']
  obtain ⟨entries, each, isDefinition⟩ := reads
  cases reworded with
  | permuted perm =>
      obtain ⟨entries', each', same⟩ := List.perm_comp_forall₂ perm each
      exact ⟨entries', each', by rw [definitionOfJson?_perm same, isDefinition]⟩
  | restated restates =>
      exact ⟨entries, forall₂_trans gives_of_restates restates each, isDefinition⟩
  | @unknownAdded member name named unknown scalar added =>
      obtain ⟨json, readsMember⟩ := scalar.exists_reads (definitionDepth - 1)
      have eachToo : List.Forall₂ (Gives (value (definitionDepth - 1))) (member :: members)
          ((name, json) :: entries) := .cons ⟨named, readsMember⟩ each
      obtain ⟨entries', each', same⟩ := List.perm_comp_forall₂ added eachToo
      exact ⟨entries', each', by rw [definitionOfJson?_perm same, definitionOfJson?_cons unknown,
        isDefinition]⟩
  | @patternAdded member name text source isLiteral named isString added =>
      obtain ⟨json, readsMember⟩ := (IsScalar.string isString).exists_reads (definitionDepth - 1)
      have eachToo : List.Forall₂ (Gives (value (definitionDepth - 1))) (member :: members)
          (("pattern", json) :: entries) := .cons ⟨named, readsMember⟩ each
      obtain ⟨entries', each', same⟩ := List.perm_comp_forall₂ added eachToo
      rw [isLiteral] at isDefinition ⊢
      exact ⟨entries', each', by rw [definitionOfJson?_perm same,
        definitionOfJson?_cons_pattern rfl isDefinition]⟩

/-- Whether the members of an object are strings for the name, the text and the pattern of a
definition, each once, and members with other names. -/
def HasAllStrings (members : List Member) (name text : String) : Prop :=
  ∃ nameMember textMember patternMember others source,
    members.Perm (nameMember :: textMember :: patternMember :: others) ∧
      (nameMember.Named "name" ∧ IsStringOf nameMember.value name) ∧
      (textMember.Named "literal" ∧ IsStringOf textMember.value text) ∧
      (patternMember.Named "pattern" ∧ IsStringOf patternMember.value source) ∧
      ∀ other ∈ others, ∃ name, other.Named name ∧ name ∉ definitionNames

/-- All members of such an object have names, and strings as their values or other names. -/
theorem HasAllStrings.exists_named {name text : String} (hasAll : HasAllStrings members name text)
    (among : member ∈ members) :
    ∃ name, member.Named name ∧
      ((∃ string, IsStringOf member.value string) ∨ name ∉ definitionNames) := by
  obtain ⟨nameMember, textMember, patternMember, others, source, perm, ⟨named, isName⟩,
    ⟨namedText, isText⟩, ⟨namedPattern, isPattern⟩, unknown⟩ := hasAll
  rcases List.mem_cons.mp (perm.mem_iff.mp among) with rfl | among
  · exact ⟨_, named, .inl ⟨_, isName⟩⟩
  rcases List.mem_cons.mp among with rfl | among
  · exact ⟨_, namedText, .inl ⟨_, isText⟩⟩
  rcases List.mem_cons.mp among with rfl | among
  · exact ⟨_, namedPattern, .inl ⟨_, isPattern⟩⟩
  · obtain ⟨otherName, namedOther, isUnknown⟩ := unknown member among
    exact ⟨otherName, namedOther, .inr isUnknown⟩

/-- Members with other names do not matter to a definition, however many there are. -/
theorem definitionOfJson?_append (before : List (String × Json)) {others : List (String × Json)}
    (unknown : ∀ entry ∈ others, entry.1 ∉ definitionNames) :
    definitionOfJson? (.object (before ++ others)) = definitionOfJson? (.object before) := by
  induction others with
  | nil => rw [List.append_nil]
  | cons entry others induction =>
      obtain ⟨first, rest⟩ := List.forall_mem_cons.mp unknown
      rw [definitionOfJson?_perm List.perm_middle, definitionOfJson?_cons first, induction rest]

/-- A string member of an object has its name and its string as its entry. -/
theorem entry_eq_of_gives {depth : Nat} {entry : String × Json} {name text : String}
    (gives : Gives (value depth) member entry) (named : member.Named name)
    (isString : IsStringOf member.value text) : entry = (name, .string text) :=
  Prod.ext (named_unique gives.1 named) (gives.2.unique (reads_string isString depth))

/-- **An object with strings for the name, the text and the pattern is a literal**, in whatever
order its members stand. -/
theorem definitionOfJson?_of_hasAllStrings {name text : String} {entries : List (String × Json)}
    (hasAll : HasAllStrings members name text)
    (each : List.Forall₂ (Gives (value (definitionDepth - 1))) members entries) :
    definitionOfJson? (.object entries) = some (.literal name text) := by
  obtain ⟨nameMember, textMember, patternMember, others, source, perm, ⟨named, isName⟩,
    ⟨namedText, isText⟩, ⟨namedPattern, isPattern⟩, unknown⟩ := hasAll
  obtain ⟨entries', each', same⟩ := List.perm_comp_forall₂ perm.symm each
  -- The entries are those of the three known members, and others.
  cases each' with
  | cons gives each' =>
  cases each' with
  | cons givesText each' =>
  cases each' with
  | @cons _ _ _ rest givesPattern each' =>
  obtain rfl := entry_eq_of_gives gives named isName
  obtain rfl := entry_eq_of_gives givesText namedText isText
  obtain rfl := entry_eq_of_gives givesPattern namedPattern isPattern
  have unknownEntries : ∀ entry ∈ rest, entry.1 ∉ definitionNames := by
    intro entry among
    obtain ⟨other, memberOf, givesOther⟩ := exists_of_forall₂_right each' among
    obtain ⟨otherName, namedOther, isUnknown⟩ := unknown other memberOf
    rwa [named_unique givesOther.1 namedOther]
  rw [← definitionOfJson?_perm same]
  refine (definitionOfJson?_append [_, _, _] unknownEntries).trans ?_
  simp [definitionOfJson?, uniqueString?]

/-- Where the values under other names can be read, such an object is read as a literal. -/
theorem reads_readDefinition_of_hasAllStrings {name text : String} {closing : Input}
    (hasAll : HasAllStrings members name text)
    (formed : ∀ member ∈ members, member.WellFormed) (blank : Blank closing)
    (readable : ∀ member ∈ members, (∃ name ∉ definitionNames, member.Named name) →
      ∃ json, Reads (value (definitionDepth - 1)) member.value json) :
    Reads readDefinition (objectText members closing) (.literal name text) := by
  obtain ⟨entries, each⟩ : ∃ entries,
      List.Forall₂ (Gives (value (definitionDepth - 1))) members entries := by
    apply exists_forall₂
    intro member among
    obtain ⟨name, named, ⟨string, isString⟩ | unknown⟩ := hasAll.exists_named among
    · exact ⟨(name, .string string), named, reads_string isString _⟩
    · obtain ⟨json, reads⟩ := readable member among ⟨name, unknown, named⟩
      exact ⟨(name, json), named, reads⟩
  rw [reads_readDefinition_objectText_iff formed blank]
  exact ⟨entries, each, definitionOfJson?_of_hasAllStrings hasAll each⟩

/-! ## Settings in other words -/

/-- The order of members does not matter to the settings. -/
theorem Accepted.of_perm (accepted : Accepted members settings) (perm : members'.Perm members) :
    Accepted members' settings := by
  obtain ⟨contributions, final, each, gathered, complete⟩ := accepted
  obtain ⟨contributions', each', same⟩ := List.perm_comp_forall₂ perm each
  exact ⟨contributions', final, each', gathered.of_perm same, complete⟩

/-- A member in other words gives the same. -/
theorem provides_of_restates {contribution : Partial} (restates : Restates member other)
    (provides : Provides member contribution) : Provides other contribution := by
  obtain ⟨name, named, contributes⟩ := provides
  exact ⟨name, restates.named named, restates.2 ▸ contributes⟩

/-- The members in other words give the same settings. -/
theorem Accepted.of_restates (accepted : Accepted members settings)
    (each : List.Forall₂ Restates members members') : Accepted members' settings := by
  obtain ⟨contributions, final, provided, gathered, complete⟩ := accepted
  exact ⟨contributions, final, forall₂_trans provides_of_restates each provided, gathered, complete⟩

/-- A member of another name gives nothing to the settings. -/
theorem Accepted.cons_unknown {name : String} (accepted : Accepted members settings)
    (named : member.Named name) (unknown : name ∉ fieldNames) :
    Accepted (member :: members) settings := by
  obtain ⟨contributions, final, each, gathered, complete⟩ := accepted
  exact (accepted_cons_iff named).mpr ⟨.empty, contributions, final, final, .other unknown, each,
    gathered, gathered_empty_iff.mpr rfl, complete⟩

/-- A missing field can be given its usual value. -/
theorem Accepted.cons_default {name : String} (accepted : Accepted members settings)
    (missing : ∀ other ∈ members, ¬other.Named name) (named : member.Named name)
    (isDefault : IsDefault name member.value) : Accepted (member :: members) settings := by
  obtain ⟨contributions, final, each, gathered, rfl⟩ := id accepted
  generalize isValue : member.value = text at isDefault
  cases isDefault with
  | keepWhitespace =>
      have absent := (keepWhitespace_eq_none_iff each gathered).mpr missing
      have same : final.complete.keepWhitespace = default.keepWhitespace := by
        simp [Partial.complete, absent]
      rw [accepted_cons_keepWhitespace_iff named, ← same]
      exact ⟨by rw [isValue, same], missing, accepted⟩
  | whitespace isString =>
      have absent := (whitespace_eq_none_iff each gathered).mpr missing
      have same : final.complete.whitespace = default.whitespace := by
        simp [Partial.complete, absent]
      rw [accepted_cons_whitespace_iff named, ← same]
      exact ⟨by rwa [isValue, same], missing, accepted⟩
  | definitions blank =>
      have absent := (definitions_eq_none_iff each gathered).mpr missing
      have same : final.complete.definitions = default.definitions := by
        simp [Partial.complete, absent]
      rw [accepted_cons_definitions_iff named, ← same]
      have noItem : ∀ item ∈ ([] : List Item), item.WellFormed := by simp
      refine ⟨?_, missing, accepted⟩
      rw [isValue, same, reads_readDefinitions_iff noItem blank]
      exact .nil

/-- What stands at a place of a definition is read as the definition, and can be exchanged. -/
theorem Accepted.exchange {site : Site} (wellFormed : site.WellFormed) {definition : Input}
    (isValue : IsValue definition) (accepted : Accepted (site.members definition) settings) :
    ∃ found, settings.definitions[site.index]? = some found ∧
      Reads readDefinition definition found ∧
        ∀ {definition' : Input} {found' : DefinitionSetting}, IsValue definition' →
          Reads readDefinition definition' found' →
            Accepted (site.members definition')
              { settings with definitions := settings.definitions.set site.index found' } := by
  -- The member with the definitions is taken to the front, where it is told from the others.
  have front : ∀ definition, (site.definitions definition :: (site.earlier ++ site.later)).Perm
      (site.members definition) := fun definition => List.perm_middle.symm
  have formed : ∀ {definition}, IsValue definition → ∀ item ∈ site.items definition,
      item.WellFormed := by
    intro definition isValue item among
    rcases List.mem_append.mp among with before | among
    · exact wellFormed.itemsBefore item before
    rcases List.mem_cons.mp among with rfl | after
    · exact ⟨wellFormed.item, isValue⟩
    · exact wellFormed.itemsAfter item after
  have named : ∀ definition, (site.definitions definition).Named "definitions" :=
    fun _ => wellFormed.named
  obtain ⟨reads, missing, others⟩ := (accepted_cons_definitions_iff (named definition)).mp
    (accepted.of_perm (front definition))
  have each := (reads_readDefinitions_iff (formed isValue) wellFormed.closing).mp reads
  obtain ⟨before, found, after, isList, eachBefore, readsFound, eachAfter⟩ :=
    forall₂_append_cons_iff.mp each
  have length : site.index = before.length := eachBefore.length_eq
  refine ⟨found, by simp [isList, length], readsFound, ?_⟩
  intro definition' found' isValue' reads'
  have exchanged : settings.definitions.set site.index found' = before ++ found' :: after := by
    simp [isList, length]
  refine Accepted.of_perm ?_ (front definition').symm
  rw [accepted_cons_definitions_iff (named definition'), exchanged]
  refine ⟨?_, missing, others⟩
  exact (reads_readDefinitions_iff (formed isValue') wellFormed.closing).mpr
    (forall₂_append_cons_iff.mpr ⟨before, found', after, rfl, eachBefore, reads', eachAfter⟩)

/-- **Settings in other words are the same settings.** -/
theorem accepted_of_rewording (reworded : Rewording settings members members')
    (accepted : Accepted members settings) : Accepted members' settings := by
  cases reworded with
  | permuted perm => exact accepted.of_perm perm
  | restated each => exact accepted.of_restates each
  | unknownAdded named unknown added =>
      exact (accepted.cons_unknown named unknown).of_perm added
  | defaultAdded missing named isDefault added =>
      exact (accepted.cons_default missing named isDefault).of_perm added
  | definition wellFormed isDefinition reworded formed formed' blank blank' =>
      obtain ⟨found, isFound, reads, exchange⟩ :=
        accepted.exchange wellFormed (isValue_objectText formed blank)
      obtain rfl : found = _ := Option.some.inj (isFound.symm.trans isDefinition)
      have readsToo := reads_of_definitionRewording reworded formed formed' blank blank' reads
      have exchanged := exchange (isValue_objectText formed' blank') readsToo
      obtain ⟨inside, isElement⟩ := List.getElem?_eq_some_iff.mp isFound
      rwa [← isElement, List.set_getElem_self] at exchanged

/-- Settings in other words, and these in other words again, are the same settings. -/
theorem accepted_of_rewordings
    (reworded : Relation.ReflTransGen (Rewording settings) members members')
    (accepted : Accepted members settings) : Accepted members' settings := by
  induction reworded with
  | refl => exact accepted
  | tail _ last induction => exact accepted_of_rewording last induction

end TokenGrammar.Settings
