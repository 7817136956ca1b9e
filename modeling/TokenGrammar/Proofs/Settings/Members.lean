import TokenGrammar.Proofs.Json.Skipping
import TokenGrammar.Proofs.Settings.Definitions

/-! # Settings by their members

Settings are read from an object member by member. What each member gives does not depend on the
others, except that none may give what another one gave before.

* `Settings.Contributes`, `Settings.Gathered`: what a member gives, and what several give together.
* `Settings.readMember_eq_ok_iff`: what is read from a member.
* `Settings.coversMember_readMember`: what is read as a member has the form of one. -/

namespace TokenGrammar.Settings

open Json (ReadError)
open Json.Layout
open Json.Reading
open Text (Breaks breaks_nil)

/-! ## Fields -/

/-- The names of the members that settings are read from. -/
def fieldNames : List String :=
  ["keep_whitespace", "whitespace", "definitions"]

/-- The fields that a member gives by its name and the text of its value: one if the name is known,
and none if not. -/
inductive Contributes (name : String) (text : Input) : Partial → Prop where
  /-- Whether white space is kept. -/
  | keepWhitespace {keep : Bool} (isName : name = "keep_whitespace")
      (isTruth : text = written (.bool keep)) : Contributes name text ⟨some keep, none, none⟩
  /-- The pattern of white space. -/
  | whitespace {source : String} (isName : name = "whitespace")
      (isString : IsStringOf text source) : Contributes name text ⟨none, some source, none⟩
  /-- The definitions. -/
  | definitions {definitions : List DefinitionSetting} (isName : name = "definitions")
      (reads : Reads readDefinitions text definitions) :
      Contributes name text ⟨none, none, some definitions⟩
  /-- Nothing. -/
  | other (unknown : name ∉ fieldNames) : Contributes name text .empty

section

variable {text : Input} {contribution : Partial}

/-- A member tells whether white space is kept. -/
theorem contributes_keepWhitespace_iff :
    Contributes "keep_whitespace" text contribution ↔
      ∃ keep, text = written (.bool keep) ∧ contribution = ⟨some keep, none, none⟩ := by
  constructor
  · intro contributes
    cases contributes with
    | keepWhitespace _ given => exact ⟨_, given, rfl⟩
    | whitespace other | definitions other => exact absurd other (by decide)
    | other unknown => exact absurd (by decide) unknown
  · rintro ⟨keep, given, rfl⟩
    exact .keepWhitespace rfl given

/-- A member tells the pattern of white space. -/
theorem contributes_whitespace_iff :
    Contributes "whitespace" text contribution ↔
      ∃ source, IsStringOf text source ∧ contribution = ⟨none, some source, none⟩ := by
  constructor
  · intro contributes
    cases contributes with
    | whitespace _ given => exact ⟨_, given, rfl⟩
    | keepWhitespace other | definitions other => exact absurd other (by decide)
    | other unknown => exact absurd (by decide) unknown
  · rintro ⟨source, given, rfl⟩
    exact .whitespace rfl given

/-- A member tells the definitions. -/
theorem contributes_definitions_iff :
    Contributes "definitions" text contribution ↔
      ∃ definitions, Reads readDefinitions text definitions ∧
        contribution = ⟨none, none, some definitions⟩ := by
  constructor
  · intro contributes
    cases contributes with
    | definitions _ given => exact ⟨_, given, rfl⟩
    | keepWhitespace other | whitespace other => exact absurd other (by decide)
    | other unknown => exact absurd (by decide) unknown
  · rintro ⟨definitions, given, rfl⟩
    exact .definitions rfl given

/-- A member with another name tells nothing. -/
theorem contributes_other_iff {name : String} (unknown : name ∉ fieldNames) :
    Contributes name text contribution ↔ contribution = .empty := by
  constructor
  · intro contributes
    cases contributes with
    | keepWhitespace known | whitespace known | definitions known =>
        exact absurd (by rw [known]; decide) unknown
    | other => rfl
  · rintro rfl
    exact .other unknown

end

/-- Whether fields are those given before and by some members. As a field holds one value at most,
none of them is given twice. -/
structure Gathered (fields : Partial) (contributions : List Partial) (final : Partial) : Prop where
  /-- Whether white space is kept. -/
  keepWhitespace : final.keepWhitespace.toList =
    fields.keepWhitespace.toList ++ contributions.filterMap Partial.keepWhitespace
  /-- The pattern of white space. -/
  whitespace : final.whitespace.toList =
    fields.whitespace.toList ++ contributions.filterMap Partial.whitespace
  /-- The definitions. -/
  definitions : final.definitions.toList =
    fields.definitions.toList ++ contributions.filterMap Partial.definitions

section

variable {α : Type} {before after : Option α}

/-- A field stays as it is where nothing is given. -/
theorem toList_eq_iff : after.toList = before.toList ↔ after = before := by
  cases after <;> cases before <;> simp

/-- A field that is given was missing before. -/
theorem toList_eq_append_iff {given : α} :
    after.toList = before.toList ++ [given] ↔ before = none ∧ after = some given := by
  cases after <;> cases before <;> simp

/-- The order in which values are given does not matter to a field, as there is one at most. -/
theorem toList_eq_of_perm {given given' : List α} (perm : given'.Perm given)
    (all : after.toList = before.toList ++ given) : after.toList = before.toList ++ given' := by
  have same : (before.toList ++ given').Perm after.toList := by
    rw [all]
    exact perm.append_left _
  cases after with
  | none => exact (List.perm_nil.mp same).symm
  | some value => exact (List.perm_singleton.mp same).symm

/-- What is given first is a field too. -/
theorem exists_toList_eq {first later : List α} (all : after.toList = first ++ later) :
    ∃ between : Option α, between.toList = first := by
  cases first with
  | nil => exact ⟨none, rfl⟩
  | cons given first =>
      cases after with
      | none => cases all
      | some value =>
          have nothing : first = [] := (List.append_eq_nil_iff.mp (List.cons.inj all).2.symm).1
          exact ⟨some given, by rw [nothing]; rfl⟩

end

variable {fields next final : Partial}

/-- Fields are gathered from some members, and then from others. -/
theorem gathered_append_iff {first later : List Partial} :
    Gathered fields (first ++ later) final ↔
      ∃ next, Gathered fields first next ∧ Gathered next later final := by
  constructor
  · rintro ⟨keep, source, given⟩
    rw [List.filterMap_append, ← List.append_assoc] at keep source given
    -- What is given first fits into the fields, as all that is given does.
    obtain ⟨keepNext, sameKeep⟩ := exists_toList_eq keep
    obtain ⟨sourceNext, sameSource⟩ := exists_toList_eq source
    obtain ⟨givenNext, sameGiven⟩ := exists_toList_eq given
    refine ⟨⟨keepNext, sourceNext, givenNext⟩, ⟨sameKeep, sameSource, sameGiven⟩, ?_, ?_, ?_⟩
    · rw [keep, sameKeep]
    · rw [source, sameSource]
    · rw [given, sameGiven]
  · rintro ⟨next, ⟨keepNext, sourceNext, givenNext⟩, keep, source, given⟩
    refine ⟨?_, ?_, ?_⟩
    · rw [keep, keepNext, List.filterMap_append, List.append_assoc]
    · rw [source, sourceNext, List.filterMap_append, List.append_assoc]
    · rw [given, givenNext, List.filterMap_append, List.append_assoc]

/-- The order of members does not matter to what they give together. -/
theorem Gathered.of_perm {contributions contributions' : List Partial}
    (gathered : Gathered fields contributions final)
    (perm : contributions'.Perm contributions) : Gathered fields contributions' final :=
  ⟨toList_eq_of_perm (perm.filterMap _) gathered.keepWhitespace,
    toList_eq_of_perm (perm.filterMap _) gathered.whitespace,
    toList_eq_of_perm (perm.filterMap _) gathered.definitions⟩

/-- What one member gives can come last. -/
theorem gathered_cons_iff {contribution : Partial} {contributions : List Partial} :
    Gathered fields (contribution :: contributions) final ↔
      ∃ next, Gathered fields contributions next ∧ Gathered next [contribution] final := by
  have perm : (contributions ++ [contribution]).Perm (contribution :: contributions) :=
    List.perm_append_singleton _ _
  rw [← gathered_append_iff]
  exact ⟨fun gathered => gathered.of_perm perm, fun gathered => gathered.of_perm perm.symm⟩

/-- Where nothing is given, the fields stay as they are. -/
theorem gathered_nil_iff : Gathered fields [] final ↔ final = fields := by
  obtain ⟨keep, source, given⟩ := fields
  obtain ⟨keep', source', given'⟩ := final
  constructor
  · rintro ⟨sameKeep, sameSource, sameGiven⟩
    simp only [List.filterMap_nil, List.append_nil, toList_eq_iff] at sameKeep sameSource sameGiven
    rw [sameKeep, sameSource, sameGiven]
  · rintro ⟨⟩
    exact ⟨by simp, by simp, by simp⟩

/-- A member of another name gives nothing. -/
theorem gathered_empty_iff : Gathered fields [.empty] final ↔ final = fields := by
  rw [← gathered_nil_iff]
  exact ⟨fun ⟨keep, source, given⟩ => ⟨keep, source, given⟩,
    fun ⟨keep, source, given⟩ => ⟨keep, source, given⟩⟩

/-- Whether white space is kept is given once. -/
theorem gathered_keepWhitespace_iff {keep : Bool} :
    Gathered fields [⟨some keep, none, none⟩] final ↔
      fields.keepWhitespace = none ∧ final = { fields with keepWhitespace := some keep } := by
  obtain ⟨keepBefore, source, given⟩ := fields
  obtain ⟨keep', source', given'⟩ := final
  constructor
  · rintro ⟨sameKeep, sameSource, sameGiven⟩
    simp only [List.filterMap_cons, List.filterMap_nil, List.append_nil, toList_eq_append_iff,
      toList_eq_iff] at sameKeep sameSource sameGiven
    simp [sameKeep, sameSource, sameGiven]
  · rintro ⟨rfl, ⟨⟩⟩
    exact ⟨by simp, by simp, by simp⟩

/-- The pattern of white space is given once. -/
theorem gathered_whitespace_iff {source : String} :
    Gathered fields [⟨none, some source, none⟩] final ↔
      fields.whitespace = none ∧ final = { fields with whitespace := some source } := by
  obtain ⟨keep, sourceBefore, given⟩ := fields
  obtain ⟨keep', source', given'⟩ := final
  constructor
  · rintro ⟨sameKeep, sameSource, sameGiven⟩
    simp only [List.filterMap_cons, List.filterMap_nil, List.append_nil, toList_eq_append_iff,
      toList_eq_iff] at sameKeep sameSource sameGiven
    simp [sameKeep, sameSource, sameGiven]
  · rintro ⟨rfl, ⟨⟩⟩
    exact ⟨by simp, by simp, by simp⟩

/-- The definitions are given once. -/
theorem gathered_definitions_iff {definitions : List DefinitionSetting} :
    Gathered fields [⟨none, none, some definitions⟩] final ↔
      fields.definitions = none ∧ final = { fields with definitions := some definitions } := by
  obtain ⟨keep, source, givenBefore⟩ := fields
  obtain ⟨keep', source', given'⟩ := final
  constructor
  · rintro ⟨sameKeep, sameSource, sameGiven⟩
    simp only [List.filterMap_cons, List.filterMap_nil, List.append_nil, toList_eq_append_iff,
      toList_eq_iff] at sameKeep sameSource sameGiven
    simp [sameKeep, sameSource, sameGiven]
  · rintro ⟨rfl, ⟨⟩⟩
    exact ⟨by simp, by simp, by simp⟩

/-! ## Members -/

/-- Read the value of a known field, if the field is missing. -/
def readField {α : Type} (present : Option α) (name : String)
    (reader : Input → Except ReadError (α × Input)) (change : α → Partial) (input : Input) :
    Except ReadError (Partial × Input) :=
  if present.isSome then .error (.duplicateField name)
  else (colon input >>= reader).map fun read => (change read.1, read.2)

/-- The value of a known field is read if the field is missing. -/
theorem readField_eq_ok_iff {α : Type} {present : Option α} {name : String} {member : Member}
    (spaced : member.Spaced) {reader : Input → Except ReadError (α × Input)}
    (skips : ∀ {blanks}, Blank blanks → ∀ input, reader (blanks ++ input) = reader input)
    {change : α → Partial} {input after : Input} :
    readField present name reader change (member.colonText input) = .ok (next, after) ↔
      present = none ∧ ∃ value, reader input = .ok (value, after) ∧ next = change value := by
  cases present with
  | some value => simp [readField]
  | none =>
      have read : readField none name reader change (member.colonText input) =
          (reader input).map fun read => (change read.1, read.2) := by
        rw [readField, colon_colonText spaced]
        change (reader (member.beforeValue ++ input)).map _ = _
        rw [skips spaced.beforeValue]
      rw [read, map_eq_ok_iff]
      constructor
      · rintro ⟨⟨value, remaining⟩, read, done⟩
        cases done
        exact ⟨rfl, value, read, rfl⟩
      · rintro ⟨-, value, read, rfl⟩
        exact ⟨(value, after), read, rfl⟩

/-- A known field is read as `readField` reads it. -/
theorem readField_eq {α : Type} {present : Option α} {name : String} {change : α → Partial}
    {reader : Input → Except ReadError (α × Input)} {input : Input} :
    (do
      if present.isSome then throw (ReadError.duplicateField name)
      let (value, rest) ← reader (← colon input)
      pure (change value, rest)) = readField present name reader change input := by
  rw [readField]
  cases present with
  | some value => rfl
  | none =>
      cases colon input with
      | error error => rfl
      | ok input =>
          change (reader input >>= _) = (reader input).map _
          cases reader input <;> rfl

/-- Whether white space is kept is a field. -/
theorem readMember_keepWhitespace_eq (fields : Partial) (input : Input) :
    readMember fields "keep_whitespace" input =
      readField fields.keepWhitespace "keep_whitespace" boolean
        (fun keep => { fields with keepWhitespace := some keep }) input := by
  rw [readMember, if_pos rfl, ← readField_eq]

/-- The pattern of white space is a field. -/
theorem readMember_whitespace_eq (fields : Partial) (input : Input) :
    readMember fields "whitespace" input =
      readField fields.whitespace "whitespace" text
        (fun source => { fields with whitespace := some source }) input := by
  rw [readMember, if_neg (by decide), if_pos rfl, ← readField_eq]

/-- The definitions are a field. -/
theorem readMember_definitions_eq (fields : Partial) (input : Input) :
    readMember fields "definitions" input =
      readField fields.definitions "definitions" readDefinitions
        (fun definitions => { fields with definitions := some definitions }) input := by
  rw [readMember, if_neg (by decide), if_neg (by decide), if_pos rfl, ← readField_eq]

/-- The value of a member with another name is skipped. -/
theorem readMember_other {name : String} (unknown : name ∉ fieldNames) (fields : Partial)
    (input : Input) :
    readMember fields name input =
      (colon input >>= skipValue).map fun rest => (fields, rest) := by
  have differs : ∀ known ∈ fieldNames, name ≠ known := by
    rintro known among rfl
    exact unknown among
  rw [readMember, if_neg (differs _ (by decide)), if_neg (differs _ (by decide)),
    if_neg (differs _ (by decide))]
  cases colon input with
  | error error => rfl
  | ok input =>
      change (skipValue input >>= _) = (skipValue input).map _
      cases skipValue input <;> rfl

/-- **What a member gives.** -/
theorem readMember_eq_ok_iff {member : Member} (spaced : member.Spaced) {text : Input}
    (isValue : IsValue text) (name : String) {rest after : Input}
    (breaks : Breaks continuesNumber rest) :
    readMember fields name (member.colonText (text ++ rest)) = .ok (next, after) ↔
      after = rest ∧ ∃ contribution, Contributes name text contribution ∧
        Gathered fields [contribution] next := by
  by_cases isKeep : name = "keep_whitespace"
  · rw [isKeep, readMember_keepWhitespace_eq, readField_eq_ok_iff spaced boolean_append]
    constructor
    · rintro ⟨missing, keep, read, rfl⟩
      obtain ⟨isTruth, rfl⟩ := (boolean_eq_ok_iff isValue).mp read
      exact ⟨rfl, _, .keepWhitespace rfl isTruth,
        gathered_keepWhitespace_iff.mpr ⟨missing, rfl⟩⟩
    · rintro ⟨rfl, _, contributes, gathered⟩
      obtain ⟨keep, isTruth, rfl⟩ := contributes_keepWhitespace_iff.mp contributes
      obtain ⟨missing, rfl⟩ := gathered_keepWhitespace_iff.mp gathered
      exact ⟨missing, keep, (boolean_eq_ok_iff isValue).mpr ⟨isTruth, rfl⟩, rfl⟩
  by_cases isWhitespace : name = "whitespace"
  · rw [isWhitespace, readMember_whitespace_eq, readField_eq_ok_iff spaced text_append]
    constructor
    · rintro ⟨missing, source, read, rfl⟩
      obtain ⟨isString, rfl⟩ := (text_eq_ok_iff isValue).mp read
      exact ⟨rfl, _, .whitespace rfl isString, gathered_whitespace_iff.mpr ⟨missing, rfl⟩⟩
    · rintro ⟨rfl, _, contributes, gathered⟩
      obtain ⟨source, isString, rfl⟩ := contributes_whitespace_iff.mp contributes
      obtain ⟨missing, rfl⟩ := gathered_whitespace_iff.mp gathered
      exact ⟨missing, source, (text_eq_ok_iff isValue).mpr ⟨isString, rfl⟩, rfl⟩
  by_cases isDefinitions : name = "definitions"
  · rw [isDefinitions, readMember_definitions_eq, readField_eq_ok_iff spaced readDefinitions_append]
    constructor
    · rintro ⟨missing, definitions, read, rfl⟩
      obtain ⟨rfl, reads⟩ := readDefinitions_readsAlone isValue _ _ _ breaks read
      exact ⟨rfl, _, .definitions rfl reads, gathered_definitions_iff.mpr ⟨missing, rfl⟩⟩
    · rintro ⟨rfl, _, contributes, gathered⟩
      obtain ⟨definitions, reads, rfl⟩ := contributes_definitions_iff.mp contributes
      obtain ⟨missing, rfl⟩ := gathered_definitions_iff.mp gathered
      exact ⟨missing, definitions, reads _ breaks, rfl⟩
  · have unknown : name ∉ fieldNames := by
      simp [fieldNames, isKeep, isWhitespace, isDefinitions]
    rw [readMember_other unknown, colon_colonText spaced]
    change (skipValue (member.beforeValue ++ (text ++ rest))).map _ = _ ↔ _
    rw [skipValue_append spaced.beforeValue isValue breaks]
    constructor
    · rintro ⟨⟩
      exact ⟨rfl, _, .other unknown, gathered_empty_iff.mpr rfl⟩
    · rintro ⟨rfl, _, contributes, gathered⟩
      obtain rfl := (contributes_other_iff unknown).mp contributes
      rw [gathered_empty_iff.mp gathered]
      rfl

/-- What a member gives does not depend on what follows. -/
theorem readMember_readsAlone {member : Member} (wellFormed : member.WellFormed) (fields : Partial)
    (name : String) :
    ReadsAlone (fun input => readMember fields name (member.colonText input)) member.value := by
  intro rest next after breaks read
  obtain ⟨spaced, isValue⟩ := wellFormed
  obtain ⟨rfl, given⟩ := (readMember_eq_ok_iff spaced isValue name breaks).mp read
  refine ⟨rfl, fun rest' breaks' => ?_⟩
  exact (readMember_eq_ok_iff spaced isValue name breaks').mpr ⟨rfl, given⟩

/-- A field that is read has a colon and a value. -/
theorem exists_of_readField {α : Type} {present : Option α} {name : String}
    {reader : Input → Except ReadError (α × Input)} (covers : Covers reader)
    {change : α → Partial} {input rest : Input}
    (read : readField present name reader change input = .ok (next, rest)) :
    ∃ following blanks text, colon input = .ok following ∧ Blank blanks ∧ IsValue text ∧
      following = blanks ++ (text ++ rest) := by
  rw [readField] at read
  by_cases isPresent : present.isSome = true
  · rw [if_pos isPresent] at read
    cases read
  · rw [if_neg isPresent] at read
    obtain ⟨⟨value, after⟩, readValue, done⟩ := map_eq_ok_iff.mp read
    cases done
    obtain ⟨following, colonRead, readValue⟩ := bind_eq_ok_iff.mp readValue
    obtain ⟨blanks, text, blank, isValue, isText⟩ := covers _ _ _ readValue
    exact ⟨following, blanks, text, colonRead, blank, isValue, isText⟩

/-- What is read as a member of settings is a colon and a value. -/
theorem coversMember_readMember : CoversMember readMember := by
  intro fields name input next rest read
  obtain ⟨following, blanks', text, colonRead, blank', isValue, rfl⟩ :
      ∃ following blanks text, colon input = .ok following ∧ Blank blanks ∧ IsValue text ∧
        following = blanks ++ (text ++ rest) := by
    by_cases isKeep : name = "keep_whitespace"
    · rw [isKeep, readMember_keepWhitespace_eq] at read
      exact exists_of_readField covers_boolean read
    by_cases isWhitespace : name = "whitespace"
    · rw [isWhitespace, readMember_whitespace_eq] at read
      exact exists_of_readField covers_text read
    by_cases isDefinitions : name = "definitions"
    · rw [isDefinitions, readMember_definitions_eq] at read
      exact exists_of_readField covers_readDefinitions read
    · have unknown : name ∉ fieldNames := by
        simp [fieldNames, isKeep, isWhitespace, isDefinitions]
      rw [readMember_other unknown] at read
      obtain ⟨after, skipped, done⟩ := map_eq_ok_iff.mp read
      cases done
      obtain ⟨following, colonRead, skippedValue⟩ := bind_eq_ok_iff.mp skipped
      obtain ⟨blanks, text, blank, isValue, isText⟩ := exists_isValue_of_skipValue skippedValue
      exact ⟨following, blanks, text, colonRead, blank, isValue, isText⟩
  obtain ⟨blanks, blank, rfl⟩ := exists_blank_of_colon colonRead
  exact ⟨blanks, blanks', text, blank, blank', isValue, rfl⟩

end TokenGrammar.Settings
