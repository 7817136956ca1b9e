import TokenGrammar.Proofs.Tokenizer.Registry

/-! # Tokenizers from settings

A tokenizer can be made from settings, or from a list of definitions. The two ways differ in when
the pattern of white space is looked at and where it is kept: settings hold it apart, and it comes
into the merged pattern only when the scanner is made. In the end it does not matter.

* `Settings.given`: the definitions that settings give.
* `Settings.explicit`: the same with white space among them, in the last place if not in another.
* `Tokenizer.defineAll_of_latestOfEach`: what definitions given in order leave.
* `Tokenizer.ofLatest`, `Tokenizer.described`: the tokenizers that both ways come to.
* `Tokenizer.effectiveDefinitions_described`: their scanners are made from the same definitions.
* `Tokenizer.ofSettings_eq_explicit`: errors, definitions and scans are the same. -/

namespace TokenGrammar

open Definition (latestOfEach)

namespace Settings

/-- The definitions that settings give, in order. -/
def given (settings : Settings) : List Definition :=
  settings.definitions.map DefinitionSetting.toDefinition

/-- The definitions that settings give, followed by the one of white space where none of them is. -/
def explicit (settings : Settings) : List Definition :=
  if settings.given.any Definition.isWhitespace then settings.given
  else settings.given ++ [.regex whitespaceName settings.whitespace]

end Settings

namespace Definition

/-- The last definitions of each name have the names that were given. -/
theorem mem_names_latestOfEach_iff {definitions : List Definition} {name : String} :
    name ∈ (latestOfEach definitions).map Definition.name ↔
      name ∈ definitions.map Definition.name := by
  constructor
  · exact mem_names_latestOfEach
  · intro member
    obtain ⟨last, found, rfl⟩ := exists_findRev? member
    have among : last ∈ latestOfEach definitions :=
      List.mem_filterMap.mpr ⟨last.name, List.mem_eraseDups.mpr member, found⟩
    exact List.mem_map_of_mem among

/-- A definition is of white space if its name is the one for that. -/
theorem any_isWhitespace_iff {definitions : List Definition} :
    definitions.any isWhitespace = true ↔ whitespaceName ∈ definitions.map Definition.name := by
  simp [isWhitespace, List.any_eq_true]

/-- White space is among the last definitions of each name just if it was given. -/
theorem any_isWhitespace_latestOfEach (definitions : List Definition) :
    (latestOfEach definitions).any isWhitespace = definitions.any isWhitespace := by
  rw [Bool.eq_iff_iff, any_isWhitespace_iff, any_isWhitespace_iff, mem_names_latestOfEach_iff]

/-- A definition of a new name comes last. -/
theorem latestOfEach_concat_of_not_mem {definitions : List Definition} {definition : Definition}
    (new : definition.name ∉ definitions.map Definition.name) :
    latestOfEach (definitions ++ [definition]) = latestOfEach definitions ++ [definition] := by
  have absent : definition.name ∉ (latestOfEach definitions).map Definition.name :=
    fun member => new (mem_names_latestOfEach member)
  rw [← insertInto_latestOfEach, insertInto_of_not_mem absent]

end Definition

namespace Tokenizer

/-- A valid definition changes nothing but the list of definitions where no scanner is at hand. -/
theorem define_of_valid {tokenizer : Tokenizer} {definition : Definition}
    (missing : tokenizer.scanner = none) (valid : definition.Valid) :
    tokenizer.define definition =
      .ok { tokenizer with definitions := definition.insertInto tokenizer.definitions } := by
  have validated : definition.validate = .ok () := Definition.validate_eq_ok_iff.mpr valid
  rw [define, validated]
  by_cases known : tokenizer.definitions.find? (·.name == definition.name) = some definition
  · have same := Definition.insertInto_eq_self_iff.mpr known
    simp only [if_pos known, same]
  · simp only [if_neg known, ← missing]

/-- Valid definitions given in order leave the last one of each name, and all else as it was. -/
theorem defineAll_of_latestOfEach {tokenizer : Tokenizer} {before definitions : List Definition}
    (missing : tokenizer.scanner = none) (listed : tokenizer.definitions = latestOfEach before)
    (valid : ∀ definition ∈ definitions, definition.Valid) :
    tokenizer.defineAll definitions =
      .ok { tokenizer with definitions := latestOfEach (before ++ definitions) } := by
  induction definitions generalizing tokenizer before with
  | nil => rw [defineAll, List.append_nil, ← listed]
  | cons first definitions induction =>
      obtain ⟨validFirst, validRest⟩ := List.forall_mem_cons.mp valid
      have defined := define_of_valid missing validFirst
      rw [listed, Definition.insertInto_latestOfEach] at defined
      have following := @induction
        { tokenizer with definitions := latestOfEach (before ++ [first]) } (before ++ [first])
        missing rfl validRest
      rw [defineAll_cons_of_ok defined, following, List.append_assoc, List.singleton_append]

/-- The tokenizer that holds the last one of each name. -/
def ofLatest (definitions : List Definition) : Tokenizer :=
  { empty with definitions := latestOfEach definitions }

/-- Valid definitions make the tokenizer of the last one of each name. -/
theorem ofDefinitions_of_valid {definitions : List Definition}
    (valid : ∀ definition ∈ definitions, definition.Valid) :
    ofDefinitions definitions = .ok (ofLatest definitions) := by
  have listed : empty.definitions = latestOfEach [] := rfl
  exact defineAll_of_latestOfEach rfl listed valid

/-- The tokenizer that settings describe where nothing is wrong with them. -/
def described (settings : Settings) : Tokenizer :=
  { ofLatest settings.given with
    keepWhitespace := settings.keepWhitespace
    whitespaceSource := settings.whitespace }

/-- Settings with valid definitions and a valid pattern make the tokenizer that they describe. -/
theorem ofSettings_of_valid_given {settings : Settings}
    (validPattern : (Definition.whitespace settings.whitespace).Valid)
    (validGiven : ∀ definition ∈ settings.given, definition.Valid) :
    ofSettings settings = .ok (described settings) := by
  let start : Tokenizer :=
    { empty with
      keepWhitespace := settings.keepWhitespace
      whitespaceSource := settings.whitespace }
  have listed : start.definitions = latestOfEach [] := rfl
  rw [ofSettings_of_valid validPattern]
  exact defineAll_of_latestOfEach rfl listed validGiven

/-- What a scan answers depends on the definitions, on what becomes of white space and on the
handler of other spans, as long as no scanner is at hand. -/
theorem scan_eq_of_effectiveDefinitions {tokenizer other : Tokenizer}
    (missing : tokenizer.scanner = none) (missing' : other.scanner = none)
    (definitions : tokenizer.effectiveDefinitions = other.effectiveDefinitions)
    (keeps : tokenizer.keepWhitespace = other.keepWhitespace)
    (handles : tokenizer.onUnknown = other.onUnknown) (input : String) :
    (tokenizer.scan input).1 = (other.scan input).1 := by
  have prepared : tokenizer.prepare = other.prepare := by
    rw [prepare_of_none missing, prepare_of_none missing', definitions]
  rw [scan, scan, prepared, keeps, handles]
  cases other.prepare <;> rfl

/-- The pattern of white space that settings hold apart comes to stand where it would as the last
definition. -/
theorem effectiveDefinitions_described (settings : Settings) :
    (described settings).effectiveDefinitions =
      (ofLatest settings.explicit).effectiveDefinitions := by
  have listed : (described settings).definitions = latestOfEach settings.given := rfl
  have listed' : (ofLatest settings.explicit).definitions = latestOfEach settings.explicit := rfl
  have pattern : (described settings).whitespaceSource = settings.whitespace := rfl
  have sameBlank := Definition.any_isWhitespace_latestOfEach settings.given
  by_cases blank : settings.given.any Definition.isWhitespace = true
  · have same : settings.explicit = settings.given := if_pos blank
    rw [effectiveDefinitions, effectiveDefinitions, listed, listed', same, sameBlank, if_pos blank,
      if_pos blank]
  · -- Its name is new, so that it goes to the end of the list.
    have last : settings.explicit =
        settings.given ++ [.regex whitespaceName settings.whitespace] := if_neg blank
    have new : whitespaceName ∉ settings.given.map Definition.name := by
      rwa [← Definition.any_isWhitespace_iff]
    have appended : latestOfEach settings.explicit =
        latestOfEach settings.given ++ [.regex whitespaceName settings.whitespace] := by
      rw [last]
      exact Definition.latestOfEach_concat_of_not_mem new
    have blankLast :
        (ofLatest settings.explicit).definitions.any Definition.isWhitespace = true := by
      rw [listed', appended, Definition.any_isWhitespace_iff]
      simp [Definition.regex]
    rw [effectiveDefinitions, effectiveDefinitions, if_pos blankLast, listed, sameBlank,
      if_neg blank, listed', appended, pattern]
    rfl

/-- So a scan does not show which way the tokenizer was made. -/
theorem scan_described (settings : Settings) (input : String) :
    ((described settings).scan input).1 =
      (((ofLatest settings.explicit).withWhitespaceKept settings.keepWhitespace).scan input).1 := by
  have effective : (described settings).effectiveDefinitions =
      ((ofLatest settings.explicit).withWhitespaceKept
        settings.keepWhitespace).effectiveDefinitions :=
    effectiveDefinitions_described settings
  exact scan_eq_of_effectiveDefinitions rfl rfl effective rfl rfl input

/-- Definitions that make a tokenizer are all valid. -/
theorem valid_of_ofDefinitions {definitions : List Definition} {tokenizer : Tokenizer}
    (made : ofDefinitions definitions = .ok tokenizer) :
    ∀ definition ∈ definitions, definition.Valid := by
  have cases := ofDefinitions_cases definitions
  cases first : definitions.find? (fun definition => !decide definition.Valid) with
  | none =>
      intro definition member
      simpa using List.find?_eq_none.mp first definition member
  | some refused =>
      rw [first] at cases
      obtain ⟨fault, -, failed⟩ := cases
      rw [failed] at made
      cases made

/-- Definitions that are refused are refused for the same reason by every tokenizer. -/
theorem defineAll_eq_of_ofDefinitions {definitions : List Definition} {error : TokenizerError}
    (failed : ofDefinitions definitions = .error error) (tokenizer : Tokenizer) :
    tokenizer.defineAll definitions = .error error := by
  cases first : definitions.find? (fun definition => !decide definition.Valid) with
  | some refused =>
      have refuses : ∀ start : Tokenizer, ∃ fault, refused.fault? = some fault ∧
          start.defineAll definitions = .error (.invalidPattern refused.name fault) :=
        fun _ => defineAll_of_refused first
      obtain ⟨fault, wrong, refusal⟩ := refuses empty
      obtain ⟨fault', wrong', refusal'⟩ := refuses tokenizer
      have sameFault : fault' = fault := Option.some.inj (wrong'.symm.trans wrong)
      have sameError : error = .invalidPattern refused.name fault :=
        Except.error.inj (failed.symm.trans refusal)
      rw [refusal', sameFault, sameError]
  | none =>
      have cases := ofDefinitions_cases definitions
      rw [first] at cases
      obtain ⟨made, isMade, -⟩ := cases
      rw [failed] at isMade
      cases isMade

/-- The definitions with white space among them are valid where the others and the pattern are. -/
theorem valid_explicit {settings : Settings}
    (validPattern : (Definition.whitespace settings.whitespace).Valid)
    (validGiven : ∀ definition ∈ settings.given, definition.Valid) :
    ∀ definition ∈ settings.explicit, definition.Valid := by
  intro definition member
  rw [Settings.explicit] at member
  split at member
  · exact validGiven definition member
  · rcases List.mem_append.mp member with isGiven | isLast
    · exact validGiven definition isGiven
    · rw [List.mem_singleton.mp isLast]
      exact validPattern

/-- **Settings and definitions make the same tokenizer.** Settings with a wrong pattern of white
space are refused for that, whatever the definitions are, and otherwise just where the definitions
are, for the same reason. If they are not refused, the tokenizer has the definitions that those
given leave, and it scans every text as does the tokenizer made from the definitions with white
space among them, in the last place if not in another. -/
theorem ofSettings_eq_explicit (settings : Settings) :
    match (Definition.whitespace settings.whitespace).fault?, ofDefinitions settings.given with
    | some fault, _ => ofSettings settings = .error (.invalidPattern whitespaceName fault)
    | none, .error error => ofSettings settings = .error error
    | none, .ok plain =>
        ∃ tokenizer explicit : Tokenizer,
          ofSettings settings = .ok tokenizer ∧
            ofDefinitions settings.explicit = .ok explicit ∧
            tokenizer.definitions = plain.definitions ∧
            tokenizer.effectiveDefinitions = explicit.effectiveDefinitions ∧
            ∀ input, (tokenizer.scan input).1 =
              ((explicit.withWhitespaceKept settings.keepWhitespace).scan input).1 := by
  cases wrong : (Definition.whitespace settings.whitespace).fault? with
  | some fault =>
      have refused := Definition.validate_eq_error_iff.mpr ⟨fault, wrong, rfl⟩
      rw [ofSettings, refused]
      rfl
  | none =>
      have validPattern : (Definition.whitespace settings.whitespace).Valid := wrong
      cases made : ofDefinitions settings.given with
      | error error =>
          exact (ofSettings_of_valid validPattern).trans (defineAll_eq_of_ofDefinitions made _)
      | ok plain =>
          have validGiven := valid_of_ofDefinitions made
          have validExplicit := valid_explicit validPattern validGiven
          have plainEq : plain = ofLatest settings.given :=
            Except.ok.inj (made.symm.trans (ofDefinitions_of_valid validGiven))
          refine ⟨described settings, ofLatest settings.explicit,
            ofSettings_of_valid_given validPattern validGiven, ofDefinitions_of_valid validExplicit,
            ?_, effectiveDefinitions_described settings, scan_described settings⟩
          rw [plainEq]
          rfl

end Tokenizer

end TokenGrammar
