import TokenGrammar.Parse
import TokenGrammar.Settings

/-! # The scanner at hand is never stale

A tokenizer keeps the scanner that a scan has made from its definitions, and drops it when the
definitions change. Whatever is done with a tokenizer and in whatever order, nothing that it answers
shows whether a scanner was at hand.

* `Tokenizer.Operation`, `Tokenizer.run`: what can be done with a tokenizer.
* `Tokenizer.Step`: the ways in which an operation can change a tokenizer.
* `Tokenizer.Sound`: what every operation preserves.
* `Tokenizer.fresh`, `Tokenizer.settings`: the tokenizer without its scanner, and how to make it.
* `Tokenizer.CompiledSince`: when a run of operations leaves a scanner at hand.
* `Tokenizer.run_never_stale`: the scanner, and all answers, are those of the definitions. -/

namespace TokenGrammar

namespace Definition

/-- Inserting a definition changes nothing just where it is the first of its name. -/
theorem insertInto_eq_self_iff {definition : Definition} {definitions : List Definition} :
    definition.insertInto definitions = definitions ↔
      definitions.find? (·.name == definition.name) = some definition := by
  induction definitions with
  | nil => simp
  | cons first rest induction =>
      by_cases same : first.name = definition.name
      · rw [insertInto_cons_of_eq same, List.find?_cons_of_pos (by simp [same])]
        simp [eq_comm]
      · rw [insertInto_cons_of_ne same, List.find?_cons_of_neg (by simp [same])]
        simp [induction]

/-- A definition of a new name goes to the end. -/
theorem insertInto_of_not_mem {definition : Definition} {definitions : List Definition}
    (new : definition.name ∉ definitions.map name) :
    definition.insertInto definitions = definitions ++ [definition] := by
  induction definitions with
  | nil => rfl
  | cons first rest induction =>
      rw [List.map_cons, List.mem_cons, not_or] at new
      have other : first.name ≠ definition.name := Ne.symm new.1
      rw [insertInto_cons_of_ne other, induction new.2]
      rfl

/-- Nothing but the definition itself is new after it was inserted. -/
theorem eq_or_mem_of_mem_insertInto {definition other : Definition}
    {definitions : List Definition} (member : other ∈ definition.insertInto definitions) :
    other = definition ∨ other ∈ definitions := by
  induction definitions with
  | nil => exact .inl (List.mem_singleton.mp member)
  | cons first rest induction =>
      by_cases same : first.name = definition.name
      · rw [insertInto_cons_of_eq same] at member
        rcases List.mem_cons.mp member with isDefinition | later
        · exact .inl isDefinition
        · exact .inr (List.mem_cons_of_mem first later)
      · rw [insertInto_cons_of_ne same] at member
        rcases List.mem_cons.mp member with rfl | later
        · exact .inr List.mem_cons_self
        · exact (induction later).imp id (List.mem_cons_of_mem first)

/-- A name comes up twice after an insertion only if it did before. -/
theorem nodup_insertInto {definitions : List Definition}
    (distinct : (definitions.map name).Nodup) (definition : Definition) :
    ((definition.insertInto definitions).map name).Nodup := by
  induction definitions with
  | nil => simp
  | cons first rest induction =>
      rw [List.map_cons, List.nodup_cons] at distinct
      by_cases same : first.name = definition.name
      · rw [insertInto_cons_of_eq same, List.map_cons, List.nodup_cons, ← same]
        exact distinct
      · rw [insertInto_cons_of_ne same, List.map_cons, List.nodup_cons]
        refine ⟨?_, induction distinct.2⟩
        intro again
        obtain ⟨other, member, sameName⟩ := List.mem_map.mp again
        rcases eq_or_mem_of_mem_insertInto member with rfl | later
        · exact same sameName.symm
        · exact distinct.1 (List.mem_map.mpr ⟨other, later, sameName⟩)

end Definition

namespace Tokenizer

/-- An operation on a tokenizer. -/
inductive Operation where
  /-- Add or replace a definition. -/
  | define (definition : Definition)
  /-- Say whether white space becomes tokens too. -/
  | keepWhitespace (keep : Bool)
  /-- Say what becomes of spans without a match. -/
  | handleUnknown (handler : UnknownHandler)
  /-- Cut a text into tokens. -/
  | scan (input : String)
  /-- Cut a text into tokens, for a parse. -/
  | tokenize (input : String)
  /-- Parse a text. -/
  | parse (rules : Rules) (grammar : Grammar) (input : String)

/-- Whether an operation cuts a text into tokens. -/
def Operation.Scans : Operation → Prop
  | .scan _ | .tokenize _ | .parse .. => True
  | _ => False

/-- What an operation leaves. A definition that is refused changes nothing. -/
def after (tokenizer : Tokenizer) : Operation → Tokenizer
  | .define definition => (tokenizer.define definition).toOption.getD tokenizer
  | .keepWhitespace keep => tokenizer.withWhitespaceKept keep
  | .handleUnknown handler => tokenizer.withUnknownHandler handler
  | .scan input => (tokenizer.scan input).2
  | .tokenize input => (tokenizer.tokenize input).2
  | .parse rules grammar input => (parseText tokenizer rules grammar input).2

/-- What operations leave, one after the other. -/
def run (tokenizer : Tokenizer) (operations : List Operation) : Tokenizer :=
  operations.foldl after tokenizer

@[simp] theorem run_nil (tokenizer : Tokenizer) : tokenizer.run [] = tokenizer := rfl

@[simp] theorem run_cons (tokenizer : Tokenizer) (first : Operation)
    (operations : List Operation) :
    tokenizer.run (first :: operations) = (tokenizer.after first).run operations := rfl

/-- The tokenizers that have just been made. -/
inductive Made : Tokenizer → Prop where
  /-- From a list of definitions. -/
  | ofDefinitions {definitions : List Definition} {tokenizer : Tokenizer}
      (made : ofDefinitions definitions = .ok tokenizer) : Made tokenizer
  /-- From settings. -/
  | ofSettings {settings : Settings} {tokenizer : Tokenizer}
      (made : ofSettings settings = .ok tokenizer) : Made tokenizer

/-- The tokenizer with nothing but its definitions and settings. -/
def fresh (tokenizer : Tokenizer) : Tokenizer :=
  { tokenizer with scanner := none }

/-- Settings with the definitions of a tokenizer, in their order. -/
def settings (tokenizer : Tokenizer) : Settings :=
  ⟨tokenizer.keepWhitespace, tokenizer.whitespaceSource,
    tokenizer.definitions.map fun definition => .pattern definition.name definition.source⟩

/-! ## What an operation can do -/

/-- Whether an operation makes a scanner: it scans, none is at hand, and the definitions can be
merged. -/
def Compiles (tokenizer : Tokenizer) (operation : Operation) : Prop :=
  operation.Scans ∧ tokenizer.scanner = none ∧
    ∃ scanner, Scanner.compile tokenizer.effectiveDefinitions = .ok scanner

/-- Whether an operation is a definition that changes the list of definitions. -/
def Redefines (tokenizer : Tokenizer) (operation : Operation) : Prop :=
  (∃ definition, operation = .define definition) ∧
    (tokenizer.after operation).definitions ≠ tokenizer.definitions

/-- The ways in which an operation can change a tokenizer. -/
inductive Step (tokenizer : Tokenizer) : Operation → Tokenizer → Prop where
  /-- Nothing changes: a definition is refused or known. -/
  | known (definition : Definition) : Step tokenizer (.define definition) tokenizer
  /-- A definition is added, or replaces another. The scanner is dropped. -/
  | define {definition : Definition} (valid : definition.Valid)
      (new : definition.insertInto tokenizer.definitions ≠ tokenizer.definitions) :
      Step tokenizer (.define definition)
        { tokenizer with
          definitions := definition.insertInto tokenizer.definitions
          scanner := none }
  /-- White space is treated in another way. -/
  | keepWhitespace (keep : Bool) :
      Step tokenizer (.keepWhitespace keep) { tokenizer with keepWhitespace := keep }
  /-- Spans without a match are treated in another way. -/
  | handleUnknown (handler : UnknownHandler) :
      Step tokenizer (.handleUnknown handler) { tokenizer with onUnknown := handler }
  /-- A scanner is at hand. -/
  | cached {operation : Operation} (scans : operation.Scans) {scanner : Scanner}
      (atHand : tokenizer.scanner = some scanner) : Step tokenizer operation tokenizer
  /-- There is no scanner of the definitions. -/
  | broken {operation : Operation} (scans : operation.Scans) (missing : tokenizer.scanner = none)
      {error : TokenizerError}
      (refused : Scanner.compile tokenizer.effectiveDefinitions = .error error) :
      Step tokenizer operation tokenizer
  /-- A scanner is made. -/
  | compile {operation : Operation} (scans : operation.Scans) (missing : tokenizer.scanner = none)
      {scanner : Scanner}
      (compiled : Scanner.compile tokenizer.effectiveDefinitions = .ok scanner) :
      Step tokenizer operation { tokenizer with scanner := some scanner }

/-- A scan keeps the scanner that it used. -/
theorem scan_of_prepare {tokenizer : Tokenizer} {scanner : Scanner}
    (prepared : tokenizer.prepare = .ok scanner) (input : String) :
    tokenizer.scan input =
      (scanner.scan tokenizer.keepWhitespace tokenizer.onUnknown input,
        { tokenizer with scanner := some scanner }) := by
  rw [scan, prepared]

/-- A scan without a scanner changes nothing. -/
theorem scan_of_prepare_error {tokenizer : Tokenizer} {error : TokenizerError}
    (refused : tokenizer.prepare = .error error) (input : String) :
    tokenizer.scan input = (.error error, tokenizer) := by
  rw [scan, refused]

/-- Without a scanner at hand one is made of the definitions. -/
theorem prepare_of_none {tokenizer : Tokenizer} (missing : tokenizer.scanner = none) :
    tokenizer.prepare = Scanner.compile tokenizer.effectiveDefinitions := by
  rw [prepare, missing]

/-- A parse changes the tokenizer as a scan does. -/
theorem parseText_snd (tokenizer : Tokenizer) (rules : Rules) (grammar : Grammar)
    (input : String) :
    (parseText tokenizer rules grammar input).2 = (tokenizer.scan input).2 := by
  rw [parseText, tokenize]
  cases (tokenizer.scan input).1 <;> rfl

/-- An operation that scans leaves what a scan leaves. -/
theorem exists_scan_of_scans {operation : Operation} (scans : operation.Scans)
    (tokenizer : Tokenizer) : ∃ input, tokenizer.after operation = (tokenizer.scan input).2 := by
  cases operation with
  | scan input => exact ⟨input, rfl⟩
  | tokenize input => exact ⟨input, rfl⟩
  | parse rules grammar input => exact ⟨input, tokenizer.parseText_snd rules grammar input⟩
  | _ => exact scans.elim

/-- A definition is refused, known, or inserted. -/
theorem step_define (tokenizer : Tokenizer) (definition : Definition) :
    tokenizer.Step (.define definition) (tokenizer.after (.define definition)) := by
  cases validated : definition.validate with
  | error error =>
      simp only [after, define, validated, Except.toOption, Option.getD_none]
      exact .known definition
  | ok _ =>
      have valid : definition.Valid := Definition.validate_eq_ok_iff.mp validated
      by_cases known : tokenizer.definitions.find? (·.name == definition.name) = some definition
      · simp only [after, define, validated, if_pos known, Except.toOption, Option.getD_some]
        exact .known definition
      · simp only [after, define, validated, if_neg known, Except.toOption, Option.getD_some]
        refine .define valid ?_
        rw [ne_eq, Definition.insertInto_eq_self_iff]
        exact known

/-- A scan uses the scanner at hand, fails to make one, or makes one. -/
theorem step_scan {operation : Operation} (scans : operation.Scans) (tokenizer : Tokenizer) :
    tokenizer.Step operation (tokenizer.after operation) := by
  obtain ⟨input, scanned⟩ := exists_scan_of_scans scans tokenizer
  rw [scanned]
  cases atHand : tokenizer.scanner with
  | some scanner =>
      have same : { tokenizer with scanner := some scanner } = tokenizer := by rw [← atHand]
      rw [scan_of_prepare (prepare_of_scanner atHand), same]
      exact .cached scans atHand
  | none =>
      have prepared := prepare_of_none atHand
      cases compiled : Scanner.compile tokenizer.effectiveDefinitions with
      | error error =>
          rw [scan_of_prepare_error (prepared.trans compiled)]
          exact .broken scans atHand compiled
      | ok scanner =>
          rw [scan_of_prepare (prepared.trans compiled)]
          exact .compile scans atHand compiled

/-- No operation changes a tokenizer in another way. -/
theorem step_after (tokenizer : Tokenizer) (operation : Operation) :
    tokenizer.Step operation (tokenizer.after operation) := by
  cases operation with
  | define definition => exact tokenizer.step_define definition
  | keepWhitespace keep => exact .keepWhitespace keep
  | handleUnknown handler => exact .handleUnknown handler
  | scan | tokenize | parse =>
      apply step_scan
      trivial

/-! ## What every operation preserves -/

/-- What holds of a tokenizer at all times. -/
structure Sound (tokenizer : Tokenizer) : Prop where
  /-- Each definition is valid. -/
  valid : ∀ definition ∈ tokenizer.definitions, definition.Valid
  /-- No two definitions have the same name. -/
  distinct : (tokenizer.definitions.map Definition.name).Nodup
  /-- So is the pattern of white space. -/
  whitespace : (Definition.whitespace tokenizer.whitespaceSource).Valid
  /-- A scanner at hand is the one made from the definitions. -/
  current : ∀ scanner, tokenizer.scanner = some scanner →
    Scanner.compile tokenizer.effectiveDefinitions = .ok scanner

/-- An operation leaves a tokenizer sound. -/
theorem Sound.after {tokenizer : Tokenizer} (sound : tokenizer.Sound) (operation : Operation) :
    (tokenizer.after operation).Sound := by
  have step : tokenizer.Step operation (tokenizer.after operation) := tokenizer.step_after operation
  generalize tokenizer.after operation = next at step
  cases step with
  | known definition => exact sound
  | @define definition valid new =>
      refine ⟨?_, Definition.nodup_insertInto sound.distinct definition, sound.whitespace, nofun⟩
      intro other member
      rcases Definition.eq_or_mem_of_mem_insertInto member with rfl | earlier
      · exact valid
      · exact sound.valid other earlier
  | keepWhitespace keep => exact ⟨sound.valid, sound.distinct, sound.whitespace, sound.current⟩
  | handleUnknown handler => exact ⟨sound.valid, sound.distinct, sound.whitespace, sound.current⟩
  | cached scans atHand => exact sound
  | broken scans missing refused => exact sound
  | compile scans missing compiled =>
      refine ⟨sound.valid, sound.distinct, sound.whitespace, ?_⟩
      intro other atHand
      cases Option.some.inj atHand
      exact compiled

/-- Operations leave a tokenizer sound. -/
theorem Sound.run {tokenizer : Tokenizer} (sound : tokenizer.Sound) (operations : List Operation) :
    (tokenizer.run operations).Sound := by
  induction operations generalizing tokenizer with
  | nil => exact sound
  | cons first operations induction => exact induction (sound.after first)

/-- The usual pattern of white space is valid. -/
theorem valid_defaultWhitespace : (Definition.whitespace defaultWhitespace).Valid := by
  decide +kernel

/-- A tokenizer without definitions is sound. -/
theorem sound_of_definitions_eq_nil {tokenizer : Tokenizer} (none : tokenizer.definitions = [])
    (whitespace : (Definition.whitespace tokenizer.whitespaceSource).Valid)
    (missing : tokenizer.scanner = .none) : tokenizer.Sound where
  valid := by simp [none]
  distinct := by simp [none]
  whitespace := whitespace
  current scanner atHand := by simp [missing] at atHand

/-- After a definition that is not refused the others follow. -/
theorem defineAll_cons_of_ok {tokenizer next : Tokenizer} {first : Definition}
    (defined : tokenizer.define first = .ok next) (definitions : List Definition) :
    tokenizer.defineAll (first :: definitions) = next.defineAll definitions := by
  rw [defineAll, defined]
  rfl

/-- Settings with a valid pattern of white space are made a tokenizer definition by definition. -/
theorem ofSettings_of_valid {settings : Settings}
    (valid : (Definition.whitespace settings.whitespace).Valid) :
    ofSettings settings =
      defineAll
        { empty with
          keepWhitespace := settings.keepWhitespace
          whitespaceSource := settings.whitespace }
        (settings.definitions.map DefinitionSetting.toDefinition) := by
  rw [ofSettings, Definition.validate_eq_ok_iff.mpr valid]
  rfl

/-- Adding definitions keeps a tokenizer sound, and does not make a scanner. -/
theorem Sound.defineAll {tokenizer next : Tokenizer} {definitions : List Definition}
    (sound : tokenizer.Sound) (missing : tokenizer.scanner = none)
    (defined : tokenizer.defineAll definitions = .ok next) : next.Sound ∧ next.scanner = none := by
  induction definitions generalizing tokenizer with
  | nil =>
      cases Except.ok.inj defined
      exact ⟨sound, missing⟩
  | cons first definitions induction =>
      cases inserted : tokenizer.define first with
      | error error =>
          rw [Tokenizer.defineAll, inserted] at defined
          cases defined
      | ok middle =>
          rw [defineAll_cons_of_ok inserted] at defined
          have reached : tokenizer.after (.define first) = middle := by
            simp [Tokenizer.after, inserted, Except.toOption]
          have step := tokenizer.step_after (.define first)
          have soundMiddle := sound.after (.define first)
          rw [reached] at step soundMiddle
          have missingMiddle : middle.scanner = none := by
            cases step with
            | known => exact missing
            | define valid new => rfl
            | cached scans => exact scans.elim
            | broken scans => exact scans.elim
            | compile scans => exact scans.elim
          exact induction soundMiddle missingMiddle defined

/-- A tokenizer that has just been made is sound, and has no scanner yet. -/
theorem Made.sound {tokenizer : Tokenizer} (made : tokenizer.Made) :
    tokenizer.Sound ∧ tokenizer.scanner = none := by
  cases made with
  | ofDefinitions made =>
      have sound : empty.Sound := sound_of_definitions_eq_nil rfl valid_defaultWhitespace rfl
      exact sound.defineAll rfl made
  | @ofSettings settings _ made =>
      cases validated : (Definition.whitespace settings.whitespace).validate with
      | error error =>
          rw [Tokenizer.ofSettings, validated] at made
          cases made
      | ok _ =>
          have whitespace := Definition.validate_eq_ok_iff.mp validated
          rw [ofSettings_of_valid whitespace] at made
          exact (sound_of_definitions_eq_nil rfl whitespace rfl).defineAll rfl made

/-! ## Making a tokenizer anew -/

/-- Valid definitions of new names are added at the end, in order. -/
theorem defineAll_of_distinct {tokenizer : Tokenizer} {definitions : List Definition}
    (missing : tokenizer.scanner = none)
    (valid : ∀ definition ∈ definitions, definition.Valid)
    (distinct : ((tokenizer.definitions ++ definitions).map Definition.name).Nodup) :
    tokenizer.defineAll definitions =
      .ok { tokenizer with definitions := tokenizer.definitions ++ definitions } := by
  induction definitions generalizing tokenizer with
  | nil => simp [Tokenizer.defineAll]
  | cons first definitions induction =>
      have new : first.name ∉ tokenizer.definitions.map Definition.name := by
        rw [List.map_append, List.nodup_append] at distinct
        intro member
        exact distinct.2.2 first.name member first.name (by simp) rfl
      have unknown :
          ¬ tokenizer.definitions.find? (·.name == first.name) = some first := by
        rw [← Definition.insertInto_eq_self_iff, Definition.insertInto_of_not_mem new]
        simp
      have defined : tokenizer.define first =
          .ok { tokenizer with definitions := tokenizer.definitions ++ [first] } := by
        have validated := Definition.validate_eq_ok_iff.mpr (valid first List.mem_cons_self)
        rw [define, validated]
        simp only [if_neg unknown, Definition.insertInto_of_not_mem new, ← missing]
      have rest : ∀ definition ∈ definitions, definition.Valid :=
        fun definition member => valid definition (List.mem_cons_of_mem first member)
      have following : Tokenizer.defineAll
          { tokenizer with definitions := tokenizer.definitions ++ [first] } definitions =
          .ok { tokenizer with definitions := tokenizer.definitions ++ [first] ++ definitions } :=
        induction missing rest (by simpa using distinct)
      rw [defineAll_cons_of_ok defined, following, List.append_assoc]
      rfl

/-- A sound tokenizer can be made anew from its settings, but for the scanner. -/
theorem Sound.ofSettings_settings {tokenizer : Tokenizer} (sound : tokenizer.Sound) :
    (Tokenizer.ofSettings tokenizer.settings).map (·.withUnknownHandler tokenizer.onUnknown) =
      .ok tokenizer.fresh := by
  have listed : tokenizer.settings.definitions.map DefinitionSetting.toDefinition =
      tokenizer.definitions := by
    rw [settings, List.map_map]
    exact List.map_id'' (fun definition => rfl) _
  have distinct : (([] ++ tokenizer.definitions).map Definition.name).Nodup := sound.distinct
  rw [ofSettings_of_valid sound.whitespace, listed,
    defineAll_of_distinct rfl sound.valid distinct]
  rfl

/-! ## What answers depend on -/

/-- What a scan answers does not depend on whether a scanner is at hand. -/
theorem Sound.scan_fresh {tokenizer : Tokenizer} (sound : tokenizer.Sound) (input : String) :
    (tokenizer.scan input).1 = (tokenizer.fresh.scan input).1 := by
  have prepared : tokenizer.fresh.prepare = tokenizer.prepare := by
    have missing : tokenizer.fresh.scanner = none := rfl
    rw [prepare_of_none missing]
    cases atHand : tokenizer.scanner with
    | none => exact (prepare_of_none atHand).symm
    | some scanner => exact (sound.current scanner atHand).trans (prepare_of_scanner atHand).symm
  rw [scan, scan, prepared]
  cases tokenizer.prepare <;> rfl

/-- The second of two scans of a text answers as the first one did. -/
theorem scan_twice (tokenizer : Tokenizer) (input : String) :
    ((tokenizer.scan input).2.scan input).1 = (tokenizer.scan input).1 := by
  cases prepared : tokenizer.prepare with
  | error error =>
      simp only [scan_of_prepare_error prepared]
  | ok scanner =>
      rw [scan_of_prepare prepared]
      rw [scan_of_prepare (prepare_of_scanner rfl)]

/-- What a parse answers depends on what the scan answers. -/
theorem parseText_fst {tokenizer other : Tokenizer} {input : String}
    (same : (tokenizer.scan input).1 = (other.scan input).1) (rules : Rules) (grammar : Grammar) :
    (parseText tokenizer rules grammar input).1 = (parseText other rules grammar input).1 := by
  rw [parseText, parseText, tokenize, tokenize, same]
  cases (other.scan input).1 <;> rfl

/-! ## When a scanner is at hand -/

/-- Whether no operation of a run changes the list of definitions. -/
def Unchanged (tokenizer : Tokenizer) (operations : List Operation) : Prop :=
  ∀ earlier operation later, operations = earlier ++ operation :: later →
    ¬ (tokenizer.run earlier).Redefines operation

/-- Whether an operation of a run makes a scanner, and no later one changes the list of
definitions. -/
def CompiledSince (tokenizer : Tokenizer) (operations : List Operation) : Prop :=
  ∃ earlier operation later, operations = earlier ++ operation :: later ∧
    (tokenizer.run earlier).Compiles operation ∧
    ((tokenizer.run earlier).after operation).Unchanged later

variable {tokenizer : Tokenizer} {first : Operation} {operations : List Operation}

theorem unchanged_nil (tokenizer : Tokenizer) : tokenizer.Unchanged [] := by
  intro earlier operation later split
  simp at split

theorem unchanged_cons :
    tokenizer.Unchanged (first :: operations) ↔
      ¬ tokenizer.Redefines first ∧ (tokenizer.after first).Unchanged operations := by
  constructor
  · intro unchanged
    refine ⟨unchanged [] first operations rfl, ?_⟩
    intro earlier operation later split
    exact unchanged (first :: earlier) operation later (by rw [split]; rfl)
  · rintro ⟨same, unchanged⟩ earlier operation later split
    cases earlier with
    | nil =>
        cases split
        exact same
    | cons head earlier =>
        cases split
        exact unchanged earlier operation later rfl

theorem not_compiledSince_nil (tokenizer : Tokenizer) : ¬ tokenizer.CompiledSince [] := by
  rintro ⟨earlier, operation, later, split, -⟩
  simp at split

theorem compiledSince_cons :
    tokenizer.CompiledSince (first :: operations) ↔
      tokenizer.Compiles first ∧ (tokenizer.after first).Unchanged operations ∨
        (tokenizer.after first).CompiledSince operations := by
  constructor
  · rintro ⟨earlier, operation, later, split, compiles, unchanged⟩
    cases earlier with
    | nil =>
        cases split
        exact .inl ⟨compiles, unchanged⟩
    | cons head earlier =>
        cases split
        exact .inr ⟨earlier, operation, later, rfl, compiles, unchanged⟩
  · rintro (⟨compiles, unchanged⟩ | ⟨earlier, operation, later, rfl, compiles, unchanged⟩)
    · exact ⟨[], first, operations, rfl, compiles, unchanged⟩
    · exact ⟨first :: earlier, operation, later, rfl, compiles, unchanged⟩

/-- An operation leaves a scanner at hand if it makes one, or if there was one and the definitions
stay. -/
theorem isCompiled_after (tokenizer : Tokenizer) (operation : Operation) :
    (tokenizer.after operation).isCompiled = true ↔
      tokenizer.Compiles operation ∨
        tokenizer.isCompiled = true ∧ ¬ tokenizer.Redefines operation := by
  have step : tokenizer.Step operation (tokenizer.after operation) := tokenizer.step_after operation
  rw [Redefines]
  generalize tokenizer.after operation = next at step
  cases step with
  | known definition => simp [Compiles, Operation.Scans]
  | define valid new => simp [Compiles, Operation.Scans, isCompiled, new]
  | keepWhitespace keep => simp [Compiles, Operation.Scans, isCompiled]
  | handleUnknown handler => simp [Compiles, Operation.Scans, isCompiled]
  | cached scans atHand => simp [Compiles, isCompiled, atHand]
  | broken scans missing refused => simp [Compiles, isCompiled, missing, refused]
  | compile scans missing compiled => simp [Compiles, isCompiled, scans, missing, compiled]

/-- After a run a scanner is at hand if one was made since the definitions last changed, or if there
was one from the start and they did not change at all. -/
theorem isCompiled_run (tokenizer : Tokenizer) (operations : List Operation) :
    (tokenizer.run operations).isCompiled = true ↔
      tokenizer.CompiledSince operations ∨
        tokenizer.isCompiled = true ∧ tokenizer.Unchanged operations := by
  induction operations generalizing tokenizer with
  | nil => simp [not_compiledSince_nil, unchanged_nil]
  | cons first operations induction =>
      rw [run_cons, induction, isCompiled_after, compiledSince_cons, unchanged_cons]
      grind

/-- **The scanner at hand is never stale.** After any operations on a tokenizer that was made from
definitions or settings, a scanner at hand is the one of the definitions. The tokenizer could be
made anew, but for the scanner, and each scan and parse answers as it would then. A scanner is at
hand just where a scan has made one since the definitions were last changed. Scanning or parsing a
text twice gives the same answer twice. -/
theorem run_never_stale {start : Tokenizer} (made : start.Made) (operations : List Operation) :
    let tokenizer := start.run operations
    (∀ scanner, tokenizer.scanner = some scanner →
        Scanner.compile tokenizer.effectiveDefinitions = .ok scanner) ∧
      (ofSettings tokenizer.settings).map (·.withUnknownHandler tokenizer.onUnknown) =
        .ok tokenizer.fresh ∧
      (∀ input, (tokenizer.scan input).1 = (tokenizer.fresh.scan input).1) ∧
      (∀ rules grammar input, (parseText tokenizer rules grammar input).1 =
        (parseText tokenizer.fresh rules grammar input).1) ∧
      (tokenizer.isCompiled = true ↔ start.CompiledSince operations) ∧
      (∀ input, ((tokenizer.scan input).2.scan input).1 = (tokenizer.scan input).1) ∧
      ∀ rules grammar input,
        (parseText (parseText tokenizer rules grammar input).2 rules grammar input).1 =
          (parseText tokenizer rules grammar input).1 := by
  intro tokenizer
  obtain ⟨soundStart, missing⟩ := made.sound
  have sound : tokenizer.Sound := soundStart.run operations
  have notCompiled : start.isCompiled = false := by rw [isCompiled, missing]; rfl
  refine ⟨sound.current, sound.ofSettings_settings, sound.scan_fresh, ?_, ?_, tokenizer.scan_twice,
    ?_⟩
  · intro rules grammar input
    exact parseText_fst (sound.scan_fresh input) rules grammar
  · rw [isCompiled_run, notCompiled]
    simp
  · intro rules grammar input
    rw [parseText_snd]
    exact parseText_fst (tokenizer.scan_twice input) rules grammar

/-- A definition that is refused and one that is known leave the scanner at hand, and one that is
new drops it. -/
theorem run_never_stale_keyword :
    let start : Tokenizer := ⟨[.keyword "a"], defaultWhitespace, false, rejectUnknown, none⟩
    let operations : List Operation := [.parse [] (.token "a") "a b", .define (.regex "open" "("),
      .define (.keyword "a"), .keepWhitespace true]
    let tokenizer := start.run operations
    start.Made ∧ start.CompiledSince operations ∧
      ¬ start.CompiledSince (operations ++ [.define (.keyword "b")]) ∧
      (tokenizer.fresh.scan "a a").1.toOption =
        some [⟨"a", "a", 0⟩, ⟨"whitespace", " ", 1⟩, ⟨"a", "a", 2⟩] ∧
      (tokenizer.scan "a a").1.toOption =
        some [⟨"a", "a", 0⟩, ⟨"whitespace", " ", 1⟩, ⟨"a", "a", 2⟩] := by
  intro start operations tokenizer
  have valid : ∀ definition ∈ [Definition.keyword "a"], definition.Valid := by decide
  have made : start.Made := .ofDefinitions (defineAll_of_distinct rfl valid (by decide))
  have kept : tokenizer.isCompiled = true := by decide +kernel
  have dropped : (start.run (operations ++ [.define (.keyword "b")])).isCompiled = false := by
    decide +kernel
  have tokens : (tokenizer.fresh.scan "a a").1.toOption =
      some [⟨"a", "a", 0⟩, ⟨"whitespace", " ", 1⟩, ⟨"a", "a", 2⟩] := by decide +kernel
  obtain ⟨-, -, scans, -, compiled, -⟩ := run_never_stale made operations
  obtain ⟨-, -, -, -, compiledLater, -⟩ :=
    run_never_stale made (operations ++ [.define (.keyword "b")])
  refine ⟨made, compiled.mp kept, ?_, tokens, ?_⟩
  · intro since
    exact Bool.false_ne_true (dropped.symm.trans (compiledLater.mpr since))
  · rw [scans "a a"]
    exact tokens

end Tokenizer

end TokenGrammar
