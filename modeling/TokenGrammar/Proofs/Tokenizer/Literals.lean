import TokenGrammar.Proofs.Regex.Size
import TokenGrammar.Proofs.Tokenizer.Cache
import TokenGrammar.Proofs.Tokenizer.Merging

/-! # Scanning for literals

Where all definitions are of one text each, the tokens can be cut off by comparing texts. The first
definition whose text comes next counts, however long the others are, and then white space.

* `LiteralEntry`: a definition of tokens of one text.
* `literalRule`: the first entry whose text comes next, or else white space.
* `Tokenizer.scan_of_entries`: a scanner of entries follows that rule.
* `Tokenizer.scan_literals`: scanning for literals is comparing texts. -/

namespace TokenGrammar

open Regex (Expr Pattern)

/-- A name with the one text of the tokens that go by it. -/
structure LiteralEntry where
  /-- Name of the tokens. -/
  name : String
  /-- Their text. -/
  text : String

/-- The definition of an entry. -/
def LiteralEntry.definition (entry : LiteralEntry) : Definition :=
  .literal entry.name entry.text

/-- Whether an entry is of the tokens that are dropped. -/
def LiteralEntry.isWhitespace (entry : LiteralEntry) : Bool :=
  entry.name == whitespaceName

/-- Number of characters in the texts of entries. -/
def LiteralEntry.characters : List LiteralEntry → Nat
  | [] => 0
  | entry :: entries => entry.text.toList.length + characters entries

/-- The first entry whose text comes next. Where there is none, and no entry is named after white
space, the white space that comes next. -/
def literalRule (entries : List LiteralEntry) : LexemeRule := fun text =>
  match entries.find? fun entry => entry.text.toList.isPrefixOf text with
  | some entry => some (entry.name, entry.text.toList)
  | none =>
      if entries.any LiteralEntry.isWhitespace then none
      else
        match text.takeWhile Unicode.isWhiteSpace with
        | [] => none
        | run => some (whitespaceName, run)

/-- Texts that are not empty are sound lexemes, and so is white space. -/
theorem sound_literalRule {entries : List LiteralEntry}
    (solid : ∀ entry ∈ entries, entry.text ≠ "") : (literalRule entries).Sound := by
  intro text name lexeme found
  rw [literalRule] at found
  split at found
  · next entry first =>
      cases found
      have begins : entry.text.toList.isPrefixOf text = true := by
        simpa using List.find?_some first
      refine ⟨?_, List.isPrefixOf_iff_prefix.mp begins⟩
      rw [ne_eq, String.toList_eq_nil_iff]
      exact solid entry (List.mem_of_find?_eq_some first)
  · split at found
    · cases found
    · split at found
      · cases found
      · next notEmpty =>
          cases found
          exact ⟨notEmpty, List.takeWhile_prefix _⟩

/-- Only the empty text is escaped as the empty text. -/
theorem escapePattern_eq_empty_iff {text : String} : escapePattern text = "" ↔ text = "" := by
  constructor
  · intro nothing
    have characters := congrArg String.toList nothing
    rw [escapePattern, String.toList_ofList] at characters
    have none : ∀ c ∈ text.toList, (if Regex.isMeta c then ['\\', c] else [c]) = [] :=
      List.flatMap_eq_nil_iff.mp characters
    rw [← String.toList_eq_nil_iff]
    refine List.eq_nil_iff_forall_not_mem.mpr fun c member => ?_
    have given := none c member
    split at given <;> cases given
  · rintro rfl
    rfl

/-- An entry is valid if it has a name and a text, and the text is not too long. -/
theorem LiteralEntry.valid_iff {entry : LiteralEntry} :
    entry.definition.Valid ↔
      entry.name ≠ "" ∧ entry.name ≠ unknownName ∧ entry.text ≠ "" ∧
        (Expr.ofWord entry.text.toList).fits = true := by
  have means := (Regex.denotes_escapePattern entry.text).ofText_eq
  rw [Definition.Valid, Definition.fault?, LiteralEntry.definition, Definition.literal]
  simp only [escapePattern_eq_empty_iff, means]
  -- The checks are made in this order, and the first one that fails is the fault.
  by_cases named : entry.name = ""
  · simp [named]
  by_cases reserved : entry.name = unknownName
  · simp [reserved, unknownName]
  by_cases blank : entry.text = ""
  · simp [named, reserved, blank]
  simp [named, reserved, blank]

namespace Scanner

/-- A word has no groups. -/
theorem groups_ofWord (word : List Char) : (Expr.ofWord word).groups = [] := by
  induction word with
  | nil => rfl
  | cons c word induction =>
      cases word with
      | nil => rfl
      | cons d word =>
          rw [Expr.ofWord_cons_cons, Expr.groups, induction]
          rfl

/-- An entry as a component. -/
def literalComponent (entry : LiteralEntry) : Component where
  definition := entry.definition
  body := .ofParts (Pattern.characters entry.text.toList)
  expr := .ofWord entry.text.toList
  denotes := Regex.denotes_escapePattern entry.text
  groups_eq := groups_ofWord entry.text.toList
  lexeme? text := if entry.text.toList.isPrefixOf text then some entry.text.toList else none
  matchAt?_eq position := by
    rw [Expr.matchAt?_ofWord]
    split <;> rfl

/-- The usual definition of white space as a component. -/
def whitespaceComponent : Component where
  definition := .whitespace defaultWhitespace
  body := .repetition 1 none false (.shorthand .space false)
  expr := .repetition 1 none true (.set Unicode.whiteSpace)
  denotes := Regex.denotes_defaultWhitespace
  groups_eq := rfl
  lexeme? text :=
    match text.takeWhile Unicode.isWhiteSpace with
    | [] => none
    | run => some run
  matchAt?_eq position := by
    have same : Unicode.whiteSpace.contains = Unicode.isWhiteSpace := rfl
    rw [Expr.matchAt?_run, same]
    cases position.rest.takeWhile Unicode.isWhiteSpace <;> rfl

/-- Entries as components, with white space last where none of them is named after it. -/
def literalComponents (entries : List LiteralEntry) : List Component :=
  entries.map literalComponent ++
    if entries.any LiteralEntry.isWhitespace then [] else [whitespaceComponent]

/-- There is always a component. -/
theorem literalComponents_ne_nil (entries : List LiteralEntry) :
    literalComponents entries ≠ [] := by
  cases entries with
  | nil => exact List.cons_ne_nil _ _
  | cons entry entries => exact List.cons_ne_nil _ _

/-- The first lexeme of the components is that of the rule. -/
theorem firstLexeme_literalComponents (entries : List LiteralEntry) :
    firstLexeme (literalComponents entries) = literalRule entries := by
  funext text
  have literal : (entries.map literalComponent).findSome? (fun component =>
      (component.lexeme? text).map fun lexeme => (component.definition.name, lexeme)) =
      (entries.find? fun entry => entry.text.toList.isPrefixOf text).map fun entry =>
        (entry.name, entry.text.toList) := by
    induction entries with
    | nil => rfl
    | cons entry entries induction =>
        rw [List.map_cons, List.findSome?_cons, List.find?_cons]
        cases begins : entry.text.toList.isPrefixOf text with
        | true =>
            have here : (literalComponent entry).lexeme? text = some entry.text.toList :=
              if_pos begins
            rw [here]
            rfl
        | false =>
            have here : (literalComponent entry).lexeme? text = none :=
              if_neg (by rw [begins]; exact Bool.false_ne_true)
            rw [here]
            exact induction
  rw [firstLexeme, literalComponents, List.findSome?_append, literal, literalRule]
  cases entries.find? fun entry => entry.text.toList.isPrefixOf text with
  | some entry => rfl
  | none =>
      cases entries.any LiteralEntry.isWhitespace with
      | true => rfl
      | false =>
          -- White space comes last, so it counts only where no entry does.
          have here : whitespaceComponent.lexeme? text =
              match text.takeWhile Unicode.isWhiteSpace with
              | [] => none
              | run => some run := rfl
          rw [if_neg Bool.false_ne_true, List.findSome?_cons, here]
          cases text.takeWhile Unicode.isWhiteSpace <;> rfl

end Scanner

namespace Tokenizer

open Scanner (literalComponents)

/-- The scanner of entries is made from the definitions of components. -/
theorem effectiveDefinitions_of_entries {tokenizer : Tokenizer} {entries : List LiteralEntry}
    (listed : tokenizer.definitions = entries.map LiteralEntry.definition)
    (usual : tokenizer.whitespaceSource = defaultWhitespace) :
    tokenizer.effectiveDefinitions =
      (literalComponents entries).map Scanner.Component.definition := by
  have whitespace : tokenizer.definitions.any Definition.isWhitespace =
      entries.any LiteralEntry.isWhitespace := by
    rw [listed, List.any_map]
    rfl
  have literals : (entries.map Scanner.literalComponent).map Scanner.Component.definition =
      entries.map LiteralEntry.definition := by
    rw [List.map_map]
    rfl
  rw [effectiveDefinitions, whitespace, usual, listed, literalComponents, List.map_append, literals]
  cases entries.any LiteralEntry.isWhitespace with
  | true => exact (List.append_nil _).symm
  | false => rfl

/-- A scanner of entries follows the rule of the entries. -/
theorem scan_of_entries {tokenizer : Tokenizer} {entries : List LiteralEntry}
    (sound : tokenizer.Sound)
    (listed : tokenizer.definitions = entries.map LiteralEntry.definition)
    (usual : tokenizer.whitespaceSource = defaultWhitespace) (input : String) :
    (tokenizer.scan input).1 =
      if (Scanner.merged (literalComponents entries)).expr.fits then
        plainScan (literalRule entries) tokenizer.keepWhitespace tokenizer.onUnknown input
      else .error (.invalidPattern Scanner.mergedName (.oversized Regex.sizeLimit)) := by
  have solid : ∀ entry ∈ entries, entry.text ≠ "" := by
    intro entry member
    have valid : entry.definition.Valid := by
      apply sound.valid
      rw [listed]
      exact List.mem_map_of_mem member
    exact (LiteralEntry.valid_iff.mp valid).2.2.1
  have follows : (Scanner.merged (literalComponents entries)).Follows (literalRule entries) := by
    rw [← Scanner.firstLexeme_literalComponents]
    refine Scanner.follows_merged ?_
    rw [Scanner.firstLexeme_literalComponents]
    exact sound_literalRule solid
  have prepared : tokenizer.fresh.prepare =
      if (Scanner.merged (literalComponents entries)).expr.fits then
        .ok (Scanner.merged (literalComponents entries))
      else .error (.invalidPattern Scanner.mergedName (.oversized Regex.sizeLimit)) := by
    obtain ⟨component, components, whole⟩ :=
      List.exists_cons_of_ne_nil (Scanner.literalComponents_ne_nil entries)
    have effective : tokenizer.fresh.effectiveDefinitions =
        (literalComponents entries).map Scanner.Component.definition :=
      effectiveDefinitions_of_entries listed usual
    rw [prepare_of_none rfl, effective, whole]
    exact Scanner.compile_eq component components
  -- Whatever has been scanned before, a new tokenizer gives the same answer.
  rw [sound.scan_fresh, scan, prepared]
  cases (Scanner.merged (literalComponents entries)).expr.fits with
  | true => exact follows.scan_eq_plainScan _ _ _
  | false => rfl

/-! ## Tokenizers of literals -/

/-- A definition that is not refused is the only one that may be new. -/
theorem of_define_eq_ok {tokenizer next : Tokenizer} {definition : Definition}
    (defined : tokenizer.define definition = .ok next) :
    next.whitespaceSource = tokenizer.whitespaceSource ∧
      ∀ other ∈ next.definitions, other = definition ∨ other ∈ tokenizer.definitions := by
  rw [define] at defined
  split at defined
  · cases defined
  · split at defined
    · cases defined
      exact ⟨rfl, fun _ => .inr⟩
    · cases defined
      exact ⟨rfl, fun _ => Definition.eq_or_mem_of_mem_insertInto⟩

/-- Definitions that are not refused are the only ones that may be new. -/
theorem of_defineAll_eq_ok {tokenizer next : Tokenizer} {definitions : List Definition}
    (defined : tokenizer.defineAll definitions = .ok next) :
    next.whitespaceSource = tokenizer.whitespaceSource ∧
      ∀ other ∈ next.definitions, other ∈ definitions ∨ other ∈ tokenizer.definitions := by
  induction definitions generalizing tokenizer with
  | nil =>
      cases Except.ok.inj defined
      exact ⟨rfl, fun _ => .inr⟩
  | cons first definitions induction =>
      cases inserted : tokenizer.define first with
      | error error =>
          rw [defineAll, inserted] at defined
          cases defined
      | ok middle =>
          rw [defineAll_cons_of_ok inserted] at defined
          obtain ⟨source, others⟩ := induction defined
          obtain ⟨source', first_new⟩ := of_define_eq_ok inserted
          refine ⟨source.trans source', fun other member => ?_⟩
          rcases others other member with later | earlier
          · exact .inl (List.mem_cons_of_mem first later)
          · rcases first_new other earlier with rfl | before
            · exact .inl List.mem_cons_self
            · exact .inr before

/-- Definitions of one text each are those of entries. -/
theorem exists_entries {definitions : List Definition}
    (literal : ∀ definition ∈ definitions, ∃ entry : LiteralEntry, definition = entry.definition) :
    ∃ entries : List LiteralEntry, definitions = entries.map LiteralEntry.definition := by
  induction definitions with
  | nil => exact ⟨[], rfl⟩
  | cons first definitions induction =>
      obtain ⟨⟨entry, rfl⟩, others⟩ := List.forall_mem_cons.mp literal
      obtain ⟨entries, rfl⟩ := induction others
      exact ⟨entry :: entries, rfl⟩

/-- The merged pattern of entries means the choice between their groups. -/
theorem ofText_mergedSource_of_entries {tokenizer : Tokenizer} {entries : List LiteralEntry}
    (listed : tokenizer.definitions = entries.map LiteralEntry.definition)
    (usual : tokenizer.whitespaceSource = defaultWhitespace) :
    Expr.ofText (Scanner.mergedSource tokenizer.effectiveDefinitions) =
      .ok (Scanner.merged (literalComponents entries)).expr := by
  obtain ⟨component, components, whole⟩ :=
    List.exists_cons_of_ne_nil (Scanner.literalComponents_ne_nil entries)
  rw [effectiveDefinitions_of_entries listed usual, whole]
  exact Scanner.ofText_mergedSource component components

/-- **Scanning for literals is comparing texts.** Where every definition is of one text, the merged
pattern means something, and as long as that keeps to the limit a scan makes the tokens that are cut
off from left to right: by the first of the definitions whose text comes next, or else by the white
space that does. Beyond the limit every scan fails. -/
theorem scan_literals {given : List Definition} {tokenizer : Tokenizer}
    (literal : ∀ definition ∈ given,
      (∃ text, definition = .keyword text) ∨ ∃ name text, definition = .literal name text)
    (accepted : ofDefinitions given = .ok tokenizer) :
    ∃ merged, Expr.ofText (Scanner.mergedSource tokenizer.effectiveDefinitions) = .ok merged ∧
      (∃ entries : List LiteralEntry,
        tokenizer.definitions = entries.map LiteralEntry.definition) ∧
      ∀ entries : List LiteralEntry,
        tokenizer.definitions = entries.map LiteralEntry.definition →
          ∀ (keepWhitespace : Bool) (handler : UnknownHandler) (input : String),
            (((tokenizer.withWhitespaceKept keepWhitespace).withUnknownHandler handler).scan
                input).1 =
              if merged.fits then plainScan (literalRule entries) keepWhitespace handler input
              else .error (.invalidPattern Scanner.mergedName (.oversized Regex.sizeLimit)) := by
  obtain ⟨usual, known⟩ := of_defineAll_eq_ok accepted
  have sound := (Made.ofDefinitions accepted).sound.1
  have entryOf : ∀ definition ∈ tokenizer.definitions,
      ∃ entry : LiteralEntry, definition = entry.definition := by
    intro definition member
    have isGiven : definition ∈ given := (known definition member).resolve_right nofun
    rcases literal definition isGiven with ⟨text, rfl⟩ | ⟨name, text, rfl⟩
    · exact ⟨⟨text, text⟩, rfl⟩
    · exact ⟨⟨name, text⟩, rfl⟩
  -- Repeated and renamed definitions leave a list that is still one of entries.
  obtain ⟨first, listed⟩ := exists_entries entryOf
  have means := ofText_mergedSource_of_entries listed usual
  refine ⟨_, means, ⟨first, listed⟩, ?_⟩
  intro entries listed' keepWhitespace handler input
  have same := means.symm.trans (ofText_mergedSource_of_entries listed' usual)
  rw [Except.ok.inj same]
  have kept := (sound.after (.keepWhitespace keepWhitespace)).after (.handleUnknown handler)
  exact scan_of_entries kept listed' usual input

/-- A keyword that a longer one starts with, and a text with a meaning of its own in patterns. -/
theorem scan_literals_prefix :
    let given : List Definition := [.keyword "let", .keyword "letter", .literal "plus" "+"]
    let entries : List LiteralEntry := [⟨"let", "let"⟩, ⟨"letter", "letter"⟩, ⟨"plus", "+"⟩]
    let tokenizer : Tokenizer := { empty with definitions := given }
    let tokens : List Token := [⟨"let", "let", 0⟩, ⟨"unknown", "ter", 3⟩, ⟨"plus", "+", 7⟩]
    ofDefinitions given = .ok tokenizer ∧
      ((tokenizer.withUnknownHandler keepUnknown).scan "letter +").1 = .ok tokens ∧
      plainScan (literalRule entries) false keepUnknown "letter +" = .ok tokens := by
  intro given entries tokenizer tokens
  have accepted : ofDefinitions given = .ok tokenizer :=
    defineAll_of_distinct rfl (by decide +kernel) (by decide)
  have literal : ∀ definition ∈ given,
      (∃ text, definition = .keyword text) ∨ ∃ name text, definition = .literal name text :=
    List.forall_mem_cons.mpr ⟨.inl ⟨_, rfl⟩,
      List.forall_mem_cons.mpr ⟨.inl ⟨_, rfl⟩, List.forall_mem_singleton.mpr (.inr ⟨_, _, rfl⟩)⟩⟩
  obtain ⟨merged, means, -, scans⟩ := scan_literals literal accepted
  have fits : merged.fits = true := by
    have computed : (Expr.ofText (Scanner.mergedSource tokenizer.effectiveDefinitions)).toOption.map
        Expr.fits = some true := by decide +kernel
    rw [means] at computed
    exact Option.some.inj computed
  have scanned : ((tokenizer.withUnknownHandler keepUnknown).scan "letter +").1 = .ok tokens := by
    have computed :
        ((tokenizer.withUnknownHandler keepUnknown).scan "letter +").1.toOption = some tokens := by
      decide +kernel
    cases result : ((tokenizer.withUnknownHandler keepUnknown).scan "letter +").1 with
    | error error =>
        rw [result] at computed
        cases computed
    | ok made =>
        rw [result] at computed
        rw [Option.some.inj computed]
  have same := scans entries rfl false keepUnknown "letter +"
  rw [if_pos fits] at same
  exact ⟨accepted, scanned, same.symm.trans scanned⟩

/-! ## Beyond the limit -/

/-- The groups of entries take a state for each character. -/
theorem takes_groupsFrom (index : Nat) (entry : LiteralEntry) (entries : List LiteralEntry) :
    (Expr.ofChoices (Scanner.groupsFrom index
      ((entry :: entries).map Scanner.literalComponent))).Takes
        (LiteralEntry.characters (entry :: entries)) := by
  have first (index : Nat) (entry : LiteralEntry) :
      (Expr.capture (index + 1) (some (Scanner.groupName index))
        (Expr.ofWord entry.text.toList)).Takes entry.text.toList.length :=
    (Expr.takes_ofWord entry.text.toList).capture _ _
  induction entries generalizing index entry with
  | nil => exact first index entry
  | cons second entries induction =>
      exact .alternative ⟨_, _, _, rfl⟩ (first index entry) (induction (index + 1) second)

/-- Seven entries of one text, and one of white space. -/
def sevenEntries (text : String) : List LiteralEntry :=
  ["a", "b", "c", "d", "e", "f", "g"].map (fun name => ⟨name, text⟩) ++ [⟨whitespaceName, " "⟩]

/-- All but one character are those of the seven. -/
theorem characters_sevenEntries (text : String) :
    LiteralEntry.characters (sevenEntries text) = 7 * text.toList.length + 1 := by
  have blank : " ".toList.length = 1 := rfl
  simp only [sevenEntries, List.map_cons, List.map_nil, List.cons_append, List.nil_append,
    LiteralEntry.characters, blank]
  omega

/-- Seven entries whose text keeps to the limit, and one of white space. -/
def longEntries : List LiteralEntry :=
  sevenEntries (.ofList (.replicate 70000 'x'))

/-- Each of the long entries is valid. -/
theorem valid_longEntries : ∀ entry ∈ longEntries, entry.definition.Valid := by
  have short : (Expr.ofWord (.replicate 70000 'x')).fits = true := by
    -- Only the one character and the length are looked at, never the text itself.
    have each : ∀ c ∈ List.replicate 70000 'x', (Expr.set (.single c)).bound ≤ 140 := by
      intro c member
      rw [List.eq_of_mem_replicate member]
      decide
    refine Expr.fits_ofWord each ?_
    rw [List.length_replicate]
    decide
  have named : ∀ name ∈ ["a", "b", "c", "d", "e", "f", "g"], name ≠ "" ∧ name ≠ unknownName := by
    decide
  intro entry member
  rcases List.mem_append.mp member with isLong | isSpace
  · obtain ⟨name, isName, rfl⟩ := List.mem_map.mp isLong
    refine LiteralEntry.valid_iff.mpr ⟨(named name isName).1, (named name isName).2, ?_, ?_⟩
    · rw [ne_eq, ← String.toList_eq_nil_iff, String.toList_ofList, List.replicate_eq_nil_iff]
      decide
    · rw [String.toList_ofList]
      exact short
  · rw [List.mem_singleton.mp isSpace]
    decide +kernel

/-- Together the long entries have more characters than the limit allows for. -/
theorem fits_longEntries : (Scanner.merged (literalComponents longEntries)).expr.fits = false := by
  have spaced : longEntries.any LiteralEntry.isWhitespace = true := by decide
  have components : literalComponents longEntries = longEntries.map Scanner.literalComponent := by
    rw [literalComponents, if_pos spaced, List.append_nil]
  have total : LiteralEntry.characters longEntries = 490001 := by
    rw [longEntries, characters_sevenEntries, String.toList_ofList, List.length_replicate]
  obtain ⟨entry, entries, whole⟩ : ∃ entry entries, longEntries = entry :: entries := ⟨_, _, rfl⟩
  have takes := takes_groupsFrom 0 entry entries
  rw [← whole, total] at takes
  rw [components]
  exact takes.fits_eq_false (by decide)

/-- Where definitions are valid one by one and too large together, every scan fails. -/
theorem scan_literals_oversized :
    ∃ tokenizer, ofDefinitions (longEntries.map LiteralEntry.definition) = .ok tokenizer ∧
      tokenizer.definitions = longEntries.map LiteralEntry.definition ∧
      (tokenizer.scan "").1 =
        .error (.invalidPattern Scanner.mergedName (.oversized Regex.sizeLimit)) ∧
      plainScan (literalRule longEntries) tokenizer.keepWhitespace tokenizer.onUnknown "" =
        .ok [] := by
  have valid : ∀ definition ∈ longEntries.map LiteralEntry.definition, definition.Valid := by
    intro definition member
    obtain ⟨entry, isEntry, rfl⟩ := List.mem_map.mp member
    exact valid_longEntries entry isEntry
  have distinct : ((longEntries.map LiteralEntry.definition).map Definition.name).Nodup := by
    have names : (longEntries.map LiteralEntry.definition).map Definition.name =
        ["a", "b", "c", "d", "e", "f", "g", "whitespace"] := rfl
    rw [names]
    decide
  have accepted : ofDefinitions (longEntries.map LiteralEntry.definition) =
      .ok { empty with definitions := longEntries.map LiteralEntry.definition } :=
    defineAll_of_distinct rfl valid distinct
  refine ⟨_, accepted, rfl, ?_, ?_⟩
  · have sound := (Made.ofDefinitions accepted).sound.1
    rw [scan_of_entries sound rfl rfl, fits_longEntries]
    rfl
  · have nothing : "".toList = [] := rfl
    rw [plainScan, nothing, plainScanFrom]
    rfl

end Tokenizer

end TokenGrammar
