import TokenGrammar.Proofs.Regex.Choices
import TokenGrammar.Proofs.Regex.Outlasting.Spacing
import TokenGrammar.Proofs.Regex.Reading
import TokenGrammar.Proofs.Tokenizer.PlainScan
import TokenGrammar.Proofs.Tokenizer.Winners

/-! # Merged definitions

Each source stands in a group of its own, and so it means in the merged pattern what it means alone.
The merged pattern is a choice between the groups, in the order of the definitions.

* `Scanner.Component`: a definition whose source has a meaning of its own.
* `Scanner.ofText_mergedSource`: the merged pattern means the choice between the groups.
* `Scanner.compile_eq`: definitions are merged unless the choice is too large.
* `Scanner.follows_merged`: where definitions match, the first of them counts. -/

namespace TokenGrammar

open Regex (Denotes Expr Pattern PatternReader Position Thread)

/-! ## Names of groups -/

namespace Regex

/-- Names of groups go on with digits. -/
theorem isNamePart_of_isDigit {c : Char} (digit : c.isDigit = true) : isNamePart c = true := by
  have ascii : Unicode.isAscii c = true := by
    rw [Unicode.isAscii, decide_eq_true_eq]
    have within : c.val ≥ '0'.val ∧ c.val ≤ '9'.val := by
      simpa [Char.isDigit, and_comm] using digit
    exact Nat.lt_of_le_of_lt (UInt32.le_iff_toNat_le.mp within.2) (by decide)
  rw [isNamePart, Unicode.isNameNumeric, if_pos ascii, digit, Bool.or_true]

/-- A name is read up to its closing bracket. -/
theorem parseNameFrom_append {name part : List Char} (started : name ≠ [])
    (parts : ∀ c ∈ part, c ≠ '>' ∧ isNamePart c = true) (rest : List Char) :
    parseNameFrom name (part ++ '>' :: rest) = .ok (name ++ part, rest) := by
  induction part generalizing name with
  | nil =>
      rw [List.nil_append, parseNameFrom, if_pos rfl, List.append_nil]
  | cons c part induction =>
      obtain ⟨⟨inside, isPart⟩, others⟩ := List.forall_mem_cons.mp parts
      rw [List.cons_append, parseNameFrom, if_neg inside, if_neg started, if_pos isPart,
        induction (List.append_ne_nil_of_right_ne_nil name (List.cons_ne_nil c [])) others,
        List.append_assoc]
      rfl

end Regex

namespace Scanner

/-- The characters of the name of a group. -/
theorem toList_groupName (index : Nat) :
    (groupName index).toList = "descent_d".toList ++ Nat.toDigits 10 index := by
  rw [groupName, String.toList_append]
  congr 1
  exact Nat.toList_repr

/-- Groups at different indices have different names. -/
theorem groupName_inj {index other : Nat} : groupName index = groupName other ↔ index = other := by
  constructor
  · intro same
    have lists := congrArg String.toList same
    rw [toList_groupName, toList_groupName] at lists
    exact Numeral.toDigits_inj.mp (List.append_cancel_left lists)
  · exact congrArg groupName

/-- The name of a group is read as such. -/
theorem parseGroupName_groupName (index : Nat) (rest : List Char) :
    Regex.parseGroupName ((groupName index).toList ++ '>' :: rest) =
      .ok (.capture (some (groupName index)), rest) := by
  have letters : ∀ c ∈ "escent_d".toList, c ≠ '>' ∧ Regex.isNamePart c = true := by
    have each : ("escent_d".toList.all fun c => c != '>' && Regex.isNamePart c) = true := by decide
    simpa using each
  have digits : ∀ c ∈ Nat.toDigits 10 index, c ≠ '>' ∧ Regex.isNamePart c = true := by
    intro c member
    have digit := Nat.isDigit_of_mem_toDigits (by decide) (by decide) member
    exact ⟨fun bracket => absurd (bracket ▸ digit) (by decide),
      Regex.isNamePart_of_isDigit digit⟩
  have first : "descent_d".toList = 'd' :: "escent_d".toList := by decide
  have name : Regex.parseNameFrom [] ((groupName index).toList ++ '>' :: rest) =
      .ok ((groupName index).toList, rest) := by
    -- The first character must be a letter, and only the later ones may be digits.
    rw [toList_groupName, first, List.cons_append, List.cons_append, Regex.parseNameFrom,
      if_neg (by decide), if_pos rfl, if_pos (by decide), List.nil_append,
      Regex.parseNameFrom_append (List.cons_ne_nil 'd' [])]
    · rfl
    · intro c member
      exact (List.mem_append.mp member).elim (letters c) (digits c)
  have named : (groupName index).toList ≠ [] := by
    rw [toList_groupName, first]
    exact List.cons_ne_nil _ _
  rw [Regex.parseGroupName, name]
  simp [bind, Except.bind, pure, Except.pure, named]

/-! ## Reading the merged pattern -/

/-- A definition whose source has a meaning of its own, which is without groups. -/
structure Component where
  /-- The definition. -/
  definition : Definition
  /-- What its source is read as. -/
  body : Pattern
  /-- What its source means. -/
  expr : Expr
  /-- The source is read as that, and means that. -/
  denotes : Denotes definition.source body expr
  /-- There are no groups in it. -/
  groups_eq : expr.groups = []
  /-- What it matches at the start of a text. -/
  lexeme? : List Char → Option (List Char)
  /-- What it matches depends on the text ahead alone. -/
  matchAt?_eq : ∀ position, expr.matchAt? position =
    (lexeme? position.rest).map fun lexeme => ⟨position.advance lexeme.length, []⟩

/-- The groups of components from an index on, as they are read. -/
def patternsFrom : Nat → List Component → List Pattern
  | _, [] => []
  | index, component :: components =>
      .capture (index + 1) (some (groupName index)) component.body ::
        patternsFrom (index + 1) components

/-- The groups of components from an index on, as they match. -/
def groupsFrom : Nat → List Component → List Expr
  | _, [] => []
  | index, component :: components =>
      .capture (index + 1) (some (groupName index)) component.expr ::
        groupsFrom (index + 1) components

/-- Alternatives as they are read; a single one stands for itself. -/
def alternation : List Pattern → Pattern
  | [pattern] => pattern
  | patterns => .alternation patterns

/-- Several alternatives are read as such. -/
theorem alternation_of_two_le {patterns : List Pattern} (several : 2 ≤ patterns.length) :
    alternation patterns = .alternation patterns := by
  match patterns with
  | [] => cases several
  | [_] => exact absurd several (Nat.lt_irrefl 1)
  | _ :: _ :: _ => rfl

/-- What has been read of a group is its alternatives in order. -/
theorem toPattern_eq (level : Regex.OpenLevel) :
    level.toPattern = alternation (level.alternatives.reverse ++ [level.current]) := by
  rw [Regex.OpenLevel.toPattern, ← List.reverse_cons]
  cases level.alternatives with
  | nil => rfl
  | cons last alternatives =>
      rw [alternation_of_two_le (by rw [List.length_reverse]; exact Nat.le_add_left 2 _)]

/-- The reader in the group around the pattern at an index. -/
def inGroup (reader : PatternReader) (index : Nat) : PatternReader :=
  reader.applyOpening (.capture (some (groupName index)))

/-- The group around the pattern at an index is entered. -/
theorem reads_opening {reader : PatternReader} {index : Nat} (solid : reader.verbose = false)
    (new : groupName index ∉ reader.names) (text : List Char) :
    reader.Reads ('(' :: '?' :: 'P' :: '<' :: ((groupName index).toList ++ '>' :: text))
      (inGroup reader index) text := by
  have parsed : Regex.parseMove reader.verbose '('
      ('?' :: 'P' :: '<' :: ((groupName index).toList ++ '>' :: text)) =
        .ok (.enter (.capture (some (groupName index))), text) := by
    rw [Regex.parseMove, Regex.parseGroupOpening, solid, Regex.skipSpacing_false]
    simp only [Regex.parseMarkedGroup, parseGroupName_groupName]
    rfl
  have entered : reader.move (.enter (.capture (some (groupName index)))) =
      .ok (inGroup reader index) := by
    refine if_neg ?_
    simpa [Regex.GroupOpening.name?] using new
  refine .of_step solid (PatternReader.step_of_parseMove (by decide) parsed entered) ?_
  simp only [List.length_cons, List.length_append]
  omega

/-- The reader past the group of a component that is as many groups into the pattern. -/
def pastGroup (reader : PatternReader) (component : Component) : PatternReader :=
  { reader with
    level := reader.level.add
      (.capture (reader.captures + 1) (some (groupName reader.captures)) component.body)
    captures := reader.captures + 1
    names := groupName reader.captures :: reader.names }

/-- A definition in its group is read as that group. -/
theorem reads_wrap {reader : PatternReader} (solid : reader.verbose = false)
    (new : groupName reader.captures ∉ reader.names) (component : Component) (rest : List Char) :
    reader.Reads ((wrap reader.captures component.definition).toList ++ rest)
      (pastGroup reader component) rest := by
  obtain ⟨parts, body, reads⟩ := component.denotes.reads
  let name := (groupName reader.captures).toList
  let source := component.definition.source.toList
  let inner := inGroup reader reader.captures
  -- The opening, the source inside, and the closing bracket are read one after another.
  have whole : (wrap reader.captures component.definition).toList ++ rest =
      '(' :: '?' :: 'P' :: '<' :: (name ++ '>' :: (source ++ ')' :: rest)) := by
    simp [wrap, name, source]
  have left : (inner.addAll parts).close = .ok (pastGroup reader component) := by
    simp [PatternReader.close, pastGroup, body, inner, inGroup, PatternReader.applyOpening,
      PatternReader.enter, PatternReader.addAll, Regex.OpenLevel.toPattern,
      Regex.OpenLevel.current, Regex.OpenLevel.empty]
  have closed : (inner.addAll parts).step ')' rest = .ok (pastGroup reader component, rest) :=
    PatternReader.step_of_parseMove (by decide) rfl left
  have closing : (')' :: rest).head? ≠ some '?' := by simp
  rw [whole]
  exact .trans (reads_opening solid new _) (.trans (reads inner (')' :: rest) solid closing)
    (.of_step solid closed (Nat.le_refl _)))

/-- Definitions in their groups with bars between them are read as alternatives. -/
theorem reads_wrapFrom {reader : PatternReader} (solid : reader.verbose = false)
    (outermost : reader.groups = []) (fresh : reader.level.parts = [])
    (new : ∀ later, reader.captures ≤ later → groupName later ∉ reader.names)
    (component : Component) (components : List Component) :
    ∃ next, reader.Reads
        ("|".intercalate (wrapFrom reader.captures
          ((component :: components).map Component.definition))).toList next [] ∧
      next.finish = .ok (alternation (reader.level.alternatives.reverse ++
        patternsFrom reader.captures (component :: components))) := by
  -- A bar leaves the reader on the outermost level with nothing read of the next alternative.
  induction components generalizing reader component with
  | nil =>
      have first := reads_wrap solid (new _ (Nat.le_refl _)) component
      refine ⟨pastGroup reader component, ?_, ?_⟩
      · simpa [wrapFrom] using first []
      · simp [PatternReader.finish, pastGroup, outermost, toPattern_eq, Regex.OpenLevel.add,
          Regex.OpenLevel.current, fresh, Pattern.ofParts, patternsFrom]
  | cons second components induction =>
      let after : PatternReader :=
        { pastGroup reader component with level := (pastGroup reader component).level.alternate }
      have names : ∀ later, after.captures ≤ later → groupName later ∉ after.names := by
        intro later le
        have behind : reader.captures < later := le
        change groupName later ∉ groupName reader.captures :: reader.names
        rw [List.mem_cons, not_or, groupName_inj]
        exact ⟨Nat.ne_of_gt behind, new later (Nat.le_of_lt behind)⟩
      obtain ⟨next, reads, finished⟩ := @induction after solid outermost rfl names second
      have first := reads_wrap solid (new _ (Nat.le_refl _)) component
      refine ⟨next, ?_, ?_⟩
      · have bar : (pastGroup reader component).Reads ('|' :: ("|".intercalate (wrapFrom
            after.captures ((second :: components).map Component.definition))).toList) after _ :=
          .of_step solid rfl (Nat.le_refl _)
        have whole := (first _).trans (bar.trans reads)
        simpa [wrapFrom, String.toList_intercalate, after, pastGroup] using whole
      · rw [finished]
        simp [after, pastGroup, Regex.OpenLevel.alternate, Regex.OpenLevel.add,
          Regex.OpenLevel.current, fresh, Pattern.ofParts, patternsFrom]

/-! ## The meaning of the merged pattern -/

/-- Groups of components are not nested deeply. -/
theorem depthOfList_patternsFrom_le (index : Nat) (components : List Component) :
    Pattern.depthOfList (patternsFrom index components) ≤ 3 := by
  induction components generalizing index with
  | nil => exact Nat.zero_le 3
  | cons component components induction =>
      rw [patternsFrom, Pattern.depthOfList, Pattern.depth]
      exact Nat.max_le.mpr ⟨Nat.succ_le_succ component.denotes.depth_le, induction (index + 1)⟩

/-- Alternatives are at most one level deeper than the deepest of them. -/
theorem depth_alternation_le (patterns : List Pattern) :
    (alternation patterns).depth ≤ Pattern.depthOfList patterns + 1 := by
  match patterns with
  | [] => exact Nat.le_refl _
  | [pattern] => exact Nat.le_succ_of_le (Nat.le_max_left _ _)
  | _ :: _ :: _ => exact Nat.le_refl _

/-- Patterns mean as many expressions. -/
theorem length_of_elaborateAll {patterns : List Pattern} {exprs : List Expr}
    {flags after : Regex.Flags} (each : Pattern.elaborateAll flags patterns = .ok (exprs, after)) :
    exprs.length = patterns.length := by
  induction patterns generalizing flags exprs with
  | nil =>
      cases each
      rfl
  | cons pattern patterns induction =>
      rw [Pattern.elaborateAll] at each
      obtain ⟨_, -, each⟩ := bind_eq_ok_iff.mp each
      obtain ⟨_, others, done⟩ := bind_eq_ok_iff.mp each
      cases done
      rw [List.length_cons, List.length_cons, induction others]

/-- Alternatives that mean groups mean the choice between them. -/
theorem elaborateWith_alternation {patterns : List Pattern} {exprs : List Expr}
    (some : patterns ≠ []) (each : Pattern.elaborateAll .initial patterns = .ok (exprs, .initial))
    (groups : ∀ expr ∈ exprs, expr.IsGroup) :
    (alternation patterns).elaborateWith .initial = .ok (.ofChoices exprs, .initial) := by
  match patterns with
  | [] => exact absurd rfl some
  | [pattern] =>
      rw [Pattern.elaborateAll] at each
      obtain ⟨⟨expr, after⟩, means, done⟩ := bind_eq_ok_iff.mp each
      cases done
      exact means
  | _ :: _ :: _ =>
      have several : 2 ≤ exprs.length := by
        rw [length_of_elaborateAll each]
        exact Nat.le_add_left 2 _
      rw [alternation_of_two_le (Nat.le_add_left 2 _), Pattern.elaborateWith, each]
      simp only [bind, Except.bind, pure, Except.pure, Expr.alternativeAll_of_isGroup several groups]

/-- Groups mean the groups of what their definitions mean. -/
theorem elaborateAll_patternsFrom (index : Nat) (components : List Component) :
    Pattern.elaborateAll .initial (patternsFrom index components) =
      .ok (groupsFrom index components, .initial) := by
  induction components generalizing index with
  | nil => rfl
  | cons component components induction =>
      rw [patternsFrom, Pattern.elaborateAll, Pattern.elaborateWith, component.denotes.means]
      simp only [bind, Except.bind, pure, Except.pure, induction, groupsFrom]

/-- The groups of components are groups. -/
theorem isGroup_of_mem_groupsFrom {index : Nat} {components : List Component} {expr : Expr}
    (member : expr ∈ groupsFrom index components) : expr.IsGroup := by
  induction components generalizing index with
  | nil => cases member
  | cons component components induction =>
      rcases List.mem_cons.mp member with rfl | later
      · exact ⟨_, _, _, rfl⟩
      · exact induction later

/-- Alternatives mean the choice between the groups. -/
theorem elaborateWith_alternation_patternsFrom (index : Nat) (component : Component)
    (components : List Component) :
    (alternation (patternsFrom index (component :: components))).elaborateWith .initial =
      .ok (.ofChoices (groupsFrom index (component :: components)), .initial) :=
  elaborateWith_alternation (List.cons_ne_nil _ _)
    (elaborateAll_patternsFrom index (component :: components)) fun _ => isGroup_of_mem_groupsFrom

/-- The merged pattern means the choice between the groups. -/
theorem ofText_mergedSource (component : Component) (components : List Component) :
    Expr.ofText (mergedSource ((component :: components).map Component.definition)) =
      .ok (.ofChoices (groupsFrom 0 (component :: components))) := by
  obtain ⟨next, reads, finished⟩ :=
    @reads_wrapFrom .start rfl rfl rfl (fun _ _ => List.not_mem_nil) component components
  let read := alternation (patternsFrom 0 (component :: components))
  have depth : read.depth ≤ Regex.nestLimit :=
    calc read.depth ≤ Pattern.depthOfList (patternsFrom 0 (component :: components)) + 1 :=
          depth_alternation_le _
      _ ≤ 3 + 1 := Nat.succ_le_succ (depthOfList_patternsFrom_le 0 _)
      _ ≤ Regex.nestLimit := by decide
  let text := (mergedSource ((component :: components).map Component.definition)).toList
  have parsed : Pattern.parse text = .ok read := by
    have whole : PatternReader.readUpTo (text.length + 1) .start text = .ok read :=
      reads.finish.trans finished
    rw [Pattern.parse, whole]
    exact if_pos depth
  have means : read.elaborate = .ok (.ofChoices (groupsFrom 0 (component :: components))) := by
    rw [Pattern.elaborate, elaborateWith_alternation_patternsFrom]
    rfl
  rw [Expr.ofText, parsed]
  exact means

/-! ## Merging -/

/-- A scanner is made of what the merged source means, if that keeps to the limit, and it has the
slots of the definitions. -/
theorem of_compile_eq_ok {definitions : List Definition} {scanner : Scanner}
    (compiled : compile definitions = .ok scanner) :
    Expr.ofText (mergedSource definitions) = .ok scanner.expr ∧ scanner.expr.fits = true ∧
      slotsFrom scanner.expr 0 definitions = .ok scanner.slots := by
  rw [compile] at compiled
  split at compiled
  · cases compiled
  · rename_i expr accepted
    by_cases fits : expr.fits = true
    · rw [if_pos fits] at compiled
      obtain ⟨slots, found, made⟩ := bind_eq_ok_iff.mp compiled
      cases made
      exact ⟨accepted, fits, found⟩
    · rw [if_neg fits] at compiled
      cases compiled

/-- The definitions with their groups from an index on. -/
def numberedFrom : Nat → List Component → List (Nat × Definition)
  | _, [] => []
  | index, component :: components =>
      (index + 1, component.definition) :: numberedFrom (index + 1) components

/-- Each name of a group is that of one group. -/
theorem find?_groups_groupsFrom {index later : Nat} {components : List Component}
    (le : index ≤ later) (less : later < index + components.length) :
    ((groupsFrom index components).flatMap Expr.groups).find? (·.2 == some (groupName later)) =
      some (later + 1, some (groupName later)) := by
  induction components generalizing index with
  | nil => exact absurd less (Nat.not_lt.mpr le)
  | cons component components induction =>
      rw [groupsFrom, List.flatMap_cons, Expr.groups, component.groups_eq, List.singleton_append]
      rcases Nat.eq_or_lt_of_le le with rfl | behind
      · exact List.find?_cons_of_pos (beq_self_eq_true _)
      · have other : (some (groupName index) == some (groupName later)) = false := by
          rw [beq_eq_false_iff_ne, ne_eq, Option.some_inj, groupName_inj]
          exact Nat.ne_of_lt behind
        rw [List.find?_cons_of_neg (by rw [other]; exact Bool.false_ne_true)]
        exact induction behind (by rw [List.length_cons] at less; omega)

/-- Every definition has its group. -/
theorem slotsFrom_eq {expr : Expr} {index : Nat} {components : List Component}
    (named : ∀ later, index ≤ later → later < index + components.length →
      expr.groupOfName? (groupName later) = some (later + 1)) :
    slotsFrom expr index (components.map Component.definition) =
      .ok (numberedFrom index components) := by
  induction components generalizing index with
  | nil => rfl
  | cons component components induction =>
      have first := named index (Nat.le_refl _) (by rw [List.length_cons]; omega)
      have others := @induction (index + 1) fun later le less =>
        named later (by omega) (by rw [List.length_cons]; omega)
      rw [List.map_cons, slotsFrom, first]
      simp only [others, numberedFrom]
      rfl

/-- The scanner of merged definitions. -/
def merged (components : List Component) : Scanner :=
  ⟨.ofChoices (groupsFrom 0 components), numberedFrom 0 components⟩

/-- Definitions are merged unless the choice is too large. -/
theorem compile_eq (component : Component) (components : List Component) :
    compile ((component :: components).map Component.definition) =
      if (merged (component :: components)).expr.fits then .ok (merged (component :: components))
      else .error (.invalidPattern mergedName (.oversized Regex.sizeLimit)) := by
  have slots : slotsFrom (merged (component :: components)).expr 0
      ((component :: components).map Component.definition) =
        .ok (numberedFrom 0 (component :: components)) := by
    refine slotsFrom_eq fun later le less => ?_
    rw [Expr.groupOfName?, merged, Expr.groups_ofChoices, find?_groups_groupsFrom le less]
    rfl
  rw [compile, ofText_mergedSource]
  change (if (merged (component :: components)).expr.fits then _ else _) = _
  split
  · simp only [merged] at slots ⊢
    rw [slots]
    rfl
  · rfl

/-! ## Matches of merged definitions -/

/-- The first lexeme among those of components. -/
def firstLexeme (components : List Component) : LexemeRule := fun text =>
  components.findSome? fun component =>
    (component.lexeme? text).map fun lexeme => (component.definition.name, lexeme)

/-- The group of a component matches what the component does. -/
theorem matchAt?_groupsFrom_cons (index : Nat) (component : Component)
    (components : List Component) (position : Position) :
    (Expr.ofChoices (groupsFrom index (component :: components))).matchAt? position =
      ((component.lexeme? position.rest).map fun lexeme =>
        (⟨position.advance lexeme.length, []⟩ : Thread).record (index + 1) position.offset).or
        ((Expr.ofChoices (groupsFrom (index + 1) components)).matchAt? position) := by
  rw [groupsFrom, Expr.matchAt?_ofChoices_cons, Expr.matchAt?_capture, component.matchAt?_eq,
    Option.map_map]
  rfl

/-- Where no component has a lexeme no group matches. -/
theorem matchAt?_groupsFrom_of_none {index : Nat} {components : List Component}
    {position : Position} (missing : firstLexeme components position.rest = none) :
    (Expr.ofChoices (groupsFrom index components)).matchAt? position = none := by
  induction components generalizing index with
  | nil => exact Expr.matchAt?_ofChoices_nil position
  | cons component components induction =>
      obtain ⟨here, later⟩ := List.forall_mem_cons.mp (List.findSome?_eq_none_iff.mp missing)
      rw [matchAt?_groupsFrom_cons, Option.map_eq_none_iff.mp here,
        induction (List.findSome?_eq_none_iff.mpr later)]
      rfl

/-- The group of the first component with a lexeme matches that, and no group before it. -/
theorem matchAt?_groupsFrom_of_some {index : Nat} {components : List Component}
    {position : Position} {name : String} {lexeme : List Char}
    (found : firstLexeme components position.rest = some (name, lexeme)) :
    ∃ thread, (Expr.ofChoices (groupsFrom index components)).matchAt? position = some thread ∧
      thread.position = position.advance lexeme.length ∧
      (∀ group ≤ index, thread.span? group = none) ∧
      winner? (numberedFrom index components) ⟨position, thread⟩ =
        some ⟨name, ⟨position.offset, thread.offset⟩⟩ := by
  induction components generalizing index with
  | nil => cases found
  | cons component components induction =>
      rw [firstLexeme, List.findSome?_cons] at found
      rw [matchAt?_groupsFrom_cons]
      cases here : component.lexeme? position.rest with
      | none =>
          rw [here] at found
          obtain ⟨thread, matched, stop, unused, won⟩ := @induction (index + 1) found
          refine ⟨thread, matched, stop, fun group le => unused group (Nat.le_succ_of_le le), ?_⟩
          -- A match of a later group leaves this one without a span.
          rw [numberedFrom, winner?_cons_of_none (unused (index + 1) (Nat.le_refl _))]
          exact won
      | some own =>
          rw [here] at found
          cases found
          refine ⟨_, rfl, rfl, ?_, ?_⟩
          · intro group le
            have other : (group == index + 1) = false :=
              beq_eq_false_iff_ne.mpr (Nat.ne_of_lt (Nat.lt_succ_of_le le))
            simp [Thread.span?, Thread.record, List.lookup_cons, other]
          · exact winner?_cons_of_some (Thread.span?_record _ (index + 1) position.offset) _

/-- Where definitions match, the first of them counts. -/
theorem follows_merged {components : List Component} (sound : (firstLexeme components).Sound) :
    (merged components).Follows (firstLexeme components) where
  sound := sound
  unmatched _ missing := matchAt?_groupsFrom_of_none missing
  matched position name lexeme found := by
    obtain ⟨thread, here, stop, -, won⟩ :=
      @matchAt?_groupsFrom_of_some 0 components position name lexeme found
    exact ⟨thread, here, stop, won⟩

end Scanner

end TokenGrammar
