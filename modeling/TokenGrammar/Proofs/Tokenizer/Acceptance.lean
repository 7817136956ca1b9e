import TokenGrammar.Proofs.Regex.Enclosing
import TokenGrammar.Proofs.Tokenizer.Attribution
import TokenGrammar.Proofs.Tokenizer.Cache
import Mathlib.Data.Set.List

/-! # Accepted definitions in a scanner

A definition is looked at alone when it is given, and the scanner is made of all of them. That an
accepted definition is a pattern alone does not make it one in its group: it may end within a
comment, or share the name of a group with another one. Where it does neither, only the size of the
merged pattern can stand in the way of a scanner.

* `Definition.Encloses`: a definition is a pattern in its group too.
* `Scanner.groupNamesFrom`: the names of all groups in the merged pattern.
* `Scanner.wraps_of_encloses`: definitions that are patterns in their groups, with groups of
  different names, are read as the alternation of these groups.
* `Scanner.compile_of_encloses`: so valid definitions make a scanner unless that is too large.
* `Tokenizer.scan_of_encloses`: so the definitions of a tokenizer do not break its scans.
* `Tokenizer.scan_broken_by_comment`: an accepted definition that no scanner can be made of. -/

namespace TokenGrammar

open Regex (Expr Pattern PatternReader)

namespace Definition

/-- Whether the pattern of a definition is one in parentheses too. -/
def Encloses (definition : Definition) : Prop :=
  Regex.Encloses definition.source.toList

instance (definition : Definition) : Decidable definition.Encloses :=
  inferInstanceAs (Decidable (Regex.Encloses _))

/-- The names of the groups in the pattern of a definition. -/
def groupNames (definition : Definition) : List String :=
  match Pattern.parse definition.source.toList with
  | .ok pattern => pattern.names
  | .error _ => []

/-- A valid definition has a pattern that means something. -/
theorem Valid.exists_branch {definition : Definition} (valid : definition.Valid) :
    ∃ branch : Scanner.Branch, branch.definition = definition := by
  obtain ⟨expr, means⟩ : ∃ expr, Expr.ofText definition.source = .ok expr := by
    rw [Valid, fault?] at valid
    split at valid
    · cases valid
    · split at valid
      · cases valid
      · split at valid
        · cases valid
        · split at valid
          · rename_i expr means
            exact ⟨expr, means⟩
          · cases valid
  obtain ⟨body, parsed, elaborated⟩ := bind_eq_ok_iff.mp means
  obtain ⟨⟨_, after⟩, elaborated, -⟩ := bind_eq_ok_iff.mp elaborated
  exact ⟨⟨definition, body, _, parsed, after, elaborated⟩, rfl⟩

end Definition

namespace Scanner

/-- The names of the groups in the merged pattern, from the definition at an index on. -/
def groupNamesFrom : Nat → List Definition → List String
  | _, [] => []
  | index, definition :: definitions =>
      groupName index :: (definition.groupNames ++ groupNamesFrom (index + 1) definitions)

variable {index : Nat} {branch : Branch} {branches : List Branch} {reader : PatternReader}

/-- The group that the pattern at an index is in. -/
def openGroup (reader : PatternReader) (index : Nat) : Regex.OpenGroup :=
  ⟨reader.level, .capture (reader.captures + 1) (some (groupName index)), reader.verbose⟩

/-- The names of the groups in the pattern of a branch. -/
theorem Branch.groupNames_eq (branch : Branch) :
    branch.definition.groupNames = branch.body.names := by
  rw [Definition.groupNames, branch.parsed]

/-- A definition in its group is read as its pattern in a group, which has numbers and names of its
own. -/
theorem exists_reads_of_encloses (encloses : branch.definition.Encloses) :
    branch.body.depth + 2 ≤ Regex.nestLimit ∧ ∃ names, names ⊆ branch.body.names ∧
      ∀ {reader : PatternReader} {index : Nat}, reader.verbose = false →
        groupName index ∉ reader.names →
          (∀ name ∈ names, name ≠ groupName index ∧ name ∉ reader.names) → ∀ rest,
            reader.Reads ((wrap index branch.definition).toList ++ rest)
              ((inGroup reader index).past (openGroup reader index) reader.groups branch.body
                branch.body.captureCount names) rest := by
  obtain ⟨shallow, names, subset, reads⟩ :=
    PatternReader.exists_reads_of_encloses branch.parsed encloses
  refine ⟨shallow, names, subset, ?_⟩
  intro reader index solid new distinct rest
  have whole : (wrap index branch.definition).toList ++ rest = '(' :: '?' :: 'P' :: '<' ::
      ((groupName index).toList ++ '>' :: (branch.definition.source.toList ++ ')' :: rest)) := by
    simp [wrap]
  have entered : (inGroup reader index).Entered (openGroup reader index) reader.groups :=
    ⟨solid, rfl, rfl⟩
  have free : ∀ name ∈ names, name ∉ (inGroup reader index).names := fun name member =>
    List.not_mem_cons_of_ne_of_not_mem (distinct name member).1 (distinct name member).2
  rw [whole]
  exact (reads_opening solid new _).trans (reads entered free rest)

/-- Definitions in their groups are not nested too deeply. -/
theorem depthOfList_wrappers_lt {captures index : Nat}
    (encloses : ∀ given ∈ branches, given.definition.Encloses) :
    Pattern.depthOfList (wrappers captures index (branches.map Branch.body)) <
      Regex.nestLimit := by
  induction branches generalizing captures index with
  | nil => exact Nat.zero_lt_of_ne_zero nofun
  | cons branch branches induction =>
      obtain ⟨first, others⟩ := List.forall_mem_cons.mp encloses
      obtain ⟨shallow, -⟩ := exists_reads_of_encloses first
      rw [List.map_cons, wrappers, Pattern.depthOfList, Pattern.depth, Pattern.depth_renumber]
      exact Nat.max_lt.mpr ⟨by omega, induction others⟩

section Alternatives

variable (encloses : ∀ given ∈ branch :: branches, given.definition.Encloses)
  (distinct : (groupNamesFrom index ((branch :: branches).map Branch.definition)).Nodup)
  (new : ∀ name ∈ groupNamesFrom index ((branch :: branches).map Branch.definition),
    name ∉ reader.names)
  (solid : reader.verbose = false)

include encloses distinct new solid

/-- The first of some definitions is read, and the names of the others are still new after it. -/
theorem exists_reads_wrap (outermost : reader.groups = []) :
    ∃ past : PatternReader,
      (∀ rest, reader.Reads ((wrap index branch.definition).toList ++ rest) past rest) ∧
      past.verbose = false ∧ past.groups = [] ∧
      past.captures = reader.captures + 1 + branch.body.captureCount ∧
      past.level = reader.level.add (.capture (reader.captures + 1) (some (groupName index))
        (branch.body.renumber (reader.captures + 1))) ∧
      ∀ name ∈ groupNamesFrom (index + 1) (branches.map Branch.definition),
        name ∉ past.names := by
  obtain ⟨-, names, subset, reads⟩ :=
    exists_reads_of_encloses (List.forall_mem_cons.mp encloses).1
  rw [List.map_cons, groupNamesFrom, branch.groupNames_eq] at distinct new
  -- The names are in this order: that of the group, those in its body, and those of the others.
  obtain ⟨other, distinct⟩ := List.nodup_cons.mp distinct
  obtain ⟨first, later⟩ := List.forall_mem_cons.mp new
  have free : ∀ name ∈ names, name ≠ groupName index ∧ name ∉ reader.names := by
    refine fun name member => ⟨?_, later name (List.mem_append_left _ (subset member))⟩
    rintro rfl
    exact other (List.mem_append_left _ (subset member))
  refine ⟨_, reads solid first free, solid, outermost, Nat.add_comm .., rfl, ?_⟩
  intro name member taken
  rcases List.mem_append.mp taken with inside | before
  · exact (List.nodup_append.mp distinct).2.2 name (subset inside) name member rfl
  · rcases List.mem_cons.mp before with rfl | before
    · exact other (List.mem_append_right _ member)
    · exact later name (List.mem_append_right _ member) before

/-- **Definitions in their groups are read as alternatives** where all names of groups are different
ones. -/
theorem exists_reads_wrapFrom (outermost : reader.groups = []) (fresh : reader.level.parts = []) :
    ∃ next, reader.Reads ("|".intercalate
        (wrapFrom index ((branch :: branches).map Branch.definition))).toList next [] ∧
      next.finish = .ok (alternation (reader.level.alternatives.reverse ++
        wrappers reader.captures index ((branch :: branches).map Branch.body))) := by
  -- A bar leaves the reader on the outermost level with nothing read of the next alternative.
  induction branches generalizing reader index branch with
  | nil =>
      obtain ⟨past, reads, -, outermostPast, -, level, -⟩ :=
        exists_reads_wrap encloses distinct new solid outermost
      refine ⟨past, ?_, ?_⟩
      · simpa [wrapFrom] using reads []
      · rw [PatternReader.finish, outermostPast]
        simp [toPattern_eq, level, Regex.OpenLevel.add, Regex.OpenLevel.current, fresh,
          Pattern.ofParts, wrappers]
  | cons second branches induction =>
      obtain ⟨past, reads, solidPast, outermostPast, captures, level, newPast⟩ :=
        exists_reads_wrap encloses distinct new solid outermost
      let after : PatternReader := { past with level := past.level.alternate }
      have distinctLater :
          (groupNamesFrom (index + 1) ((second :: branches).map Branch.definition)).Nodup :=
        (List.nodup_append.mp (List.nodup_cons.mp distinct).2).2.1
      obtain ⟨next, later, finished⟩ :=
        @induction (index + 1) second after (List.forall_mem_cons.mp encloses).2 distinctLater
          newPast solidPast outermostPast rfl
      refine ⟨next, ?_, ?_⟩
      · have bar : past.Reads ('|' :: ("|".intercalate (wrapFrom (index + 1)
            ((second :: branches).map Branch.definition))).toList) after _ :=
          .of_step solidPast rfl (Nat.le_refl _)
        simpa [wrapFrom, String.toList_intercalate] using (reads _).trans (bar.trans later)
      -- The group that was read comes before the others, whose numbers follow those in it.
      · have numbered : after.captures = reader.captures + 1 + branch.body.captureCount := captures
        have read : after.level.alternatives.reverse = reader.level.alternatives.reverse ++
            [.capture (reader.captures + 1) (some (groupName index))
              (branch.body.renumber (reader.captures + 1))] := by
          simp [after, level, Regex.OpenLevel.alternate, Regex.OpenLevel.add,
            Regex.OpenLevel.current, fresh, Pattern.ofParts]
        rw [finished, numbered, read, List.append_assoc]
        rfl

end Alternatives

/-- **Definitions that are patterns in their groups are merged into the alternation of these
groups** if no two groups have the same name. -/
theorem wraps_of_encloses
    (encloses : ∀ given ∈ branch :: branches, given.definition.Encloses)
    (distinct : (groupNamesFrom 0 ((branch :: branches).map Branch.definition)).Nodup) :
    Wraps ((branch :: branches).map Branch.definition) ((branch :: branches).map Branch.body) where
  alone := by
    rw [List.forall₂_map_left_iff, List.forall₂_map_right_iff, List.forall₂_same]
    exact fun given _ => given.parsed
  merged := by
    obtain ⟨next, reads, finished⟩ := @exists_reads_wrapFrom 0 branch branches .start encloses
      distinct (fun _ _ => List.not_mem_nil) rfl rfl rfl
    let text := (mergedSource ((branch :: branches).map Branch.definition)).toList
    have whole : PatternReader.readUpTo (text.length + 1) .start text =
        .ok (alternation (wrappers 0 0 ((branch :: branches).map Branch.body))) :=
      reads.finish.trans finished
    rw [Pattern.parse, whole]
    exact if_pos (Nat.le_trans (depth_alternation_le _) (depthOfList_wrappers_lt encloses))

/-- Valid definitions are those of branches. -/
theorem exists_branches_of_valid {definitions : List Definition}
    (valid : ∀ given ∈ definitions, given.Valid) :
    ∃ branches : List Branch, branches.map Branch.definition = definitions := by
  have each : definitions ∈
      {given | ∀ definition ∈ given, definition ∈ Set.range Branch.definition} :=
    fun definition member => (valid definition member).exists_branch
  rwa [← Set.range_list_map] at each

/-- Definitions that are patterns in their groups, with names of groups that are different ones,
make a scanner unless it is too large. -/
theorem compile_of_encloses {definitions : List Definition} (some : definitions ≠ [])
    (valid : ∀ given ∈ definitions, given.Valid)
    (encloses : ∀ given ∈ definitions, given.Encloses)
    (distinct : (groupNamesFrom 0 definitions).Nodup) :
    ∃ merged slots, Expr.ofText (mergedSource definitions) = .ok merged ∧
      compile definitions =
        if merged.fits then .ok ⟨merged, slots⟩
        else .error (.invalidPattern mergedName (.oversized Regex.sizeLimit)) := by
  obtain ⟨branches, rfl⟩ := exists_branches_of_valid valid
  cases branches with
  | nil => exact absurd rfl some
  | cons branch branches =>
      have wraps := wraps_of_encloses (fun given member => encloses _ (List.mem_map_of_mem member))
        distinct
      exact ⟨_, _, wraps.ofText_mergedSource, wraps.compile_eq⟩

end Scanner

namespace Tokenizer

/-- There is always a definition in effect, that of white space. -/
theorem effectiveDefinitions_ne_nil (tokenizer : Tokenizer) :
    tokenizer.effectiveDefinitions ≠ [] := by
  rw [effectiveDefinitions]
  split
  · rename_i given
    intro none
    rw [none] at given
    cases given
  · exact List.append_ne_nil_of_right_ne_nil _ (List.cons_ne_nil _ _)

/-- Every definition in effect is valid. -/
theorem Sound.valid_of_effective {tokenizer : Tokenizer} (sound : tokenizer.Sound) :
    ∀ definition ∈ tokenizer.effectiveDefinitions, definition.Valid := by
  intro definition member
  rw [effectiveDefinitions] at member
  split at member
  · exact sound.valid definition member
  · rcases List.mem_append.mp member with given | whitespace
    · exact sound.valid definition given
    · rw [List.mem_singleton.mp whitespace]
      exact sound.whitespace

/-- A scanner at hand is what would be made anew. -/
theorem Sound.prepare_eq {tokenizer : Tokenizer} (sound : tokenizer.Sound) :
    tokenizer.prepare = Scanner.compile tokenizer.effectiveDefinitions := by
  cases atHand : tokenizer.scanner with
  | none => exact prepare_of_none atHand
  | some scanner => rw [prepare_of_scanner atHand, sound.current scanner atHand]

/-- A scan uses the scanner that is made of the definitions, and fails if none is. -/
theorem Sound.scan_fst {tokenizer : Tokenizer} (sound : tokenizer.Sound) (input : String) :
    (tokenizer.scan input).1 = (Scanner.compile tokenizer.effectiveDefinitions).bind fun scanner =>
      scanner.scan tokenizer.keepWhitespace tokenizer.onUnknown input := by
  rw [← sound.prepare_eq]
  cases prepared : tokenizer.prepare with
  | ok scanner =>
      rw [scan_of_prepare prepared]
      rfl
  | error error =>
      rw [scan_of_prepare_error prepared]
      rfl

/-- **Accepted definitions do not break the scanner if each is a pattern in its group too and no two
groups in them have the same name.** The merged pattern is one then, and all that can be wrong with
it is its size. -/
theorem scan_of_encloses {start : Tokenizer} (made : start.Made) (operations : List Operation)
    (encloses : ∀ definition ∈ (start.run operations).effectiveDefinitions, definition.Encloses)
    (distinct : (Scanner.groupNamesFrom 0 (start.run operations).effectiveDefinitions).Nodup) :
    let tokenizer := start.run operations
    ∃ merged slots,
      Expr.ofText (Scanner.mergedSource tokenizer.effectiveDefinitions) = .ok merged ∧
      ∀ input, (tokenizer.scan input).1 =
        if merged.fits then
          (Scanner.mk merged slots).scan tokenizer.keepWhitespace tokenizer.onUnknown input
        else .error (.invalidPattern Scanner.mergedName (.oversized Regex.sizeLimit)) := by
  intro tokenizer
  have sound : tokenizer.Sound := made.sound.1.run operations
  have valid := sound.valid_of_effective
  have prepared := sound.prepare_eq
  obtain ⟨merged, slots, means, compiled⟩ :=
    Scanner.compile_of_encloses tokenizer.effectiveDefinitions_ne_nil valid encloses distinct
  refine ⟨merged, slots, means, fun input => ?_⟩
  rw [compiled] at prepared
  split at prepared
  · rename_i fits
    rw [scan_of_prepare prepared, if_pos fits]
  · rename_i exceeds
    rw [scan_of_prepare_error prepared, if_neg exceeds]

/-- A group with a name, flags, and a comment that ends before the pattern does break nothing. -/
theorem scan_of_encloses_named :
    let start : Tokenizer := ⟨[.regex "pair" "(?x)(?<left>a) # and\n (b)",
      .regex "letter" "c|(?P<other>d)"], defaultWhitespace, false, rejectUnknown, none⟩
    start.Made ∧ ∃ merged slots,
      Expr.ofText (Scanner.mergedSource start.effectiveDefinitions) = .ok merged ∧
        (start.scan "ab c").1 = (Scanner.mk merged slots).scan false rejectUnknown "ab c" ∧
          (start.scan "ab c").1.toOption = some [⟨"pair", "ab", 0⟩, ⟨"letter", "c", 3⟩] := by
  intro start
  have valid : ∀ definition ∈ start.definitions, definition.Valid := by decide +kernel
  have made : start.Made := .ofDefinitions (defineAll_of_distinct rfl valid (by decide))
  have tokens : (start.scan "ab c").1.toOption = some [⟨"pair", "ab", 0⟩, ⟨"letter", "c", 3⟩] := by
    decide +kernel
  obtain ⟨merged, slots, means, scans⟩ :=
    scan_of_encloses made [] (by decide +kernel) (by decide +kernel)
  refine ⟨made, merged, slots, means, ?_, tokens⟩
  have scanned := scans "ab c"
  split at scanned
  · exact scanned
  · rw [run_nil] at scanned
    rw [scanned] at tokens
    cases tokens

/-- A pattern that ends within a comment is accepted, but in the merged pattern the comment takes in
the parenthesis that should close its group, so that the first scan fails. -/
theorem scan_broken_by_comment :
    ∃ tokenizer, ofDefinitions [.regex "a" "(?x)a#"] = .ok tokenizer ∧
      (tokenizer.scan "a").1 =
        .error (.invalidPattern Scanner.mergedName (.malformed .groupUnclosed)) := by
  let definition : Definition := .regex "a" "(?x)a#"
  let tokenizer : Tokenizer := ⟨[definition], defaultWhitespace, false, rejectUnknown, none⟩
  have valid : definition.Valid := by decide +kernel
  have defined : empty.define definition = .ok tokenizer := by
    rw [define, Definition.validate_eq_ok_iff.mpr valid]
    rfl
  refine ⟨tokenizer, defineAll_cons_of_ok defined [], ?_⟩
  have effective : tokenizer.effectiveDefinitions =
      [.regex "a" "(?x)a#", .whitespace defaultWhitespace] := rfl
  have broken : Regex.Expr.ofText
      (Scanner.mergedSource [.regex "a" "(?x)a#", .whitespace defaultWhitespace]) =
        .error .groupUnclosed := by rfl
  have refused : tokenizer.prepare =
      .error (.invalidPattern Scanner.mergedName (.malformed .groupUnclosed)) := by
    rw [prepare_of_none rfl, effective, Scanner.compile, broken]
  rw [scan_of_prepare_error refused]

end Tokenizer

end TokenGrammar
