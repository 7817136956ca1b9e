import TokenGrammar.Proofs.Regex.Embedding

/-! # Groups that are kept

A reader keeps the number of the groups that it has read, and their names. A name is taken once a
group has it, and no other group can have it then. So the groups of a pattern have different names.

* `Regex.PatternReader.KeepsGroups`: what is kept is the number of groups that were read, and their
  names.
* `Regex.PatternReader.KeepsGroups.step`: each step keeps it so.
* `Regex.Pattern.nodup_names_of_parse`: no two groups of a pattern have the same name. -/

namespace TokenGrammar.Regex

open scoped List

namespace PatternReader

variable {reader next : PatternReader}

/-- Names stay taken. -/
theorem names_subset_of_move {move : PatternMove} (moved : reader.move move = .ok next) :
    reader.names ⊆ next.names := by
  cases move with
  | enter opening =>
      obtain ⟨-, rfl⟩ := enter_eq_ok_iff.mp moved
      cases opening with
      | capture name => exact List.subset_append_right _ _
      | plain setting => exact List.Subset.refl _
      | directive setting => exact List.Subset.refl _
  | leave =>
      obtain ⟨_, _, -, rfl⟩ := close_eq_ok_iff.mp moved
      exact List.Subset.refl _
  | alternate | add _ =>
      cases moved
      exact List.Subset.refl _
  | repeatLast count =>
      obtain ⟨_, _, -, -, rfl⟩ := repeatLast_eq_ok_iff.mp moved
      exact List.Subset.refl _

/-- What has been read if the groups end here. -/
def closeAll : OpenLevel → List OpenGroup → OpenLevel
  | level, [] => level
  | level, group :: groups => closeAll (group.outer.add (group.close level.toPattern)) groups

/-- What a reader keeps are the number of groups in what has been read and their names, all of them
different. -/
structure KeepsGroups (reader : PatternReader) : Prop where
  /-- Groups that are open keep the groups in them. -/
  closes : ∀ group ∈ reader.groups, ∃ own, ∀ body,
    (group.close body).captures = own ++ body.captures
  /-- As many groups are numbered as there are in what has been read. -/
  numbered : reader.captures = (closeAll reader.level reader.groups).captures.length
  /-- The names that are taken are those of the groups in what has been read. -/
  named : reader.names.Perm ((closeAll reader.level reader.groups).captures.filterMap id)
  /-- No two groups have the same name. -/
  distinct : reader.names.Nodup

/-- The groups of a level with another part. -/
theorem captures_add (level : OpenLevel) (part : Pattern) :
    (level.add part).captures.Perm (part.captures ++ level.captures) := by
  simp only [OpenLevel.add, OpenLevel.captures, List.flatMap_cons]
  exact List.perm_append_comm_assoc ..

/-- The groups in what has been read are those in the level, and those around it. -/
theorem exists_captures_closeAll {groups : List OpenGroup}
    (closes : ∀ group ∈ groups, ∃ own, ∀ body,
      (group.close body).captures = own ++ body.captures) :
    ∃ around, ∀ level, (closeAll level groups).captures.Perm (level.captures ++ around) := by
  induction groups with
  | nil => exact ⟨[], fun level => .of_eq (List.append_nil _).symm⟩
  | cons group groups induction =>
      obtain ⟨⟨own, captures⟩, others⟩ := List.forall_mem_cons.mp closes
      obtain ⟨around, each⟩ := induction others
      refine ⟨own ++ group.outer.captures ++ around, fun level => ?_⟩
      calc (closeAll level (group :: groups)).captures
          ~ (group.outer.add (group.close level.toPattern)).captures ++ around := each _
        _ ~ (group.close level.toPattern).captures ++ group.outer.captures ++ around :=
            (captures_add ..).append_right around
        _ = own ++ level.toPattern.captures ++ group.outer.captures ++ around := by rw [captures]
        _ ~ level.captures ++ own ++ group.outer.captures ++ around := by
            refine .append_right around (.append_right _ ?_)
            exact (level.perm_captures_toPattern.append_left own).trans List.perm_append_comm
        _ = level.captures ++ (own ++ group.outer.captures ++ around) := by
            rw [List.append_assoc, List.append_assoc, List.append_assoc]

namespace KeepsGroups

/-- Where some groups of their own are read, and where their names are new, these are kept with
those before. -/
theorem further (keeps : reader.KeepsGroups) (own : List (Option String))
    (closes : ∀ group ∈ next.groups, ∃ own, ∀ body,
      (group.close body).captures = own ++ body.captures)
    (read : (closeAll next.level next.groups).captures.Perm
      (own ++ (closeAll reader.level reader.groups).captures))
    (numbered : next.captures = reader.captures + own.length)
    (named : next.names = own.filterMap id ++ reader.names) (distinct : next.names.Nodup) :
    next.KeepsGroups where
  closes := closes
  numbered := by
    rw [numbered, keeps.numbered, read.length_eq, List.length_append, Nat.add_comm]
  named := by
    rw [named]
    refine (keeps.named.append_left _).trans ?_
    rw [← List.filterMap_append]
    exact (read.filterMap id).symm
  distinct := distinct

/-- A level with the same groups keeps them. -/
theorem replace (keeps : reader.KeepsGroups) {level : OpenLevel}
    (same : level.captures.Perm reader.level.captures) :
    { reader with level }.KeepsGroups := by
  refine keeps.further [] keeps.closes ?_ rfl rfl keeps.distinct
  obtain ⟨around, each⟩ := exists_captures_closeAll keeps.closes
  exact (each _).trans ((same.append_right around).trans (each _).symm)

/-- A part without groups adds none. -/
theorem add (keeps : reader.KeepsGroups) {part : Pattern} (simple : part.IsSimple) :
    (reader.add part).KeepsGroups := by
  refine keeps.replace ((captures_add reader.level part).trans ?_)
  rw [simple.captures]
  exact .refl _

/-- A group that is entered is kept, if it is numbered, with its name, which is new. -/
theorem enter (keeps : reader.KeepsGroups) (close : Pattern → Pattern)
    (own : List (Option String)) (closes : ∀ body, (close body).captures = own ++ body.captures)
    (new : (own.filterMap id ++ reader.names).Nodup) :
    { reader.enter close with
      captures := reader.captures + own.length
      names := own.filterMap id ++ reader.names }.KeepsGroups := by
  refine keeps.further own (List.forall_mem_cons.mpr ⟨⟨own, closes⟩, keeps.closes⟩) ?_ rfl rfl new
  obtain ⟨around, each⟩ := exists_captures_closeAll keeps.closes
  let inside := close OpenLevel.empty.toPattern
  calc (closeAll (reader.level.add inside) reader.groups).captures
      ~ (reader.level.add inside).captures ++ around := each _
    _ ~ inside.captures ++ reader.level.captures ++ around :=
        (captures_add ..).append_right around
    _ = own ++ (reader.level.captures ++ around) := by
        rw [closes, List.append_assoc]
        exact congrArg (· ++ _) (List.append_nil own)
    _ ~ own ++ (closeAll reader.level reader.groups).captures := (each _).symm.append_left own

/-- An opening is kept. -/
theorem applyOpening (keeps : reader.KeepsGroups) {opening : GroupOpening}
    (new : ∀ name, opening.name? = some name → name ∉ reader.names) :
    (reader.applyOpening opening).KeepsGroups := by
  cases opening with
  | capture name =>
      cases name with
      | none =>
          have entered := keeps.enter (.capture (reader.captures + 1) none) [none] (fun _ => rfl)
            keeps.distinct
          exact ⟨entered.closes, entered.numbered, entered.named, entered.distinct⟩
      | some name =>
          have entered := keeps.enter (.capture (reader.captures + 1) (some name)) [some name]
            (fun _ => rfl) (List.nodup_cons.mpr ⟨new name rfl, keeps.distinct⟩)
          exact ⟨entered.closes, entered.numbered, entered.named, entered.distinct⟩
  | plain setting =>
      have entered := keeps.enter (.group setting) [] (fun _ => rfl) keeps.distinct
      exact ⟨entered.closes, entered.numbered, entered.named, entered.distinct⟩
  | directive setting =>
      have simple : (Pattern.flags setting).IsSimple := trivial
      have added := keeps.add simple
      exact ⟨added.closes, added.numbered, added.named, added.distinct⟩

/-- What a piece does keeps the groups. -/
theorem move (keeps : reader.KeepsGroups) {move : PatternMove}
    (simple : ∀ part, move = .add part → part.IsSimple) (moved : reader.move move = .ok next) :
    next.KeepsGroups := by
  cases move with
  | enter opening =>
      obtain ⟨new, rfl⟩ := enter_eq_ok_iff.mp moved
      exact keeps.applyOpening new
  | leave =>
      -- What the group closes to counted as read while it was open.
      obtain ⟨group, groups, around, rfl⟩ := close_eq_ok_iff.mp moved
      obtain ⟨closes, numbered, named, distinct⟩ := keeps
      rw [around] at closes numbered named
      exact ⟨(List.forall_mem_cons.mp closes).2, numbered, named, distinct⟩
  | alternate =>
      cases moved
      refine keeps.replace ?_
      rw [OpenLevel.captures, OpenLevel.captures, OpenLevel.alternate, OpenLevel.current,
        List.flatMap_cons, Pattern.captures_ofParts, List.flatMap_nil, List.append_nil]
      exact (List.Perm.append_right _ ((List.reverse_perm _).flatMap_right _)).trans
        List.perm_append_comm
  | add part =>
      cases moved
      exact keeps.add (simple part rfl)
  | repeatLast count =>
      obtain ⟨part, parts, read, -, rfl⟩ := repeatLast_eq_ok_iff.mp moved
      refine keeps.replace ?_
      rw [OpenLevel.captures, OpenLevel.captures, read]
      exact .refl _

/-- Reading the next piece keeps the groups. -/
theorem step (keeps : reader.KeepsGroups) {c : Char} {text rest : List Char}
    (stepped : reader.step c text = .ok (next, rest)) : next.KeepsGroups := by
  obtain ⟨-, move, parsed, moved⟩ := step_eq_ok_iff.mp stepped
  refine keeps.move ?_ moved
  rintro part rfl
  exact isSimple_of_parseMove parsed

end KeepsGroups

/-! ## Whole patterns -/

/-- The start has no groups. -/
theorem keepsGroups_start : start.KeepsGroups where
  closes _ member := absurd member List.not_mem_nil
  numbered := rfl
  named := .refl []
  distinct := List.nodup_nil

/-- A finished reader has left every group, and what it has read is the pattern. -/
theorem finish_eq_ok_iff {pattern : Pattern} :
    reader.finish = .ok pattern ↔ reader.groups = [] ∧ reader.level.toPattern = pattern := by
  unfold finish
  split
  · rename_i none
    constructor
    · intro finished
      cases finished
      exact ⟨none, rfl⟩
    · rintro ⟨-, rfl⟩
      rfl
  · rename_i around
    constructor
    · intro failed
      cases failed
    · rintro ⟨none, -⟩
      rw [around] at none
      cases none

/-- Where all groups are left, what is kept is what the pattern that was read has. -/
theorem KeepsGroups.whole (keeps : reader.KeepsGroups) (none : reader.groups = []) :
    reader.captures = reader.level.toPattern.captureCount ∧
      reader.names.Perm reader.level.toPattern.names := by
  obtain ⟨-, numbered, named, -⟩ := keeps
  rw [none, closeAll] at numbered named
  have read := reader.level.perm_captures_toPattern
  rw [← Pattern.length_captures, ← Pattern.filterMap_captures]
  exact ⟨numbered.trans read.length_eq.symm, named.trans (read.filterMap id).symm⟩

/-- What is read to the end has the names that are taken, each of one group. -/
theorem nodup_names_of_readUpTo {bound : Nat} {text : List Char} {pattern : Pattern}
    (keeps : reader.KeepsGroups) (read : readUpTo bound reader text = .ok pattern) :
    pattern.names.Nodup := by
  induction bound generalizing reader text with
  | zero => cases read
  | succ bound induction =>
      rw [readUpTo] at read
      split at read
      · obtain ⟨none, rfl⟩ := finish_eq_ok_iff.mp read
        exact (keeps.whole none).2.nodup_iff.mp keeps.distinct
      · obtain ⟨⟨next, remaining⟩, stepped, read⟩ := bind_eq_ok_iff.mp read
        exact induction (keeps.step stepped) read

end PatternReader

/-- **No two groups of a pattern have the same name.** -/
theorem Pattern.nodup_names_of_parse {text : List Char} {pattern : Pattern}
    (parsed : Pattern.parse text = .ok pattern) : pattern.names.Nodup := by
  obtain ⟨read, wholly, shallow⟩ := bind_eq_ok_iff.mp parsed
  split at shallow
  · cases shallow
    exact PatternReader.nodup_names_of_readUpTo PatternReader.keepsGroups_start wholly
  · cases shallow

end TokenGrammar.Regex
