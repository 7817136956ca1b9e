import TokenGrammar.Proofs.Regex.Renumbering
import Mathlib.Data.List.Forall2

/-! # Readers within groups

What a reader does outside of groups it does within groups that are open: it never looks at them.

* `Regex.PatternReader.close_eq_ok_iff` and so on: what a piece can do to a reader.
* `Regex.PatternReader.Embeds`: a reader does within groups what another one does outside of them.
* `Regex.PatternReader.Embeds.step`: both read the next piece. -/

namespace TokenGrammar.Regex

/-! ## Readers within groups -/

namespace PatternReader

/-- A group with the numbers of its groups raised. -/
structure Raised (shift : Nat) (group raised : OpenGroup) : Prop where
  /-- What was read before it has them raised. -/
  outer : raised.outer = group.outer.renumber shift
  /-- It closes alike. -/
  close : ∀ body, raised.close (body.renumber shift) = (group.close body).renumber shift
  /-- Spacing was ignored alike before it. -/
  verbose : raised.verbose = group.verbose

/-- A reader does within groups what another one does outside of them, and finds groups with higher
numbers. The names that were taken before are taken for it too. -/
structure Embeds (shift : Nat) (beneath : List OpenGroup) (taken : List String)
    (reader inner : PatternReader) : Prop where
  /-- Spacing is ignored alike. -/
  verbose : inner.verbose = reader.verbose
  /-- The innermost group is read alike. -/
  level : inner.level = reader.level.renumber shift
  /-- The groups around it are those of the other reader within the ones beneath. -/
  groups : ∃ raised, inner.groups = raised ++ beneath ∧
    List.Forall₂ (Raised shift) reader.groups raised
  /-- The numbers of groups are raised. -/
  captures : inner.captures = reader.captures + shift
  /-- The names are those of the other reader and those taken before. -/
  names : inner.names = reader.names ++ taken

variable {shift : Nat} {beneath : List OpenGroup} {taken : List String}
  {reader inner next : PatternReader}

/-- A group is left if one is open. -/
theorem close_eq_ok_iff :
    reader.close = .ok next ↔ ∃ group groups, reader.groups = group :: groups ∧
      next = { reader with
        verbose := group.verbose
        level := group.outer.add (group.close reader.level.toPattern)
        groups := groups } := by
  unfold close
  split
  · rename_i none
    constructor
    · intro failed
      cases failed
    · rintro ⟨_, _, around, -⟩
      rw [none] at around
      cases around
  · rename_i group groups around
    constructor
    · intro closed
      cases closed
      exact ⟨group, groups, around, rfl⟩
    · rintro ⟨_, _, again, rfl⟩
      rw [around] at again
      cases again
      rfl

/-- A part other than flags can be repeated. -/
theorem repeatLast_eq_ok_iff {count : RepetitionCount} :
    reader.repeatLast count = .ok next ↔ ∃ part parts, reader.level.parts = part :: parts ∧
      (∀ setting, part ≠ .flags setting) ∧
        next = { reader with level := { reader.level with
          parts := .repetition count.min count.max count.lazy part :: parts } } := by
  unfold repeatLast
  split
  · rename_i none
    constructor
    · intro failed
      cases failed
    · rintro ⟨_, _, read, -⟩
      rw [none] at read
      cases read
  · rename_i setting _ flags
    constructor
    · intro failed
      cases failed
    · rintro ⟨_, _, read, solid, -⟩
      rw [flags] at read
      exact absurd (List.cons.inj read).1.symm (solid setting)
  · rename_i part parts solid read
    constructor
    · intro repeated
      cases repeated
      refine ⟨part, parts, read, ?_, rfl⟩
      rintro setting rfl
      exact solid setting rfl
    · rintro ⟨_, _, again, -, rfl⟩
      rw [read] at again
      cases again
      rfl

/-- An opening is applied if no group before has its name. -/
theorem enter_eq_ok_iff {opening : GroupOpening} :
    reader.move (.enter opening) = .ok next ↔
      (∀ name, opening.name? = some name → name ∉ reader.names) ∧
        next = reader.applyOpening opening := by
  have distinct : opening.name?.any reader.names.contains = true ↔
      ¬ ∀ name, opening.name? = some name → name ∉ reader.names := by
    simp [Option.any_eq_true]
  rw [PatternReader.move]
  split
  · rename_i taken
    constructor
    · intro failed
      cases failed
    · rintro ⟨new, -⟩
      exact absurd new (distinct.mp taken)
  · rename_i free
    rw [distinct, not_not] at free
    constructor
    · intro moved
      cases moved
      exact ⟨free, rfl⟩
    · rintro ⟨-, rfl⟩
      rfl

namespace Embeds

/-- A part without groups is added to both. -/
theorem add (embeds : Embeds shift beneath taken reader inner) (part : Pattern)
    (simple : part.IsSimple) : Embeds shift beneath taken (reader.add part) (inner.add part) where
  verbose := embeds.verbose
  level := by
    rw [PatternReader.add, PatternReader.add, OpenLevel.add, OpenLevel.add, embeds.level]
    simp only [OpenLevel.renumber, List.map_cons, simple.renumber]
  groups := embeds.groups
  captures := embeds.captures
  names := embeds.names

/-- Both start another alternative. -/
theorem alternate (embeds : Embeds shift beneath taken reader inner) :
    Embeds shift beneath taken { reader with level := reader.level.alternate }
      { inner with level := inner.level.alternate } where
  verbose := embeds.verbose
  level := by
    rw [OpenLevel.alternate, embeds.level, OpenLevel.current_renumber]
    rfl
  groups := embeds.groups
  captures := embeds.captures
  names := embeds.names

/-- Both enter a group. -/
theorem enter (embeds : Embeds shift beneath taken reader inner) (close raised : Pattern → Pattern)
    (alike : ∀ body, raised (body.renumber shift) = (close body).renumber shift) :
    Embeds shift beneath taken (reader.enter close) (inner.enter raised) where
  verbose := embeds.verbose
  level := rfl
  groups := by
    obtain ⟨groups, within, each⟩ := embeds.groups
    refine ⟨⟨inner.level, raised, inner.verbose⟩ :: groups, ?_, .cons ?_ each⟩
    · rw [PatternReader.enter, within, List.cons_append]
    · exact ⟨embeds.level, alike, embeds.verbose⟩
  captures := embeds.captures
  names := embeds.names

/-- Both apply an opening. -/
theorem applyOpening (embeds : Embeds shift beneath taken reader inner) (opening : GroupOpening) :
    Embeds shift beneath taken (reader.applyOpening opening) (inner.applyOpening opening) := by
  cases opening with
  | capture name =>
      have index : inner.captures + 1 = reader.captures + 1 + shift := by
        rw [embeds.captures, Nat.add_right_comm]
      have entered := embeds.enter (.capture (reader.captures + 1) name)
        (.capture (inner.captures + 1) name) fun body => by rw [index]; rfl
      refine ⟨entered.verbose, entered.level, entered.groups, index, ?_⟩
      change name.toList ++ inner.names = name.toList ++ reader.names ++ taken
      rw [embeds.names, List.append_assoc]
  | plain setting =>
      have entered := embeds.enter (.group setting) (.group setting) fun _ => rfl
      exact ⟨congrArg (setting.value? .ignoreWhitespace).getD embeds.verbose, entered.level,
        entered.groups, entered.captures, entered.names⟩
  | directive setting =>
      have added := embeds.add (.flags setting) trivial
      exact ⟨congrArg (setting.value? .ignoreWhitespace).getD embeds.verbose, added.level,
        added.groups, added.captures, added.names⟩

/-- Both leave a group. -/
theorem close (embeds : Embeds shift beneath taken reader inner)
    (closed : reader.close = .ok next) :
    ∃ left, inner.close = .ok left ∧ Embeds shift beneath taken next left := by
  obtain ⟨groups, within, alike⟩ := embeds.groups
  obtain ⟨group, others, around, rfl⟩ := close_eq_ok_iff.mp closed
  rw [around] at alike
  cases alike with
  | cons first rest =>
      rename_i raised remaining
      refine ⟨_, close_eq_ok_iff.mpr ⟨raised, remaining ++ beneath, within, rfl⟩, first.verbose, ?_,
        ⟨remaining, rfl, rest⟩, embeds.captures, embeds.names⟩
      change OpenLevel.add _ _ = (OpenLevel.add _ _).renumber shift
      rw [embeds.level, OpenLevel.toPattern_renumber, first.close, first.outer]
      rfl

/-- Both repeat the last part. -/
theorem repeatLast (embeds : Embeds shift beneath taken reader inner) {count : RepetitionCount}
    (repeated : reader.repeatLast count = .ok next) :
    ∃ again, inner.repeatLast count = .ok again ∧ Embeds shift beneath taken next again := by
  obtain ⟨part, parts, read, solid, rfl⟩ := repeatLast_eq_ok_iff.mp repeated
  have again : inner.level.parts = part.renumber shift :: parts.map (.renumber shift) := by
    rw [embeds.level, OpenLevel.renumber, read, List.map_cons]
  -- With other numbers a part is of the same kind.
  have repeatable : ∀ setting, part.renumber shift ≠ .flags setting := by
    cases part with
    | flags setting => exact absurd rfl (solid setting)
    | _ => exact fun _ => Pattern.noConfusion
  refine ⟨_, repeatLast_eq_ok_iff.mpr ⟨_, _, again, repeatable, rfl⟩, embeds.verbose, ?_,
    embeds.groups, embeds.captures, embeds.names⟩
  rw [embeds.level]
  rfl

/-- Both apply an opening, unless its name was taken before. -/
theorem moveEnter (embeds : Embeds shift beneath taken reader inner) {opening : GroupOpening}
    (moved : reader.move (.enter opening) = .ok next) (new : ∀ name ∈ next.names, name ∉ taken) :
    ∃ again, inner.move (.enter opening) = .ok again ∧ Embeds shift beneath taken next again := by
  obtain ⟨distinct, rfl⟩ := enter_eq_ok_iff.mp moved
  refine ⟨_, enter_eq_ok_iff.mpr ⟨fun name named => ?_, rfl⟩, embeds.applyOpening opening⟩
  rw [embeds.names, List.mem_append, not_or]
  refine ⟨distinct name named, new name ?_⟩
  cases opening with
  | capture given =>
      cases (named : given = some name)
      exact List.mem_cons_self ..
  | plain setting => cases named
  | directive setting => cases named

/-- Both do what a piece of a pattern does. -/
theorem move (embeds : Embeds shift beneath taken reader inner) {move : PatternMove}
    (simple : ∀ part, move = .add part → part.IsSimple) (moved : reader.move move = .ok next)
    (new : ∀ name ∈ next.names, name ∉ taken) :
    ∃ again, inner.move move = .ok again ∧ Embeds shift beneath taken next again := by
  cases move with
  | enter opening => exact embeds.moveEnter moved new
  | leave => exact embeds.close moved
  | alternate =>
      cases moved
      exact ⟨_, rfl, embeds.alternate⟩
  | add part =>
      cases moved
      exact ⟨_, rfl, embeds.add part (simple part rfl)⟩
  | repeatLast count => exact embeds.repeatLast moved

end Embeds

end PatternReader

/-! ## Pieces within groups -/

/-- The parts that pieces add are simple. -/
theorem isSimple_of_parseMove {verbose : Bool} {c : Char} {text rest : List Char} {part : Pattern}
    (parsed : parseMove verbose c text = .ok (.add part, rest)) : part.IsSimple := by
  unfold parseMove at parsed
  split at parsed
  case h_1 | h_8 =>
    obtain ⟨_, _, done⟩ := bind_eq_ok_iff.mp parsed
    cases done
  case h_2 | h_3 => cases parsed
  case h_4 =>
    obtain ⟨⟨bracketed, _⟩, classed, done⟩ := bind_eq_ok_iff.mp parsed
    cases done
    obtain ⟨_, _, classed⟩ := bind_eq_ok_iff.mp classed
    obtain ⟨_, _, done⟩ := bind_eq_ok_iff.mp classed
    cases done
    trivial
  case h_5 | h_6 | h_7 =>
    unfold parseMark at parsed
    split at parsed
    all_goals cases parsed
  case h_9 =>
    obtain ⟨⟨primitive, _⟩, _, done⟩ := bind_eq_ok_iff.mp parsed
    cases done
    cases primitive <;> trivial
  all_goals
    cases parsed
    trivial

namespace PatternReader

variable {shift : Nat} {beneath : List OpenGroup} {taken : List String}
  {reader inner next last : PatternReader}

/-- A step reads a piece and does what it does. -/
theorem step_eq_ok_iff {c : Char} {text rest : List Char} :
    reader.step c text = .ok (next, rest) ↔
      reader.checkBefore c = .ok () ∧
        ∃ move, parseMove reader.verbose c text = .ok (move, rest) ∧
          reader.move move = .ok next := by
  rw [step, bind_eq_ok_iff]
  constructor
  · rintro ⟨_, checked, stepped⟩
    obtain ⟨⟨move, remaining⟩, parsed, stepped⟩ := bind_eq_ok_iff.mp stepped
    obtain ⟨_, moved, done⟩ := bind_eq_ok_iff.mp stepped
    cases done
    exact ⟨checked, move, parsed, moved⟩
  · rintro ⟨checked, move, parsed, moved⟩
    exact ⟨(), checked, bind_eq_ok_iff.mpr ⟨_, parsed, bind_eq_ok_iff.mpr ⟨_, moved, rfl⟩⟩⟩

/-- Both find something to repeat before a brace. -/
theorem Embeds.checkBefore (embeds : Embeds shift beneath taken reader inner) {c : Char}
    (checked : reader.checkBefore c = .ok ()) : inner.checkBefore c = .ok () := by
  rw [PatternReader.checkBefore] at checked ⊢
  split
  · rename_i brace
    rw [if_pos brace] at checked
    obtain ⟨_, repeated, -⟩ := bind_eq_ok_iff.mp checked
    obtain ⟨again, repeated, -⟩ := embeds.repeatLast repeated
    exact bind_eq_ok_iff.mpr ⟨again, repeated, rfl⟩
  · rfl

/-- Both read the next piece. -/
theorem Embeds.step (embeds : Embeds shift beneath taken reader inner) {c : Char}
    {text rest : List Char} (stepped : reader.step c text = .ok (next, rest))
    (new : ∀ name ∈ next.names, name ∉ taken) :
    ∃ again, inner.step c text = .ok (again, rest) ∧ Embeds shift beneath taken next again := by
  obtain ⟨checked, move, parsed, moved⟩ := step_eq_ok_iff.mp stepped
  have simple : ∀ part, move = .add part → part.IsSimple := by
    rintro part rfl
    exact isSimple_of_parseMove parsed
  obtain ⟨again, moved, embeds'⟩ := embeds.move simple moved new
  refine ⟨again, step_eq_ok_iff.mpr ⟨embeds.checkBefore checked, move, ?_, moved⟩, embeds'⟩
  rw [embeds.verbose]
  exact parsed

end PatternReader

end TokenGrammar.Regex
