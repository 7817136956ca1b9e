import TokenGrammar.Proofs.Regex.Choices
import TokenGrammar.Proofs.Regex.Words
import TokenGrammar.Regex.Footprint

/-! # Sizes of words and of choices

The characters of a word are written out in an automaton, and those of several groups are not
shared. Words that keep to the limit alone may therefore exceed it together.

* `Regex.Expr.Takes`: a number of states that an expression takes at least.
* `Regex.Expr.takes_ofWord`, `Regex.Expr.Takes.alternative`: the states of a word and of a choice.
* `Regex.Expr.Takes.fits_eq_false`: an expression with too many states does not keep to the limit.
* `Regex.Expr.fits_ofWord`: a word that is not too long does. -/

namespace TokenGrammar

/-! ## Bytes of a character -/

namespace Text

/-- A number has a form of any length. -/
theorem exists_mem_bytePaths_self (base count number : Nat) :
    ∃ path, path ∈ bytePaths base count number number := by
  induction count generalizing base number with
  | zero => exact ⟨_, List.mem_singleton_self _⟩
  | succ count induction =>
      obtain ⟨path, member⟩ := induction 0x80 (number % Nat.pow 64 (count + 1))
      rw [bytePaths, if_pos rfl]
      exact ⟨_, List.mem_map_of_mem member⟩

/-- Every character has a form of some length. -/
theorem exists_form (c : Char) :
    ∃ form ∈ formLengths, form.2.2.1 ≤ c.toNat ∧ c.toNat ≤ form.2.2.2 := by
  have valid : c.toNat < 0xD800 ∨ 0xDFFF < c.toNat ∧ c.toNat < 0x110000 := c.valid
  simp only [formLengths, List.mem_cons, List.not_mem_nil, or_false, exists_eq_or_imp,
    exists_eq_left]
  omega

/-- A character takes at least one byte. -/
theorem length_utf8Paths_single_pos (c : Char) :
    0 < (utf8Paths (Unicode.CharSet.single c).ranges).flatten.length := by
  obtain ⟨⟨base, count, first, last⟩, isForm, low, high⟩ := exists_form c
  obtain ⟨path, member⟩ := exists_mem_bytePaths_self base count c.toNat
  have among : path ∈ utf8Paths (Unicode.CharSet.single c).ranges := by
    refine List.mem_flatMap.mpr ⟨(c.toNat, c.toNat), List.mem_singleton_self _, ?_⟩
    refine List.mem_flatMap.mpr ⟨_, isForm, ?_⟩
    have whole : max c.toNat first = c.toNat ∧ min c.toNat last = c.toNat :=
      ⟨Nat.max_eq_left low, Nat.min_eq_left high⟩
    simp only [whole, Nat.le_refl, if_true]
    exact member
  have solid : path ≠ [] := by
    intro nothing
    have length := length_of_mem_bytePaths member
    rw [nothing] at length
    cases length
  exact List.length_pos_iff.mpr (List.flatten_ne_nil_iff.mpr ⟨path, among, solid⟩)

end Text

namespace Regex.Expr

/-! ## At least -/

/-- What a choice adds takes no state away. -/
theorem states_le_close (standing : Standing) (tally : Tally) :
    tally.states ≤ (standing.close tally).states := by
  cases standing with
  | alone => exact Nat.le_refl _
  | second => exact Nat.le_add_right _ 2
  | other => exact Nat.le_refl _

/-- A number of states that an expression takes at least, and that its bound accounts for. -/
structure Takes (expr : Expr) (count : Nat) : Prop where
  /-- It takes them in the automaton that reads forwards. -/
  states : ∀ (standing : Standing) (before : Tally),
    before.states + count ≤ (expr.tally false standing before).states
  /-- The bound accounts for them. -/
  bound : stateBytes * count ≤ expr.bound

namespace Takes

variable {first second body : Expr} {left right count : Nat}

/-- A character takes at least one state. -/
theorem single (c : Char) : (Expr.set (.single c)).Takes 1 where
  states standing before := by
    have bytes := Text.length_utf8Paths_single_pos c
    have made : (before.addSet false (.single c)).states =
        before.states + (Text.utf8Paths (Unicode.CharSet.single c).ranges).flatten.length := by
      rw [Tally.addSet, if_pos (Unicode.CharSet.isSingle_single c)]
      rfl
    rw [tally]
    exact Nat.le_trans (by omega) (states_le_close standing _)
  bound := by
    rw [Expr.bound]
    omega

/-- The empty expression takes a state, none of them for characters. -/
theorem empty : Expr.empty.Takes 0 where
  states standing before := by
    have close := states_le_close standing (before.add 0)
    rw [tally]
    exact Nat.le_trans (Nat.le_succ _) close
  bound := Nat.zero_le _

/-- A sequence takes what its parts take. -/
theorem sequence (one : first.Takes left) (other : second.Takes right) :
    (Expr.sequence first second).Takes (left + right) where
  states standing before := by
    have early := one.states .alone before
    have late := other.states .alone (first.tally false .alone before)
    rw [tally, if_neg Bool.false_ne_true]
    exact Nat.le_trans (by omega) (states_le_close standing _)
  bound := by
    have early := one.bound
    have late := other.bound
    rw [Expr.bound, Nat.mul_add]
    omega

/-- A group takes what its body takes. -/
theorem capture (inner : body.Takes count) (index : Nat) (name : Option String) :
    (Expr.capture index name body).Takes count where
  states standing before := by
    have within := inner.states .alone (before.add 0)
    rw [tally]
    refine Nat.le_trans ?_ (states_le_close standing _)
    exact Nat.le_trans (Nat.add_le_add_right (Nat.le_succ _) count) (Nat.le_succ_of_le within)
  bound := Nat.le_trans inner.bound (Nat.le_add_right _ _)

/-- A choice takes what its members take if the first of them is a group: it is not one of words
then, whose starts would be shared. -/
theorem alternative (group : first.IsGroup) (one : first.Takes left) (other : second.Takes right) :
    (Expr.alternative first second).Takes (left + right) where
  states standing before := by
    have wordless : (first.choices ++ second.choices).mapM word? = none := by
      rw [choices_of_isGroup group, List.singleton_append, List.mapM_cons]
      obtain ⟨index, name, body, rfl⟩ := group
      rfl
    have behind (standing later : Standing) (before : Tally) :
        before.states + (left + right) ≤
          (second.tally false later (first.tally false standing before)).states := by
      have early := one.states standing before
      have late := other.states later (first.tally false standing before)
      omega
    -- What comes after the first member depends on where the choice stands itself.
    cases standing with
    | alone =>
        rw [tally, wordless]
        exact behind .other .second before
    | second => exact behind .second .other before
    | other => exact behind .other .other before
  bound := by
    have early := one.bound
    have late := other.bound
    rw [Expr.bound, Nat.mul_add]
    omega

/-- An expression with too many states does not keep to the limit. -/
theorem fits_eq_false {expr : Expr} (takes : expr.Takes count)
    (many : sizeLimit < stateBytes * count) : expr.fits = false := by
  have account := takes.bound
  have made (search : Tally) :
      count ≤ (((Expr.capture 0 none expr).tally false .alone search).add 0).states :=
    Nat.le_succ_of_le
      (Nat.le_trans (Nat.le_add_left count _) ((takes.capture 0 none).states .alone search))
  have large : (expr.automaton false).fits = false := by
    rw [Tally.fits, decide_eq_false_iff_not, Nat.not_le, Tally.bytes]
    have states : count ≤ (expr.automaton false).states := made _
    have bytes := Nat.mul_le_mul_left stateBytes states
    omega
  -- Neither the bound nor the count of the states themselves keeps to the limit.
  have exceeded : ¬ expr.bound + 8 * stateBytes ≤ sizeLimit := by omega
  rw [fits, large, decide_eq_false exceeded]
  rfl

end Takes

/-- A word takes a state for each of its characters. -/
theorem takes_ofWord (word : List Char) : (ofWord word).Takes word.length := by
  induction word with
  | nil => exact .empty
  | cons c word induction =>
      cases word with
      | nil => exact .single c
      | cons d word =>
          rw [ofWord_cons_cons, List.length_cons, Nat.add_comm]
          exact .sequence (.single c) induction

/-! ## At most -/

/-- A word is as large as its characters. -/
theorem bound_ofWord_le {most : Nat} {word : List Char}
    (each : ∀ c ∈ word, (Expr.set (.single c)).bound ≤ most) :
    (ofWord word).bound ≤ stateBytes + most * word.length := by
  induction word with
  | nil => exact Nat.le_refl _
  | cons c word induction =>
      obtain ⟨first, others⟩ := List.forall_mem_cons.mp each
      have rest := induction others
      cases word with
      | nil =>
          have whole : (ofWord [c]).bound = (Expr.set (.single c)).bound := rfl
          rw [whole, List.length_singleton]
          omega
      | cons d word =>
          rw [ofWord_cons_cons, Expr.bound, List.length_cons, Nat.mul_add]
          omega

/-- A word that is not too long keeps to the limit. -/
theorem fits_ofWord {most : Nat} {word : List Char}
    (each : ∀ c ∈ word, (Expr.set (.single c)).bound ≤ most)
    (short : most * word.length + 9 * stateBytes ≤ sizeLimit) : (ofWord word).fits = true := by
  have bound := bound_ofWord_le each
  have small : (ofWord word).bound + 8 * stateBytes ≤ sizeLimit := by omega
  rw [fits, decide_eq_true small, Bool.true_or]

end Regex.Expr

end TokenGrammar
