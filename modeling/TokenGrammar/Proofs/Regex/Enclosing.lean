import TokenGrammar.Proofs.Regex.KeptGroups
import TokenGrammar.Proofs.Regex.Outlasting.Step
import TokenGrammar.Proofs.Regex.Reading

/-! # Patterns in parentheses

A pattern that is one in parentheses too is read in the same way within any group.

* `Regex.PatternReader.reaches_of_readUpTo`: a whole pattern is read in the same way before a
  closing parenthesis, unless it ends within a comment.
* `Regex.Encloses`: a text is a pattern in parentheses too.
* `Regex.PatternReader.exists_reads_of_encloses`: such a pattern is read within any group. -/

namespace TokenGrammar.Regex

namespace PatternReader

variable {shift : Nat} {beneath : List OpenGroup} {taken : List String}
  {reader inner next last : PatternReader}

/-! ## Runs -/

/-- A reader gets to a place in a text in a number of steps. Spacing before the place is behind
it. -/
inductive Reaches : Nat → PatternReader → List Char → PatternReader → List Char → Prop
  /-- No step, over spacing alone. -/
  | here {reader : PatternReader} {text rest : List Char}
      (skipped : skipSpacing reader.verbose text = rest) : Reaches 0 reader text reader rest
  /-- A step first. -/
  | step {count : Nat} {reader next last : PatternReader} {c : Char}
      {text following remaining rest : List Char}
      (skipped : skipSpacing reader.verbose text = c :: following)
      (stepped : reader.step c following = .ok (next, remaining))
      (later : Reaches count next remaining last rest) : Reaches (count + 1) reader text last rest

namespace Reaches

variable {count : Nat} {text rest remaining : List Char}

/-- Names stay taken. -/
theorem names_subset (reaches : Reaches count reader text last rest) :
    reader.names ⊆ last.names := by
  induction reaches with
  | here => exact List.Subset.refl _
  | step _ stepped _ induction =>
      obtain ⟨-, _, -, moved⟩ := step_eq_ok_iff.mp stepped
      exact List.Subset.trans (names_subset_of_move moved) induction

/-- The groups in what has been read are kept. -/
theorem keepsGroups (reaches : Reaches count reader text last rest) (keeps : reader.KeepsGroups) :
    last.KeepsGroups := by
  induction reaches with
  | here => exact keeps
  | step _ stepped _ induction => exact induction (keeps.step stepped)

/-- Within groups the same place is reached in as many steps. -/
theorem within (reaches : Reaches count reader text last rest)
    (embeds : Embeds shift beneath taken reader inner) (new : ∀ name ∈ last.names, name ∉ taken) :
    ∃ innerLast, Reaches count inner text innerLast rest ∧
      Embeds shift beneath taken last innerLast := by
  induction reaches generalizing inner with
  | here skipped =>
      refine ⟨inner, .here ?_, embeds⟩
      rw [embeds.verbose, skipped]
  | step skipped stepped later induction =>
      have earlier := fun name member => new name (later.names_subset member)
      obtain ⟨again, stepped, embeds'⟩ := embeds.step stepped earlier
      obtain ⟨innerLast, reaches, embedsLast⟩ := induction embeds' new
      rw [← embeds.verbose] at skipped
      exact ⟨innerLast, .step skipped stepped reaches, embedsLast⟩

/-- Reading goes on after a place that is reached. -/
theorem readUpTo_step {c : Char} (reaches : Reaches count reader text last (c :: rest))
    (stepped : last.step c rest = .ok (next, remaining)) (bound : Nat) :
    readUpTo (bound + (count + 1)) reader text = readUpTo bound next remaining := by
  generalize place : c :: rest = there at reaches
  induction reaches with
  | here skipped =>
      subst place
      rw [Nat.zero_add, readUpTo, skipped]
      simp only [stepped]
      rfl
  | step skipped first _ induction =>
      rw [← Nat.add_assoc, readUpTo, skipped]
      simp only [first]
      exact induction stepped place

/-- Reading ends at the end of a text. -/
theorem readUpTo_end (reaches : Reaches count reader text last []) (bound : Nat) :
    readUpTo (bound + (count + 1)) reader text = last.finish := by
  generalize place : [] = there at reaches
  induction reaches with
  | here skipped =>
      subst place
      rw [Nat.zero_add, readUpTo, skipped]
  | step skipped first _ induction =>
      rw [← Nat.add_assoc, readUpTo, skipped]
      simp only [first]
      exact induction place

end Reaches

/-- **A whole pattern is read in the same way before a closing parenthesis**, unless it ends within
a comment: then what comes after on the line is part of the comment. -/
theorem reaches_of_readUpTo {bound : Nat} {text : List Char} {pattern : Pattern}
    (read : readUpTo bound reader text = .ok pattern) :
    ∃ count last, count < bound ∧ last.finish = .ok pattern ∧
      ((∀ more, Reaches count reader (text ++ ')' :: more) last (')' :: more)) ∨
        ∀ more, '\n' ∉ more → Reaches count reader (text ++ ')' :: more) last []) := by
  -- The steps are the same until one of them, or the spacing at the end, is within a comment.
  induction bound generalizing reader text with
  | zero => cases read
  | succ bound induction =>
      rw [readUpTo] at read
      split at read
      · rename_i blank
        refine ⟨0, reader, Nat.succ_pos bound, read, ?_⟩
        rcases skipSpacing_outlasts reader.verbose text with goesOn | ⟨-, inComment⟩
        · refine .inl fun more => .here ?_
          rw [goesOn, blank, List.nil_append]
        · exact .inr fun more line => .here (inComment more line)
      · rename_i c following skipped
        obtain ⟨⟨next, remaining⟩, stepped, read⟩ := bind_eq_ok_iff.mp read
        have skippedToo (more : List Char) := skipSpacing_append_cons skipped (')' :: more)
        rcases step_outlasts stepped with goesOn | ⟨rfl, inComment⟩
        · obtain ⟨count, last, less, finished, ends⟩ := induction read
          refine ⟨count + 1, last, Nat.succ_lt_succ less, finished, ?_⟩
          exact ends.imp (fun closes more => .step (skippedToo more) (goesOn more) (closes more))
            fun swallows more line => .step (skippedToo more) (goesOn more) (swallows more line)
        -- Within a comment there is nothing left to read after the step.
        · have blank : skipSpacing next.verbose [] = [] := by cases next.verbose <;> rfl
          cases bound with
          | zero => cases read
          | succ bound =>
              have finished : next.finish = .ok pattern := by
                change readUpTo (bound + 1) next [] = .ok pattern at read
                rwa [readUpTo, blank] at read
              refine ⟨1, next, by omega, finished, .inr fun more line => ?_⟩
              exact .step (skippedToo more) (inComment more line) (.here blank)

/-- A reader that has just entered the innermost of some groups. -/
structure Entered (reader : PatternReader) (group : OpenGroup) (groups : List OpenGroup) :
    Prop where
  /-- No spacing is ignored. -/
  verbose : reader.verbose = false
  /-- Nothing has been read within the group. -/
  level : reader.level = .empty
  /-- The groups that are open. -/
  groups : reader.groups = group :: groups

/-- The reader past a group with the given pattern in it, which has numbers and names of its own. -/
def past (reader : PatternReader) (group : OpenGroup) (groups : List OpenGroup) (body : Pattern)
    (captures : Nat) (names : List String) : PatternReader where
  verbose := group.verbose
  level := group.outer.add (group.close (body.renumber reader.captures))
  groups := groups
  captures := captures + reader.captures
  names := names ++ reader.names

section Entered

variable {group : OpenGroup} {groups : List OpenGroup} {text : List Char} {count : Nat}
  {body : Pattern}

/-- A reader within a group starts as one outside of it does. -/
theorem Entered.embeds (entered : inner.Entered group groups) :
    Embeds inner.captures (group :: groups) inner.names .start inner where
  verbose := entered.verbose
  level := entered.level
  groups := ⟨[], entered.groups, .nil⟩
  captures := (Nat.zero_add _).symm
  names := rfl

/-- A pattern that ends outside of groups ends within a group just there. -/
theorem Embeds.groups_of_nil (embeds : Embeds shift beneath taken reader inner)
    (none : reader.groups = []) : inner.groups = beneath := by
  obtain ⟨raised, within, alike⟩ := embeds.groups
  rw [none] at alike
  cases alike
  exact within

/-- A pattern is read within a group, and the group is left after it. -/
theorem Entered.reads (entered : inner.Entered group groups) (le : count ≤ text.length)
    (finished : last.finish = .ok body) (new : ∀ name ∈ last.names, name ∉ inner.names)
    {more : List Char} (closes : Reaches count start (text ++ ')' :: more) last (')' :: more)) :
    inner.Reads (text ++ ')' :: more) (inner.past group groups body last.captures last.names)
      more := by
  obtain ⟨none, rfl⟩ := finish_eq_ok_iff.mp finished
  obtain ⟨innerLast, reaches, embeds⟩ := closes.within entered.embeds new
  have closed : innerLast.close =
      .ok (inner.past group groups last.level.toPattern last.captures last.names) := by
    refine close_eq_ok_iff.mpr ⟨group, groups, embeds.groups_of_nil none, ?_⟩
    rw [past, embeds.level, OpenLevel.toPattern_renumber, embeds.captures, embeds.names]
  have stepped : innerLast.step ')' more =
      .ok (inner.past group groups last.level.toPattern last.captures last.names, more) :=
    step_of_parseMove (by decide) rfl closed
  refine ⟨count + 1, ?_, reaches.readUpTo_step stepped⟩
  rw [List.length_append, List.length_cons]
  omega

end Entered

end PatternReader

/-! ## Patterns that stand on their own -/

/-- Whether a text is a pattern in parentheses too, as one of several alternatives. It is not if it
ends within a comment, or if it is nested so deeply that it is too deep there. -/
def Encloses (text : List Char) : Prop :=
  (Pattern.parse ('(' :: '?' :: ':' :: (text ++ [')', '|']))).isOk = true

instance (text : List Char) : Decidable (Encloses text) :=
  inferInstanceAs (Decidable (_ = true))

namespace PatternReader

variable {text : List Char} {body : Pattern}

/-- The group of a text in parentheses. -/
def parenthesis : OpenGroup :=
  ⟨.empty, .group ⟨[], []⟩, false⟩

/-- The reader within parentheses. -/
def inParentheses : PatternReader :=
  ⟨false, .empty, [parenthesis], 0, []⟩

/-- It has just entered them. -/
theorem entered_inParentheses : inParentheses.Entered parenthesis [] where
  verbose := rfl
  level := rfl
  groups := rfl

/-- Parentheses are entered. -/
theorem reads_parenthesis (text : List Char) :
    start.Reads ('(' :: '?' :: ':' :: text) inParentheses text :=
  .of_step rfl rfl (by simp only [List.length_cons]; omega)

/-- A text that ends within a comment takes in the parenthesis after it. -/
theorem not_encloses_of_swallows {count : Nat} {last : PatternReader} (le : count ≤ text.length)
    (finished : last.finish = .ok body)
    (swallows : Reaches count start (text ++ [')', '|']) last []) : ¬ Encloses text := by
  obtain ⟨none, rfl⟩ := finish_eq_ok_iff.mp finished
  obtain ⟨innerLast, reaches, embeds⟩ := swallows.within entered_inParentheses.embeds
    fun _ _ => List.not_mem_nil
  have unclosed : innerLast.finish = .error .groupUnclosed := by
    rw [finish, embeds.groups_of_nil none]
  obtain ⟨steps, less, reads⟩ := reads_parenthesis (text ++ [')', '|'])
  let whole := '(' :: '?' :: ':' :: (text ++ [')', '|'])
  have length : whole.length = text.length + 5 := by simp [whole]
  obtain ⟨bound, enough⟩ : ∃ bound, whole.length + 1 = bound + (count + 1) + steps :=
    ⟨whole.length - count - steps, by
      simp only [List.length_append, List.length_cons, List.length_nil] at less length ⊢
      omega⟩
  have failed : Pattern.parse whole = .error .groupUnclosed := by
    rw [Pattern.parse, enough, reads, reaches.readUpTo_end, unclosed]
    rfl
  rw [Encloses, failed]
  exact Bool.false_ne_true

/-- A text in parentheses that is an alternative too is nested two levels deeper. -/
theorem depth_of_encloses {names : List String} {captures : Nat} (encloses : Encloses text)
    (reads : inParentheses.Reads (text ++ [')', '|'])
      (inParentheses.past parenthesis [] body captures names) ['|']) :
    body.depth + 2 ≤ nestLimit := by
  let alternatives : List Pattern := [.group ⟨[], []⟩ (body.renumber 0), .empty]
  let closed := inParentheses.past parenthesis [] body captures names
  have bar : closed.Reads ['|'] { closed with level := closed.level.alternate } [] :=
    .of_step rfl (step_of_parseMove (by decide) rfl rfl) (Nat.le_refl _)
  have whole := ((reads_parenthesis _).trans reads).trans bar
  have parsed : Pattern.parse ('(' :: '?' :: ':' :: (text ++ [')', '|'])) =
      if (Pattern.alternation alternatives).depth ≤ nestLimit then .ok (.alternation alternatives)
      else .error (.nestLimitExceeded nestLimit) := by
    rw [Pattern.parse, whole.finish]
    rfl
  rw [Encloses, parsed] at encloses
  split at encloses
  · rename_i shallow
    have depth : (Pattern.alternation alternatives).depth = body.depth + 2 := by
      simp [alternatives, Pattern.depth, Pattern.depthOfList, Pattern.depth_renumber]
    rwa [depth] at shallow
  · cases encloses

/-- **A pattern that can stand in parentheses is read in the same way within any group.** Its own
groups are new ones there, and it is not nested so deeply that an alternation of groups could not
have it. -/
theorem exists_reads_of_encloses (parsed : Pattern.parse text = .ok body)
    (encloses : Encloses text) :
    body.depth + 2 ≤ nestLimit ∧ ∃ names, names ⊆ body.names ∧
      ∀ {inner : PatternReader} {group : OpenGroup} {groups : List OpenGroup},
        inner.Entered group groups → (∀ name ∈ names, name ∉ inner.names) → ∀ more,
          inner.Reads (text ++ ')' :: more)
            (inner.past group groups body body.captureCount names) more := by
  obtain ⟨pattern, read, shallow⟩ := bind_eq_ok_iff.mp parsed
  obtain ⟨count, last, less, finished, ends⟩ := reaches_of_readUpTo read
  have same : pattern = body := by
    split at shallow
    · exact Except.ok.inj shallow
    · cases shallow
  subst same
  have le : count ≤ text.length := Nat.le_of_lt_succ less
  rcases ends with closes | swallows
  · have reads {inner : PatternReader} {group : OpenGroup} {groups : List OpenGroup}
        (entered : inner.Entered group groups) (new : ∀ name ∈ last.names, name ∉ inner.names)
        (more : List Char) := entered.reads le finished new (closes more)
    obtain ⟨none, rfl⟩ := finish_eq_ok_iff.mp finished
    obtain ⟨numbered, named⟩ := ((closes []).keepsGroups keepsGroups_start).whole none
    rw [numbered] at reads
    exact ⟨depth_of_encloses encloses (reads entered_inParentheses
      (fun _ _ => List.not_mem_nil) ['|']), last.names, named.subset, reads⟩
  · exact absurd encloses (not_encloses_of_swallows le finished (swallows ['|'] (by decide)))

end PatternReader

end TokenGrammar.Regex
