import TokenGrammar.Proofs.Regex.ComposedGroups

/-! # Choices between groups

A choice between expressions tries them in order. What expressions have in common at their starts
is taken out of a choice, but groups have nothing in common.

* `Regex.Expr.IsGroup`: an expression that is a group.
* `Regex.Expr.alternativeAll_of_isGroup`: a choice between groups is left as it is.
* `Regex.Expr.matchAt?_ofChoices_cons`: a choice prefers its first member. -/

namespace TokenGrammar.Regex.Expr

/-- An expression that is a group. -/
def IsGroup (expr : Expr) : Prop :=
  ∃ index name body, expr = .capture index name body

/-- A group is a choice with one member. -/
theorem choices_of_isGroup {expr : Expr} (group : expr.IsGroup) : expr.choices = [expr] := by
  obtain ⟨index, name, body, rfl⟩ := group
  rfl

/-- So a list of groups is a list of members. -/
theorem flatMap_choices_of_isGroup {exprs : List Expr} (groups : ∀ expr ∈ exprs, expr.IsGroup) :
    exprs.flatMap choices = exprs := by
  induction exprs with
  | nil => rfl
  | cons expr exprs induction =>
      obtain ⟨first, others⟩ := List.forall_mem_cons.mp groups
      rw [List.flatMap_cons, induction others, choices_of_isGroup first, List.singleton_append]

/-- A choice between groups is left as it is: they are neither characters nor classes, and have no
start in common. -/
theorem alternativeAll_of_isGroup {exprs : List Expr} (several : 2 ≤ exprs.length)
    (groups : ∀ expr ∈ exprs, expr.IsGroup) : alternativeAll exprs = ofChoices exprs := by
  rw [alternativeAll]
  generalize exprs.foldr (fun expr total => expr.size + total) 1 = bound
  cases bound with
  | zero => rfl
  | succ bound =>
      have members := flatMap_choices_of_isGroup groups
      cases exprs with
      | nil => rfl
      | cons first exprs =>
          cases exprs with
          | nil => exact absurd several (Nat.lt_irrefl 1)
          | cons second others =>
              obtain ⟨⟨index, name, body, rfl⟩, -⟩ := List.forall_mem_cons.mp groups
              have unshared : sharedStart (.capture index name body :: second :: others) = [] := rfl
              have noCharacters :
                  (capture index name body :: second :: others).mapM character? = none := by
                rw [List.mapM_cons]
                rfl
              have noClasses :
                  (capture index name body :: second :: others).mapM class? = none := by
                rw [List.mapM_cons]
                rfl
              -- So none of the three ways to take members together applies.
              rw [alternativeUpTo_of_flatMap_choices members, noCharacters, noClasses, unshared]
              rfl

/-- A choice without members matches nothing. -/
theorem matchAt?_ofChoices_nil (position : Position) : (ofChoices []).matchAt? position = none := by
  have refused : (Thread.mk position []).accept? .empty = none := by
    rw [Thread.accept?]
    cases position.rest <;> rfl
  rw [ofChoices, matchAt?, matches_set, refused]
  rfl

/-- A choice prefers its first member to the others. -/
theorem matchAt?_ofChoices_cons (expr : Expr) (exprs : List Expr) (position : Position) :
    (ofChoices (expr :: exprs)).matchAt? position =
      (expr.matchAt? position).or ((ofChoices exprs).matchAt? position) := by
  cases exprs with
  | nil =>
      rw [matchAt?_ofChoices_nil, Option.or_none]
      rfl
  | cons second exprs => exact matchAt?_alternative expr _ position

end TokenGrammar.Regex.Expr
