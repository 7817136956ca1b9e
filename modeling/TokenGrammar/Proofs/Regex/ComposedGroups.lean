import TokenGrammar.Regex.Composition
import TokenGrammar.Regex.Match

/-! # Groups in expressions that are put together

Putting expressions together looks at their form, and compares them where alternatives have a common
start. The numbers of the groups in them do not matter for that, and no group is made up.

* `Regex.Expr.renumber`: an expression with the numbers of its groups raised.
* `Regex.Expr.sequenceAll_map_renumber`, `Regex.Expr.alternativeAll_map_renumber`: expressions with
  other numbers are put together in the same way.
* `Regex.Expr.groups_sequenceAll_subset`, `Regex.Expr.groups_alternativeAll_subset`: the groups are
  those of the expressions that were put together. -/

namespace TokenGrammar.Regex.Expr

/-- An expression with the numbers of its groups raised. -/
def renumber (shift : Nat) : Expr → Expr
  | .empty => .empty
  | .set members => .set members
  | .assertion condition => .assertion condition
  | .sequence first second => .sequence (first.renumber shift) (second.renumber shift)
  | .alternative first second => .alternative (first.renumber shift) (second.renumber shift)
  | .repetition min max greedy body => .repetition min max greedy (body.renumber shift)
  | .capture index name body => .capture (index + shift) name (body.renumber shift)

/-! ## Other numbers -/

section Renumber

variable (shift : Nat)

/-- Different expressions stay different. -/
theorem renumber_injective : Function.Injective (renumber shift) := by
  intro expr
  induction expr with
  | empty | set | assertion => intro other same; cases other <;> first | exact same | cases same
  | sequence first second left right =>
      intro other same
      cases other with
      | sequence first' second' =>
          injection same with sameFirst sameSecond
          rw [left sameFirst, right sameSecond]
      | _ => cases same
  | alternative first second left right =>
      intro other same
      cases other with
      | alternative first' second' =>
          injection same with sameFirst sameSecond
          rw [left sameFirst, right sameSecond]
      | _ => cases same
  | repetition min max greedy body induction =>
      intro other same
      cases other with
      | repetition min' max' greedy' body' =>
          injection same with sameMin sameMax sameGreed sameBody
          rw [sameMin, sameMax, sameGreed, induction sameBody]
      | _ => cases same
  | capture index name body induction =>
      intro other same
      cases other with
      | capture index' name' body' =>
          injection same with sameIndex sameName sameBody
          rw [Nat.add_right_cancel sameIndex, sameName, induction sameBody]
      | _ => cases same

@[simp] theorem zeroWidth_renumber (expr : Expr) :
    (expr.renumber shift).zeroWidth = expr.zeroWidth := by
  induction expr <;> simp_all [renumber, zeroWidth]

@[simp] theorem consumes_renumber (expr : Expr) :
    (expr.renumber shift).consumes = expr.consumes := by
  induction expr <;> simp_all [renumber, consumes]

@[simp] theorem isDetermined_renumber (expr : Expr) :
    (expr.renumber shift).isDetermined = expr.isDetermined := by
  induction expr <;> simp_all [renumber, isDetermined]

@[simp] theorem size_renumber (expr : Expr) : (expr.renumber shift).size = expr.size := by
  induction expr <;> simp_all [renumber, size]

@[simp] theorem isCharacter_renumber (expr : Expr) :
    (expr.renumber shift).isCharacter = expr.isCharacter := by
  cases expr <;> rfl

@[simp] theorem character?_renumber (expr : Expr) :
    (expr.renumber shift).character? = expr.character? := by
  cases expr <;> rfl

@[simp] theorem class?_renumber (expr : Expr) :
    (expr.renumber shift).class? = expr.class? := by
  cases expr <;> rfl

/-- The groups have their numbers raised. -/
theorem groups_renumber (expr : Expr) :
    (expr.renumber shift).groups = expr.groups.map fun group => (group.1 + shift, group.2) := by
  induction expr <;> simp_all [renumber, groups]

/-- A repetition has the numbers in its body raised. -/
theorem repeated_renumber (min : Nat) (max : Option Nat) (greedy : Bool) (body : Expr) :
    repeated min max greedy (body.renumber shift) =
      (repeated min max greedy body).renumber shift := by
  simp only [repeated, zeroWidth_renumber, apply_ite (renumber shift)]
  rfl

/-- The parts of a sequence have their numbers raised. -/
theorem parts_renumber (expr : Expr) :
    (expr.renumber shift).parts = expr.parts.map (renumber shift) := by
  induction expr <;> simp_all [renumber, parts]

/-- The members of a choice have their numbers raised. -/
theorem choices_renumber (expr : Expr) :
    (expr.renumber shift).choices = expr.choices.map (renumber shift) := by
  induction expr <;> simp_all [renumber, choices]

/-- So have the parts that a sequence is made of. -/
theorem ofParts_map_renumber (exprs : List Expr) :
    ofParts (exprs.map (renumber shift)) = (ofParts exprs).renumber shift := by
  induction exprs with
  | nil => rfl
  | cons expr exprs induction =>
      cases exprs with
      | nil => rfl
      | cons second exprs => exact congrArg (Expr.sequence (expr.renumber shift)) induction

/-- And so have the members that a choice is made of. -/
theorem ofChoices_map_renumber (exprs : List Expr) :
    ofChoices (exprs.map (renumber shift)) = (ofChoices exprs).renumber shift := by
  induction exprs with
  | nil => rfl
  | cons expr exprs induction =>
      cases exprs with
      | nil => rfl
      | cons second exprs => exact congrArg (Expr.alternative (expr.renumber shift)) induction

/-- Expressions with other numbers make the same sequence, with the other numbers. -/
theorem sequenceAll_map_renumber (exprs : List Expr) :
    sequenceAll (exprs.map (renumber shift)) = (sequenceAll exprs).renumber shift := by
  have parts : (exprs.map (renumber shift)).flatMap parts =
      (exprs.flatMap parts).map (renumber shift) := by
    rw [List.flatMap_map, List.map_flatMap]
    simp only [parts_renumber]
  rw [sequenceAll, parts, ofParts_map_renumber, sequenceAll]

/-- Characters make up the same words. -/
theorem words_map_renumber (exprs : List Expr) :
    words (exprs.map (renumber shift)) = (words exprs).map (List.map (renumber shift)) := by
  induction exprs with
  | nil => rfl
  | cons expr exprs induction =>
      rw [List.map_cons, words, words, induction]
      match words exprs with
      | [] => rfl
      | [] :: _ => rfl
      | (next :: word) :: others =>
          simp only [List.map_cons, isCharacter_renumber]
          split <;> rfl

/-- What two lists have in common is the same. -/
theorem commonStart_map_renumber (left right : List (List Expr)) :
    commonStart (left.map (List.map (renumber shift))) (right.map (List.map (renumber shift))) =
      (commonStart left right).map (List.map (renumber shift)) := by
  have same_iff {first second : List Expr} :
      first.map (renumber shift) = second.map (renumber shift) ↔ first = second :=
    List.map_inj_right fun _ _ same => renumber_injective shift same
  induction left generalizing right with
  | nil => rfl
  | cons first left induction =>
      cases right with
      | nil => rfl
      | cons second right =>
          rw [List.map_cons, List.map_cons, commonStart, commonStart, induction,
            apply_ite (List.map _)]
          simp only [same_iff]
          rfl

/-- What all of several lists have in common is the same. -/
theorem foldl_commonStart_map_renumber (first : List (List Expr)) (rest : List (List (List Expr))) :
    (rest.map (List.map (List.map (renumber shift)))).foldl commonStart
        (first.map (List.map (renumber shift))) =
      (rest.foldl commonStart first).map (List.map (renumber shift)) := by
  induction rest generalizing first with
  | nil => rfl
  | cons second rest induction =>
      rw [List.map_cons, List.foldl_cons, List.foldl_cons, commonStart_map_renumber, induction]

/-- The words that all sequences start with are the same. -/
theorem sharedStart_map_renumber (exprs : List Expr) :
    sharedStart (exprs.map (renumber shift)) =
      (sharedStart exprs).map (List.map (renumber shift)) := by
  have each : (exprs.map (renumber shift)).map (fun expr => words expr.parts) =
      (exprs.map fun expr => words expr.parts).map (List.map (List.map (renumber shift))) := by
    simp only [List.map_map, Function.comp_def, parts_renumber, words_map_renumber]
  rw [sharedStart, sharedStart, each]
  cases exprs.map fun expr => words expr.parts with
  | nil => rfl
  | cons first rest =>
      have long : ((first :: rest).map (List.map (List.map (renumber shift)))).all (2 ≤ ·.length) =
          (first :: rest).all (2 ≤ ·.length) := by
        simp only [List.all_map, Function.comp_def, List.length_map]
      rw [List.map_cons] at long ⊢
      cases enough : (first :: rest).all (2 ≤ ·.length) with
      | true =>
          simp only [long.trans enough, enough, if_true]
          exact foldl_commonStart_map_renumber shift first rest
      | false =>
          simp only [long.trans enough, enough, if_false, Bool.false_eq_true]
          rfl

/-- Two or more members make a class, or a choice behind their common start. -/
theorem alternativeUpTo_of_flatMap_choices {exprs others : List Expr} {first second : Expr}
    (members : exprs.flatMap choices = first :: second :: others) (bound : Nat) :
    alternativeUpTo (bound + 1) exprs =
      match ((first :: second :: others).mapM character?).or
          ((first :: second :: others).mapM class?) with
      | some sets => .set (.unionAll sets)
      | none =>
          if (sharedStart (first :: second :: others)).flatten = [] then
            ofChoices (first :: second :: others)
          else
            sequenceAll ((sharedStart (first :: second :: others)).flatten ++
              [alternativeUpTo bound ((first :: second :: others).map fun expr =>
                ofParts (expr.parts.drop
                  (sharedStart (first :: second :: others)).flatten.length))]) := by
  rw [alternativeUpTo]
  generalize exprs.flatMap choices = all at members ⊢
  subst members
  rfl

/-- Alternatives with other numbers make the same choice, with the other numbers. -/
theorem alternativeUpTo_map_renumber (bound : Nat) (exprs : List Expr) :
    alternativeUpTo bound (exprs.map (renumber shift)) =
      (alternativeUpTo bound exprs).renumber shift := by
  induction bound generalizing exprs with
  | zero => exact ofChoices_map_renumber shift exprs
  | succ bound induction =>
      have members : (exprs.map (renumber shift)).flatMap choices =
          (exprs.flatMap choices).map (renumber shift) := by
        rw [List.flatMap_map, List.map_flatMap]
        simp only [choices_renumber]
      have kinds (kind? : Expr → Option Unicode.CharSet)
          (same : ∀ expr, kind? (expr.renumber shift) = kind? expr) (exprs : List Expr) :
          (exprs.map (renumber shift)).mapM kind? = exprs.mapM kind? := by
        rw [List.mapM_map]
        exact congrArg (List.mapM · _) (funext same)
      match found : exprs.flatMap choices with
      | [] => rw [alternativeUpTo, alternativeUpTo, members, found]; rfl
      | [_] => rw [alternativeUpTo, alternativeUpTo, members, found]; rfl
      | first :: second :: others =>
          rw [found] at members
          rw [alternativeUpTo_of_flatMap_choices members, alternativeUpTo_of_flatMap_choices found,
            ← List.map_cons, ← List.map_cons, kinds character? (character?_renumber shift),
            kinds class? (class?_renumber shift), sharedStart_map_renumber, ← List.map_flatten]
          generalize first :: second :: others = members
          cases (members.mapM character?).or (members.mapM class?) with
          | some sets => rfl
          | none =>
              -- What is left of each member after the common start is put together as before.
              have remainders (count : Nat) :
                  (members.map (renumber shift)).map (fun expr => ofParts (expr.parts.drop count)) =
                    (members.map fun expr => ofParts (expr.parts.drop count)).map
                      (renumber shift) := by
                simp only [List.map_map, Function.comp_def, parts_renumber, ← List.map_drop,
                  ofParts_map_renumber]
              simp only [List.map_eq_nil_iff, List.length_map, remainders, induction,
                apply_ite (renumber shift), ← sequenceAll_map_renumber, ofChoices_map_renumber,
                List.map_append, List.map_cons, List.map_nil]

/-- Alternatives with other numbers make the same choice, with the other numbers. -/
theorem alternativeAll_map_renumber (exprs : List Expr) :
    alternativeAll (exprs.map (renumber shift)) = (alternativeAll exprs).renumber shift := by
  rw [alternativeAll, alternativeAll, List.foldr_map]
  simp only [size_renumber]
  exact alternativeUpTo_map_renumber shift _ exprs

end Renumber

/-! ## No group is made up -/

/-- A part of a sequence has no other groups. -/
theorem groups_subset_of_mem_parts {expr part : Expr} (member : part ∈ expr.parts) :
    part.groups ⊆ expr.groups := by
  induction expr with
  | empty => cases member
  | sequence first second left right =>
      rcases List.mem_append.mp member with inFirst | inSecond
      · exact List.subset_append_of_subset_left _ (left inFirst)
      · exact List.subset_append_of_subset_right _ (right inSecond)
  | _ =>
      rw [List.mem_singleton.mp member]
      exact List.Subset.refl _

/-- A member of a choice has no other groups. -/
theorem groups_subset_of_mem_choices {expr choice : Expr} (member : choice ∈ expr.choices) :
    choice.groups ⊆ expr.groups := by
  induction expr with
  | alternative first second left right =>
      rcases List.mem_append.mp member with inFirst | inSecond
      · exact List.subset_append_of_subset_left _ (left inFirst)
      · exact List.subset_append_of_subset_right _ (right inSecond)
  | _ =>
      rw [List.mem_singleton.mp member]
      exact List.Subset.refl _

/-- The groups in a sequence are those of its parts. -/
theorem groups_ofParts (exprs : List Expr) : (ofParts exprs).groups = exprs.flatMap groups := by
  induction exprs with
  | nil => rfl
  | cons expr exprs induction =>
      cases exprs with
      | nil => exact (List.append_nil _).symm
      | cons second exprs =>
          rw [List.flatMap_cons, ← induction]
          rfl

/-- The groups in a choice are those of its members. -/
theorem groups_ofChoices (exprs : List Expr) :
    (ofChoices exprs).groups = exprs.flatMap groups := by
  induction exprs with
  | nil => rfl
  | cons expr exprs induction =>
      cases exprs with
      | nil => exact (List.append_nil _).symm
      | cons second exprs =>
          rw [List.flatMap_cons, ← induction]
          rfl

/-- So a choice has no other groups than its members. -/
theorem groups_ofChoices_subset (exprs : List Expr) :
    (ofChoices exprs).groups ⊆ exprs.flatMap groups := by
  rw [groups_ofChoices]
  exact List.Subset.refl _

/-- The groups in a repetition are those of its body. -/
theorem groups_repeated_subset (min : Nat) (max : Option Nat) (greedy : Bool) (body : Expr) :
    (repeated min max greedy body).groups ⊆ body.groups := by
  have orNone {condition : Prop} [Decidable condition] :
      (if condition then [] else body.groups) ⊆ body.groups := by
    split
    · exact List.nil_subset _
    · exact List.Subset.refl _
  simp only [repeated, apply_ite groups, groups, ite_self]
  exact orNone

/-- Groups of things whose groups are among some are among these. -/
theorem flatMap_groups_subset {exprs : List Expr} {among : List (Nat × Option String)}
    (each : ∀ expr ∈ exprs, expr.groups ⊆ among) : exprs.flatMap groups ⊆ among := by
  intro group member
  obtain ⟨expr, inExprs, inside⟩ := List.mem_flatMap.mp member
  exact each expr inExprs inside

/-- The groups of one are among those of all. -/
theorem groups_subset_flatMap {exprs : List Expr} {expr : Expr} (member : expr ∈ exprs) :
    expr.groups ⊆ exprs.flatMap groups :=
  fun _ inside => List.mem_flatMap.mpr ⟨expr, member, inside⟩

/-- The groups in a sequence are those of the expressions in it. -/
theorem groups_sequenceAll_subset (exprs : List Expr) :
    (sequenceAll exprs).groups ⊆ exprs.flatMap groups := by
  rw [sequenceAll, groups_ofParts]
  refine flatMap_groups_subset fun part member => ?_
  obtain ⟨expr, inExprs, isPart⟩ := List.mem_flatMap.mp member
  exact List.Subset.trans (groups_subset_of_mem_parts isPart) (groups_subset_flatMap inExprs)

/-- Words are made of the parts. -/
theorem flatten_words (exprs : List Expr) : (words exprs).flatten = exprs := by
  induction exprs with
  | nil => rfl
  | cons expr exprs induction =>
      rw [words]
      split
      · rename_i next word others found
        rw [found] at induction
        rw [← induction]
        split <;> rfl
      · rw [List.flatten_cons, induction, List.singleton_append]

/-- What two lists have in common is the start of the first. -/
theorem commonStart_isPrefix (left right : List (List Expr)) : commonStart left right <+: left := by
  induction left generalizing right with
  | nil => exact List.nil_prefix
  | cons first left induction =>
      cases right with
      | nil => exact List.nil_prefix
      | cons second right =>
          rw [commonStart]
          split
          · exact (List.prefix_cons_inj first).mpr (induction right)
          · exact List.nil_prefix

/-- What all of several lists have in common is the start of the first. -/
theorem foldl_commonStart_isPrefix (first : List (List Expr)) (rest : List (List (List Expr))) :
    rest.foldl commonStart first <+: first := by
  induction rest generalizing first with
  | nil => exact List.prefix_refl first
  | cons second rest induction =>
      exact (induction _).trans (commonStart_isPrefix first second)

/-- The common start of sequences is made of parts of the first one. -/
theorem sharedStart_flatten_subset (first : Expr) (exprs : List Expr) :
    (sharedStart (first :: exprs)).flatten ⊆ first.parts := by
  rw [sharedStart, List.map_cons]
  split
  · exact List.nil_subset _
  · rename_i found
    cases found
    split
    · intro part member
      obtain ⟨word, shared, inWord⟩ := List.mem_flatten.mp member
      rw [← flatten_words first.parts]
      exact List.mem_flatten.mpr ⟨word, (foldl_commonStart_isPrefix _ _).subset shared, inWord⟩
    · exact List.nil_subset _

/-- The groups in a choice are those of the expressions in it, also behind a common start. -/
theorem groups_alternativeUpTo_subset (bound : Nat) (exprs : List Expr) :
    (alternativeUpTo bound exprs).groups ⊆ exprs.flatMap groups := by
  induction bound generalizing exprs with
  | zero => exact groups_ofChoices_subset exprs
  | succ bound induction =>
      have among : (exprs.flatMap choices).flatMap groups ⊆ exprs.flatMap groups := by
        refine flatMap_groups_subset fun choice member => ?_
        obtain ⟨expr, inExprs, isChoice⟩ := List.mem_flatMap.mp member
        exact List.Subset.trans (groups_subset_of_mem_choices isChoice)
          (groups_subset_flatMap inExprs)
      refine List.Subset.trans ?_ among
      match found : exprs.flatMap choices with
      | [] | [_] =>
          rw [alternativeUpTo, found]
          exact groups_ofChoices_subset _
      | first :: second :: others =>
          rw [alternativeUpTo_of_flatMap_choices found]
          split
          · exact List.nil_subset _
          · split
            · exact groups_ofChoices_subset _
            · refine List.Subset.trans (groups_sequenceAll_subset _) ?_
              rw [List.flatMap_append, List.flatMap_singleton, List.append_subset]
              constructor
              · refine flatMap_groups_subset fun part member => ?_
                have isPart := sharedStart_flatten_subset first (second :: others) member
                exact List.Subset.trans (groups_subset_of_mem_parts isPart)
                  (groups_subset_flatMap List.mem_cons_self)
              · refine List.Subset.trans (induction _) (flatMap_groups_subset ?_)
                intro remainder member
                obtain ⟨expr, inMembers, rfl⟩ := List.mem_map.mp member
                rw [groups_ofParts]
                refine flatMap_groups_subset fun part isLeft => ?_
                have isPart := List.mem_of_mem_drop isLeft
                exact List.Subset.trans (groups_subset_of_mem_parts isPart)
                  (groups_subset_flatMap inMembers)

/-- The groups in a choice are those of the expressions in it. -/
theorem groups_alternativeAll_subset (exprs : List Expr) :
    (alternativeAll exprs).groups ⊆ exprs.flatMap groups :=
  groups_alternativeUpTo_subset _ exprs

end TokenGrammar.Regex.Expr
