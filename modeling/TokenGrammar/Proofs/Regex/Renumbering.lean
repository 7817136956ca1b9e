import TokenGrammar.Proofs.Regex.ComposedGroups
import TokenGrammar.Proofs.Regex.Outlasting.Spacing
import TokenGrammar.Regex.Elaboration

/-! # Patterns with other numbers

The groups of a pattern are numbered in the order of their openings, so that within another pattern
they have higher numbers.

* `Regex.Pattern.renumber`: a pattern with the numbers of its groups raised.
* `Regex.Pattern.names`, `Regex.Pattern.captures`: the names of the groups in a pattern, and the
  groups that are numbered.
* `Regex.Pattern.elaborateWith_renumber`: a pattern means the same whatever the numbers are.
* `Regex.Pattern.mem_names_of_elaborateWith`: no named group is made up. -/

namespace TokenGrammar.Regex

namespace Pattern

mutual

/-- A pattern with the numbers of its groups raised. -/
def renumber (shift : Nat) : Pattern → Pattern
  | .repetition min max lazy body => .repetition min max lazy (renumber shift body)
  | .capture index name body => .capture (index + shift) name (renumber shift body)
  | .group setting body => .group setting (renumber shift body)
  | .alternation alternatives => .alternation (renumberAll shift alternatives)
  | .sequence parts => .sequence (renumberAll shift parts)
  | pattern => pattern

/-- Patterns with the numbers of their groups raised. -/
def renumberAll (shift : Nat) : List Pattern → List Pattern
  | [] => []
  | pattern :: patterns => renumber shift pattern :: renumberAll shift patterns

/-- The names of the groups in a pattern. -/
def names : Pattern → List String
  | .repetition _ _ _ body => names body
  | .capture _ name body => name.toList ++ names body
  | .group _ body => names body
  | .alternation alternatives => namesOfAll alternatives
  | .sequence parts => namesOfAll parts
  | _ => []

/-- The names of the groups in patterns. -/
def namesOfAll : List Pattern → List String
  | [] => []
  | pattern :: patterns => names pattern ++ namesOfAll patterns
/-- How many groups of a pattern are numbered. -/
def captureCount : Pattern → Nat
  | .repetition _ _ _ body => captureCount body
  | .capture _ _ body => captureCount body + 1
  | .group _ body => captureCount body
  | .alternation alternatives => captureCountOfAll alternatives
  | .sequence parts => captureCountOfAll parts
  | _ => 0

/-- How many groups of patterns are numbered. -/
def captureCountOfAll : List Pattern → Nat
  | [] => 0
  | pattern :: patterns => captureCount pattern + captureCountOfAll patterns

/-- The groups of a pattern that are numbered, with their names if they have one. -/
def captures : Pattern → List (Option String)
  | .repetition _ _ _ body => captures body
  | .capture _ name body => name :: captures body
  | .group _ body => captures body
  | .alternation alternatives => capturesOfAll alternatives
  | .sequence parts => capturesOfAll parts
  | _ => []

/-- The groups of patterns that are numbered, with their names if they have one. -/
def capturesOfAll : List Pattern → List (Option String)
  | [] => []
  | pattern :: patterns => captures pattern ++ capturesOfAll patterns

end

/-- Each pattern has the numbers of its groups raised. -/
theorem renumberAll_eq_map (shift : Nat) (patterns : List Pattern) :
    renumberAll shift patterns = patterns.map (renumber shift) := by
  induction patterns with
  | nil => rfl
  | cons pattern patterns induction => rw [renumberAll, induction, List.map_cons]

/-- The groups of patterns are those of each. -/
theorem capturesOfAll_eq_flatMap (patterns : List Pattern) :
    capturesOfAll patterns = patterns.flatMap captures := by
  induction patterns with
  | nil => rfl
  | cons pattern patterns induction => rw [capturesOfAll, induction, List.flatMap_cons]

/-- Parts in order have the numbers of their groups raised part by part. -/
theorem ofParts_map_renumber (shift : Nat) (parts : List Pattern) :
    ofParts (parts.map (renumber shift)) = (ofParts parts).renumber shift := by
  match parts with
  | [] => rfl
  | [_] => rfl
  | first :: second :: parts =>
      exact congrArg sequence (renumberAll_eq_map shift (first :: second :: parts)).symm

/-- The groups of parts in order are those of each. -/
theorem captures_ofParts (parts : List Pattern) :
    (ofParts parts).captures = parts.flatMap captures := by
  match parts with
  | [] => rfl
  | [_] => exact (List.append_nil _).symm
  | first :: second :: parts => exact capturesOfAll_eq_flatMap _

mutual

/-- As many groups are numbered as there are. -/
theorem length_captures : (pattern : Pattern) → pattern.captures.length = pattern.captureCount
  | .empty | .flags _ | .literal _ | .dot | .anchor _ | .shorthand .. | .property ..
  | .bracketed .. => rfl
  | .repetition _ _ _ body | .group _ body => length_captures body
  | .capture _ _ body => congrArg (· + 1) (length_captures body)
  | .alternation patterns | .sequence patterns => length_capturesOfAll patterns

/-- As many groups of patterns are numbered as there are. -/
theorem length_capturesOfAll : (patterns : List Pattern) →
    (capturesOfAll patterns).length = captureCountOfAll patterns
  | [] => rfl
  | pattern :: patterns => by
      rw [capturesOfAll, List.length_append, captureCountOfAll, length_captures pattern,
        length_capturesOfAll patterns]

end

mutual

/-- The names in a pattern are those of its groups that have one. -/
theorem filterMap_captures : (pattern : Pattern) → pattern.captures.filterMap id = pattern.names
  | .empty | .flags _ | .literal _ | .dot | .anchor _ | .shorthand .. | .property ..
  | .bracketed .. => rfl
  | .repetition _ _ _ body | .group _ body => filterMap_captures body
  | .capture _ none body => filterMap_captures body
  | .capture _ (some name) body => congrArg (name :: ·) (filterMap_captures body)
  | .alternation patterns | .sequence patterns => filterMap_capturesOfAll patterns

/-- The names in patterns are those of their groups that have one. -/
theorem filterMap_capturesOfAll : (patterns : List Pattern) →
    (capturesOfAll patterns).filterMap id = namesOfAll patterns
  | [] => rfl
  | pattern :: patterns => by
      rw [capturesOfAll, List.filterMap_append, namesOfAll, filterMap_captures pattern,
        filterMap_capturesOfAll patterns]

end

mutual

/-- Numbers of groups do not count for the depth. -/
theorem depth_renumber (shift : Nat) : (pattern : Pattern) →
    (pattern.renumber shift).depth = pattern.depth
  | .empty | .flags _ | .literal _ | .dot | .anchor _ | .shorthand .. | .property ..
  | .bracketed .. => rfl
  | .repetition _ _ _ body => congrArg (· + 1) (depth_renumber shift body)
  | .capture _ _ body => congrArg (· + 1) (depth_renumber shift body)
  | .group _ body => congrArg (· + 1) (depth_renumber shift body)
  | .alternation alternatives => congrArg (· + 1) (depthOfList_renumberAll shift alternatives)
  | .sequence parts => congrArg (· + 1) (depthOfList_renumberAll shift parts)

/-- Numbers of groups do not count for the depth of a list. -/
theorem depthOfList_renumberAll (shift : Nat) : (patterns : List Pattern) →
    depthOfList (renumberAll shift patterns) = depthOfList patterns
  | [] => rfl
  | pattern :: patterns => by
      rw [renumberAll, depthOfList, depthOfList, depth_renumber shift pattern,
        depthOfList_renumberAll shift patterns]

end

mutual

/-- The names of the groups in a pattern do not depend on their numbers. -/
theorem names_renumber (shift : Nat) : (pattern : Pattern) →
    (pattern.renumber shift).names = pattern.names
  | .empty | .flags _ | .literal _ | .dot | .anchor _ | .shorthand .. | .property ..
  | .bracketed .. => rfl
  | .repetition _ _ _ body => names_renumber shift body
  | .capture _ name body => congrArg (name.toList ++ ·) (names_renumber shift body)
  | .group _ body => names_renumber shift body
  | .alternation alternatives => namesOfAll_renumberAll shift alternatives
  | .sequence parts => namesOfAll_renumberAll shift parts

/-- The names of the groups in patterns do not depend on their numbers. -/
theorem namesOfAll_renumberAll (shift : Nat) : (patterns : List Pattern) →
    namesOfAll (renumberAll shift patterns) = namesOfAll patterns
  | [] => rfl
  | pattern :: patterns => by
      rw [renumberAll, namesOfAll, namesOfAll, names_renumber shift pattern,
        namesOfAll_renumberAll shift patterns]

end

mutual

/-- A pattern means the same whatever the numbers of its groups are, but for these numbers. -/
theorem elaborateWith_renumber (shift : Nat) : (pattern : Pattern) → (inForce : Flags) →
    (pattern.renumber shift).elaborateWith inForce =
      (pattern.elaborateWith inForce).map fun meaning => (meaning.1.renumber shift, meaning.2)
  | .empty, _ | .flags _, _ | .anchor _, _ => rfl
  | .literal character, inForce => by
      simp only [renumber, elaborateWith, Literal.elaborate]
      split <;> rfl
  | .dot, inForce => by
      simp only [renumber, elaborateWith, dotExpr]
      split
      · rfl
      · split
        · rfl
        · split <;> rfl
  | .shorthand kind negated, inForce => by
      simp only [renumber, elaborateWith]
      cases kind.elaborate inForce negated <;> rfl
  | .property query negated, inForce => by
      simp only [renumber, elaborateWith]
      cases query.elaborate inForce negated <;> rfl
  | .bracketed negated contents, inForce => by
      simp only [renumber, elaborateWith]
      cases contents.elaborate inForce with
      | error error => rfl
      | ok set =>
          simp only [bind, Except.bind]
          cases inForce.foldAndNegate negated set <;> rfl
  | .repetition min max lazy body, inForce => by
      rw [renumber, elaborateWith, elaborateWith, elaborateWith_renumber shift body inForce]
      cases elaborateWith inForce body with
      | error error => rfl
      | ok meaning => exact congrArg (fun expr => Except.ok (expr, _)) (Expr.repeated_renumber ..)
  | .capture index name body, inForce => by
      rw [renumber, elaborateWith, elaborateWith, elaborateWith_renumber shift body inForce]
      cases elaborateWith inForce body <;> rfl
  | .group setting body, inForce => by
      rw [renumber, elaborateWith, elaborateWith, elaborateWith_renumber shift body _]
      cases elaborateWith (inForce.apply setting) body <;> rfl
  | .alternation alternatives, inForce => by
      rw [renumber, elaborateWith, elaborateWith,
        elaborateAll_renumberAll shift alternatives inForce]
      cases elaborateAll inForce alternatives with
      | error error => rfl
      | ok meaning =>
          exact congrArg (fun expr => Except.ok (expr, _)) (Expr.alternativeAll_map_renumber ..)
  | .sequence parts, inForce => by
      rw [renumber, elaborateWith, elaborateWith, elaborateAll_renumberAll shift parts inForce]
      cases elaborateAll inForce parts with
      | error error => rfl
      | ok meaning =>
          exact congrArg (fun expr => Except.ok (expr, _)) (Expr.sequenceAll_map_renumber ..)

/-- Patterns mean the same whatever the numbers of their groups are, but for these numbers. -/
theorem elaborateAll_renumberAll (shift : Nat) : (patterns : List Pattern) → (inForce : Flags) →
    elaborateAll inForce (renumberAll shift patterns) =
      (elaborateAll inForce patterns).map fun meaning =>
        (meaning.1.map (.renumber shift), meaning.2)
  | [], _ => rfl
  | pattern :: patterns, inForce => by
      rw [renumberAll, elaborateAll, elaborateAll, elaborateWith_renumber shift pattern inForce]
      cases elaborateWith inForce pattern with
      | error error => rfl
      | ok meaning =>
          simp only [Except.map, bind, Except.bind]
          rw [elaborateAll_renumberAll shift patterns meaning.2]
          cases elaborateAll meaning.2 patterns <;> rfl

end

/-- The dot means no group. -/
theorem groups_of_dotExpr {inForce : Flags} {expr : Expr} (means : dotExpr inForce = .ok expr) :
    expr.groups = [] := by
  unfold dotExpr at means
  split at means
  · cases means
  · split at means
    · cases means
      rfl
    · split at means <;> cases means <;> rfl

mutual

/-- Every named group of what a pattern means is one of the pattern. -/
theorem mem_names_of_elaborateWith : (pattern : Pattern) → {flags after : Flags} → {expr : Expr} →
    pattern.elaborateWith flags = .ok (expr, after) → {number : Nat} → {name : String} →
      (number, some name) ∈ expr.groups → name ∈ pattern.names
  | .empty, _, _, _, means, _, _, member | .flags _, _, _, _, means, _, _, member
  | .anchor _, _, _, _, means, _, _, member => by
      cases means
      cases member
  | .literal character, _, _, _, means, _, _, member => by
      rw [elaborateWith, Literal.elaborate] at means
      split at means <;> cases means
      cases member
  | .dot, _, _, _, means, _, _, member => by
      rw [elaborateWith] at means
      obtain ⟨_, isDot, done⟩ := bind_eq_ok_iff.mp means
      cases done
      rw [groups_of_dotExpr isDot] at member
      cases member
  | .shorthand .., _, _, _, means, _, _, member | .property .., _, _, _, means, _, _, member => by
      rw [elaborateWith] at means
      obtain ⟨_, -, done⟩ := bind_eq_ok_iff.mp means
      cases done
      cases member
  | .bracketed .., _, _, _, means, _, _, member => by
      rw [elaborateWith] at means
      obtain ⟨_, -, means⟩ := bind_eq_ok_iff.mp means
      obtain ⟨_, -, done⟩ := bind_eq_ok_iff.mp means
      cases done
      cases member
  | .repetition _ _ _ body, _, _, _, means, _, _, member => by
      rw [elaborateWith] at means
      obtain ⟨_, inside, done⟩ := bind_eq_ok_iff.mp means
      cases done
      exact mem_names_of_elaborateWith body inside (Expr.groups_repeated_subset _ _ _ _ member)
  | .capture _ _ body, _, _, _, means, _, _, member => by
      rw [elaborateWith] at means
      obtain ⟨_, inside, done⟩ := bind_eq_ok_iff.mp means
      cases done
      rcases List.mem_cons.mp member with same | member
      · cases same
        exact List.mem_append_left _ (List.mem_singleton.mpr rfl)
      · exact List.mem_append_right _ (mem_names_of_elaborateWith body inside member)
  | .group _ body, _, _, _, means, _, _, member => by
      rw [elaborateWith] at means
      obtain ⟨_, inside, done⟩ := bind_eq_ok_iff.mp means
      cases done
      exact mem_names_of_elaborateWith body inside member
  | .alternation alternatives, _, _, _, means, _, _, member => by
      rw [elaborateWith] at means
      obtain ⟨_, each, done⟩ := bind_eq_ok_iff.mp means
      cases done
      exact mem_namesOfAll_of_elaborateAll alternatives each
        (Expr.groups_alternativeAll_subset _ member)
  | .sequence parts, _, _, _, means, _, _, member => by
      rw [elaborateWith] at means
      obtain ⟨_, each, done⟩ := bind_eq_ok_iff.mp means
      cases done
      exact mem_namesOfAll_of_elaborateAll parts each (Expr.groups_sequenceAll_subset _ member)

/-- Every named group of what patterns mean is one of the patterns. -/
theorem mem_namesOfAll_of_elaborateAll : (patterns : List Pattern) → {flags after : Flags} →
    {exprs : List Expr} → elaborateAll flags patterns = .ok (exprs, after) → {number : Nat} →
      {name : String} → (number, some name) ∈ exprs.flatMap Expr.groups →
        name ∈ namesOfAll patterns
  | [], _, _, _, means, _, _, member => by
      cases means
      cases member
  | pattern :: patterns, _, _, _, means, _, _, member => by
      rw [elaborateAll] at means
      obtain ⟨_, first, means⟩ := bind_eq_ok_iff.mp means
      obtain ⟨_, others, done⟩ := bind_eq_ok_iff.mp means
      cases done
      rcases List.mem_append.mp member with here | later
      · exact List.mem_append_left _ (mem_names_of_elaborateWith pattern first here)
      · exact List.mem_append_right _ (mem_namesOfAll_of_elaborateAll patterns others later)

end

end Pattern

/-- A part that is no group and has none in it. -/
def Pattern.IsSimple : Pattern → Prop
  | .repetition .. | .capture .. | .group .. | .alternation _ | .sequence _ => False
  | _ => True

/-- A simple part has no groups whose numbers could be raised. -/
theorem Pattern.IsSimple.renumber {part : Pattern} (simple : part.IsSimple) (shift : Nat) :
    part.renumber shift = part := by
  cases part <;> first | rfl | exact simple.elim

/-- A simple part has no groups. -/
theorem Pattern.IsSimple.captures {part : Pattern} (simple : part.IsSimple) :
    part.captures = [] := by
  cases part <;> first | rfl | exact simple.elim

namespace OpenLevel

/-- A level with the numbers of its groups raised. -/
def renumber (shift : Nat) (level : OpenLevel) : OpenLevel :=
  ⟨level.alternatives.map (.renumber shift), level.parts.map (.renumber shift)⟩

/-- The groups in a level. -/
def captures (level : OpenLevel) : List (Option String) :=
  level.alternatives.flatMap Pattern.captures ++ level.parts.flatMap Pattern.captures

/-- The current alternative has the numbers of its groups raised. -/
theorem current_renumber (shift : Nat) (level : OpenLevel) :
    (level.renumber shift).current = level.current.renumber shift := by
  rw [current, renumber, ← List.map_reverse, Pattern.ofParts_map_renumber]
  rfl

/-- What has been read has the numbers of its groups raised. -/
theorem toPattern_renumber (shift : Nat) (level : OpenLevel) :
    (level.renumber shift).toPattern = level.toPattern.renumber shift := by
  rw [toPattern, toPattern, current_renumber]
  cases found : level.alternatives with
  | nil => rw [renumber, found, List.map_nil]
  | cons last alternatives =>
      rw [renumber, found]
      change Pattern.alternation _ = Pattern.alternation (Pattern.renumberAll shift _)
      rw [Pattern.renumberAll_eq_map, List.map_reverse]
      rfl

/-- The groups in what has been read are those in the level. -/
theorem perm_captures_toPattern (level : OpenLevel) :
    level.toPattern.captures.Perm level.captures := by
  have current : level.current.captures.Perm (level.parts.flatMap Pattern.captures) := by
    rw [OpenLevel.current, Pattern.captures_ofParts]
    exact (List.reverse_perm _).flatMap_right _
  rw [toPattern, captures]
  cases found : level.alternatives with
  | nil => exact current
  | cons last alternatives =>
      rw [Pattern.captures, Pattern.capturesOfAll_eq_flatMap]
      refine ((List.reverse_perm _).flatMap_right _).trans ?_
      rw [List.flatMap_cons]
      exact (current.append_right _).trans List.perm_append_comm

end OpenLevel

end TokenGrammar.Regex
