import Mathlib.Data.List.Forall2

/-! # Lists that go together

Two lists go together if their members do, one by one.

* `forall₂_imp_of_mem`, `forall₂_trans`: lists that go together in another way, or with another
  list.
* `forall₂_append_cons_iff`: lists that go together are cut at the same place.
* `exists_of_forall₂_right`, `exists_forall₂`, `forall₂_filterMap`: single members of such lists. -/

namespace TokenGrammar

variable {α β : Type} {related : α → β → Prop}

/-- Two lists that go together go together in another way that the members of the first allow. -/
theorem forall₂_imp_of_mem {related' : α → β → Prop} {firsts : List α} {seconds : List β}
    (each : List.Forall₂ related firsts seconds)
    (implies : ∀ first ∈ firsts, ∀ second, related first second → related' first second) :
    List.Forall₂ related' firsts seconds := by
  have both := (List.forall₂_and_left _ _).mpr ⟨implies, each⟩
  exact both.imp fun first second ⟨implied, goes⟩ => implied second goes

/-- What stands in the place of a member goes together with what the member went together with. -/
theorem forall₂_trans {restates : α → α → Prop} {firsts firsts' : List α} {seconds : List β}
    (implies : ∀ {first first' second}, restates first first' → related first second →
      related first' second)
    (same : List.Forall₂ restates firsts firsts') (each : List.Forall₂ related firsts seconds) :
    List.Forall₂ related firsts' seconds := by
  induction same generalizing seconds with
  | nil =>
      cases each
      exact .nil
  | cons head _ induction =>
      cases each with
      | cons goes each => exact .cons (implies head goes) (induction each)

/-- Lists that go together can be cut where one of them is. -/
theorem forall₂_append_cons_iff {before after : List α} {first : α} {seconds : List β} :
    List.Forall₂ related (before ++ first :: after) seconds ↔
      ∃ before' second after', seconds = before' ++ second :: after' ∧
        List.Forall₂ related before before' ∧ related first second ∧
          List.Forall₂ related after after' := by
  induction before generalizing seconds with
  | nil =>
      constructor
      · intro each
        cases each with
        | cons goes each => exact ⟨[], _, _, rfl, .nil, goes, each⟩
      · rintro ⟨_, second, after', rfl, ⟨⟩, goes, each⟩
        exact .cons goes each
  | cons head before induction =>
      constructor
      · intro each
        cases each with
        | cons goesHead each =>
            obtain ⟨before', second, after', rfl, eachBefore, goes, eachAfter⟩ := induction.mp each
            exact ⟨_ :: before', second, after', rfl, .cons goesHead eachBefore, goes, eachAfter⟩
      · rintro ⟨_, second, after', rfl, eachBefore, goes, eachAfter⟩
        cases eachBefore with
        | cons goesHead eachBefore =>
            exact .cons goesHead (induction.mpr ⟨_, _, _, rfl, eachBefore, goes, eachAfter⟩)

/-- What goes together with a list does so member by member. -/
theorem exists_of_forall₂_right {firsts : List α} {seconds : List β}
    (each : List.Forall₂ related firsts seconds) {second : β} (among : second ∈ seconds) :
    ∃ first ∈ firsts, related first second := by
  induction each with
  | nil => cases among
  | cons goes _ induction =>
      rcases List.mem_cons.mp among with rfl | among
      · exact ⟨_, List.mem_cons_self, goes⟩
      · obtain ⟨first, memberOf, goes⟩ := induction among
        exact ⟨first, List.mem_cons_of_mem _ memberOf, goes⟩

/-- A list goes together with another one if each of its members goes together with something. -/
theorem exists_forall₂ {firsts : List α} (each : ∀ first ∈ firsts, ∃ second, related first second) :
    ∃ seconds, List.Forall₂ related firsts seconds := by
  induction firsts with
  | nil => exact ⟨[], .nil⟩
  | cons first firsts induction =>
      obtain ⟨⟨second, goes⟩, others⟩ := List.forall_mem_cons.mp each
      obtain ⟨seconds, rest⟩ := induction others
      exact ⟨second :: seconds, .cons goes rest⟩

/-- A list goes together with what is found for its members, if something is for each of them. -/
theorem forall₂_filterMap {find? : α → Option β} {firsts : List α}
    (each : ∀ first ∈ firsts, ∃ second, find? first = some second ∧ related first second) :
    List.Forall₂ related firsts (firsts.filterMap find?) := by
  induction firsts with
  | nil => exact .nil
  | cons first firsts induction =>
      obtain ⟨⟨second, found, goes⟩, others⟩ := List.forall_mem_cons.mp each
      rw [List.filterMap_cons_some found]
      exact .cons goes (induction others)

end TokenGrammar
