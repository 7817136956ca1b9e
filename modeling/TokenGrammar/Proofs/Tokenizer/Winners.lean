import TokenGrammar.Proofs.Tokenizer.Gaps
import TokenGrammar.Tokenizer.Scanner

/-! # Matches of definitions

What is known of the matches of the merged expression carries over to the matches of definitions.

* `Regex.Successive`: matches that lie on the characters of a text, one after the other.
* `Scanner.Spanned`: a match that is spanned by the group of the definition that counts.
* `Scanner.inOrder_winners`, `Scanner.boundary_winners`: the matches of definitions lie alike. -/

namespace TokenGrammar

/-- The stretch of the text that matched. -/
def Regex.Found.span (found : Found) : Span :=
  ⟨found.start.offset, found.stop.offset⟩

/-- Matches that lie on the characters of a text, each of them at or after the end of the one
before. -/
structure Regex.Successive (input : List Char) (found : List Found) : Prop where
  /-- They do not end before they start. -/
  start_le_stop : ∀ one ∈ found, one.span.start ≤ one.span.stop
  /-- They start between characters. -/
  boundary_start : ∀ one ∈ found, Text.Boundary input one.span.start
  /-- They end between characters. -/
  boundary_stop : ∀ one ∈ found, Text.Boundary input one.span.stop
  /-- Each ends before the next one starts, or there. -/
  in_order : ∀ pair ∈ found.zip found.tail, pair.1.span.stop ≤ pair.2.span.start

/-- The matches after the first one lie alike. -/
theorem Regex.Successive.tail {input : List Char} {one : Found} {rest : List Found}
    (successive : Successive input (one :: rest)) : Successive input rest where
  start_le_stop other member := successive.start_le_stop other (List.mem_cons_of_mem _ member)
  boundary_start other member := successive.boundary_start other (List.mem_cons_of_mem _ member)
  boundary_stop other member := successive.boundary_stop other (List.mem_cons_of_mem _ member)
  in_order := by
    cases rest with
    | nil => exact nofun
    | cons second rest =>
        exact fun pair member => successive.in_order pair (List.mem_cons_of_mem _ member)

/-- The second match starts at or after the end of the first one. -/
theorem Regex.Successive.stop_le_start {input : List Char} {one : Found} {rest : List Found}
    (successive : Successive input (one :: rest)) :
    ∀ next ∈ rest.head?, one.span.stop ≤ next.span.start := by
  intro next head
  cases rest with
  | nil => cases head
  | cons second rest =>
      cases Option.some.inj head
      exact successive.in_order (one, next) List.mem_cons_self

namespace Scanner

/-- Whether the group of some definition took part in a match, and the first that did spans it. -/
def Spanned (slots : List (Nat × Definition)) (one : Regex.Found) : Prop :=
  slots.findSome? (fun slot => one.thread.span? slot.1) = some one.span

instance (slots : List (Nat × Definition)) (one : Regex.Found) : Decidable (Spanned slots one) :=
  inferInstanceAs (Decidable (_ = some one.span))

variable {slots : List (Nat × Definition)} {found : List Regex.Found}

/-- A definition whose group took no part does not count. -/
theorem winner?_cons_of_none {one : Regex.Found} {slot : Nat × Definition}
    (skipped : one.thread.span? slot.1 = none) (slots : List (Nat × Definition)) :
    winner? (slot :: slots) one = winner? slots one := by
  simp only [winner?, List.findSome?_cons, skipped, Option.map_none]

/-- The first definition whose group took part counts. -/
theorem winner?_cons_of_some {one : Regex.Found} {slot : Nat × Definition} {span : Regex.Span}
    (counted : one.thread.span? slot.1 = some span) (slots : List (Nat × Definition)) :
    winner? (slot :: slots) one = some ⟨slot.2.name, span⟩ := by
  simp only [winner?, List.findSome?_cons, counted, Option.map_some]

/-- The match of a definition spans what the expression matched. -/
theorem winner?_of_spanned {one : Regex.Found} (spanned : Spanned slots one) :
    ∃ name, winner? slots one = some ⟨name, one.span⟩ := by
  induction slots with
  | nil => cases spanned
  | cons slot slots induction =>
      rw [Spanned, List.findSome?_cons] at spanned
      cases taken : one.thread.span? slot.1 with
      | some span =>
          rw [taken] at spanned
          cases Option.some.inj spanned
          exact ⟨slot.2.name, winner?_cons_of_some taken slots⟩
      | none =>
          rw [taken] at spanned
          rw [winner?_cons_of_none taken]
          exact induction spanned

/-- Every match is the match of a definition. -/
theorem map_span_winners (spanned : ∀ one ∈ found, Spanned slots one) :
    (winners slots found).map Hit.span = found.map Regex.Found.span := by
  induction found with
  | nil => rfl
  | cons one rest induction =>
      obtain ⟨first, others⟩ := List.forall_mem_cons.mp spanned
      obtain ⟨name, won⟩ := winner?_of_spanned first
      rw [winners, List.filterMap_cons_some won, List.map_cons, List.map_cons]
      exact congrArg _ (induction others)

/-- The match of a definition spans what the expression matched somewhere. -/
theorem span_mem_of_mem_winners (spanned : ∀ one ∈ found, Spanned slots one) {hit : Hit}
    (member : hit ∈ winners slots found) : ∃ one ∈ found, one.span = hit.span := by
  have among : hit.span ∈ found.map Regex.Found.span := by
    rw [← map_span_winners spanned]
    exact List.mem_map_of_mem member
  exact List.mem_map.mp among

/-- Matches of definitions start and end between characters. -/
theorem boundary_winners {input : List Char} (successive : Regex.Successive input found)
    (spanned : ∀ one ∈ found, Spanned slots one) {hit : Hit} (member : hit ∈ winners slots found) :
    Text.Boundary input hit.span.start ∧ Text.Boundary input hit.span.stop := by
  obtain ⟨one, inFound, same⟩ := span_mem_of_mem_winners spanned member
  rw [← same]
  exact ⟨successive.boundary_start one inFound, successive.boundary_stop one inFound⟩

/-- Matches of definitions are slices of the text. -/
theorem isSlice_winners {input : List Char} (successive : Regex.Successive input found)
    (spanned : ∀ one ∈ found, Spanned slots one) {hit : Hit} (member : hit ∈ winners slots found) :
    ∃ part, Text.IsSlice input hit.span.start hit.span.stop part := by
  obtain ⟨one, inFound, same⟩ := span_mem_of_mem_winners spanned member
  rw [← same]
  exact Text.IsSlice.of_boundaries (successive.boundary_start one inFound)
    (successive.boundary_stop one inFound) (successive.start_le_stop one inFound)

/-- Matches of definitions come in order. -/
theorem inOrder_winners {input : List Char} (successive : Regex.Successive input found)
    (spanned : ∀ one ∈ found, Spanned slots one) :
    Hit.InOrder (Text.byteLength input) 0 (winners slots found) := by
  suffices each : ∀ lastStop, (∀ one ∈ found.head?, lastStop ≤ one.span.start) →
      lastStop ≤ Text.byteLength input →
        Hit.InOrder (Text.byteLength input) lastStop (winners slots found) from
    each 0 (fun _ _ => Nat.zero_le _) (Nat.zero_le _)
  induction found with
  | nil => exact fun _ _ le => le
  | cons one rest induction =>
      intro lastStop from_last _
      obtain ⟨first, others⟩ := List.forall_mem_cons.mp spanned
      obtain ⟨name, won⟩ := winner?_of_spanned first
      rw [winners, List.filterMap_cons_some won]
      exact ⟨from_last one rfl, successive.start_le_stop one List.mem_cons_self,
        induction successive.tail others one.span.stop successive.stop_le_start
          (successive.boundary_stop one List.mem_cons_self).le⟩

end Scanner

end TokenGrammar
