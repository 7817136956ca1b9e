/-! # Computations that succeed

A computation in steps succeeds where each of its steps does.

* `bind_eq_ok_iff`: one computation after another one.
* `map_eq_ok_iff`: a computation with its result changed. -/

namespace TokenGrammar

/-- A computation after another one succeeds if both do. -/
theorem bind_eq_ok_iff {ε α β : Type} {first : Except ε α} {next : α → Except ε β} {result : β} :
    first >>= next = .ok result ↔ ∃ value, first = .ok value ∧ next value = .ok result := by
  cases first with
  | error error => exact ⟨nofun, nofun⟩
  | ok value =>
      constructor
      · exact fun done => ⟨value, rfl, done⟩
      · rintro ⟨_, ⟨⟩, done⟩
        exact done

/-- A computation with its result changed succeeds if it does. -/
theorem map_eq_ok_iff {ε α β : Type} {first : Except ε α} {change : α → β} {result : β} :
    first.map change = .ok result ↔ ∃ value, first = .ok value ∧ change value = result := by
  cases first with
  | error error => exact ⟨nofun, nofun⟩
  | ok value =>
      constructor
      · exact fun done => ⟨value, rfl, Except.ok.inj done⟩
      · rintro ⟨_, ⟨⟩, done⟩
        exact congrArg _ done

end TokenGrammar
