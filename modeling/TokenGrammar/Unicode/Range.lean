/-! # Ranges of code points

Sets of code points as lists of ranges in increasing order, with gaps between them.

* `Unicode.Range`: a range with both ends included.
* `Unicode.Increasing`: the lists that stand for sets, each set by one list only.
* `Unicode.joinRanges`: what two lists hold together.
* `Unicode.gapsFrom`: what a list does not hold.
* `Unicode.search`: look-up.
* `Unicode.holdsIn_joinRanges`, `Unicode.holdsIn_gapsFrom`, `Unicode.search_eq_true_iff`: their
  meaning, point by point. -/

namespace TokenGrammar.Unicode

/-- A range of code points: the first and the last. -/
abbrev Range := Nat × Nat

/-- The last code point. -/
def lastCodePoint : Nat :=
  0x10FFFF

/-- Whether a code point lies in one of the ranges. -/
def HoldsIn (n : Nat) (ranges : List Range) : Prop :=
  ∃ range ∈ ranges, range.1 ≤ n ∧ n ≤ range.2

/-- Whether ranges start at a bound or later, each of them nonempty and before the next, with a
gap between the two. -/
def Increasing (bound : Nat) : List Range → Prop
  | [] => True
  | range :: rest => bound ≤ range.1 ∧ range.1 ≤ range.2 ∧ Increasing (range.2 + 2) rest

/-- Whether ranges are nonempty and in the order of their starts, the first of which is at a bound
or later. They may overlap. -/
def Ascending (bound : Nat) : List Range → Prop
  | [] => True
  | range :: rest => bound ≤ range.1 ∧ range.1 ≤ range.2 ∧ Ascending range.1 rest

/-- The ranges of two lists in the order of their starts. -/
def mergeStarts : List Range → List Range → List Range
  | [], right => right
  | range :: left, right =>
      right.takeWhile (·.1 < range.1) ++ range :: mergeStarts left (right.dropWhile (·.1 < range.1))

/-- Join the range from `low` to `high` with those after it that overlap or touch it, and so on. -/
def joinFrom (low high : Nat) : List Range → List Range
  | [] => [(low, high)]
  | range :: rest =>
      if range.1 ≤ high + 1 then joinFrom low (max high range.2) rest
      else (low, high) :: joinFrom range.1 range.2 rest

/-- Join the ranges that overlap or touch. -/
def joinTouching : List Range → List Range
  | [] => []
  | range :: rest => joinFrom range.1 range.2 rest

/-- What two lists hold together. -/
def joinRanges (left right : List Range) : List Range :=
  joinTouching (mergeStarts left right)

/-- The gaps between ranges, from `next` up to the last code point. -/
def gapsFrom (next : Nat) : List Range → List Range
  | [] => if next ≤ lastCodePoint then [(next, lastCodePoint)] else []
  | range :: rest =>
      if next < range.1 then (next, range.1 - 1) :: gapsFrom (range.2 + 1) rest
      else gapsFrom (range.2 + 1) rest

/-- Whether a code point lies in one of increasing ranges. -/
def search (n : Nat) : List Range → Bool
  | [] => false
  | range :: rest => if n < range.1 then false else if n ≤ range.2 then true else search n rest

@[simp] theorem not_holdsIn_nil (n : Nat) : ¬ HoldsIn n [] := by
  simp [HoldsIn]

@[simp] theorem holdsIn_cons {n : Nat} {range : Range} {rest : List Range} :
    HoldsIn n (range :: rest) ↔ (range.1 ≤ n ∧ n ≤ range.2) ∨ HoldsIn n rest := by
  simp [HoldsIn]

theorem holdsIn_append {n : Nat} {left right : List Range} :
    HoldsIn n (left ++ right) ↔ HoldsIn n left ∨ HoldsIn n right := by
  induction left with
  | nil => simp
  | cons range left induction => simp [induction, or_assoc]

instance decidableIncreasing : (bound : Nat) → (ranges : List Range) →
    Decidable (Increasing bound ranges)
  | _, [] => isTrue trivial
  | _, range :: rest =>
      have := decidableIncreasing (range.2 + 2) rest
      inferInstanceAs (Decidable (_ ∧ _ ∧ _))

theorem Increasing.mono {bound smaller : Nat} (le : smaller ≤ bound) :
    {ranges : List Range} → Increasing bound ranges → Increasing smaller ranges
  | [], _ => trivial
  | _ :: _, increasing => ⟨Nat.le_trans le increasing.1, increasing.2⟩

theorem Ascending.mono {bound smaller : Nat} (le : smaller ≤ bound) :
    {ranges : List Range} → Ascending bound ranges → Ascending smaller ranges
  | [], _ => trivial
  | _ :: _, ascending => ⟨Nat.le_trans le ascending.1, ascending.2⟩

/-- Ranges with gaps between them are in the order of their starts. -/
theorem Increasing.ascending {bound : Nat} {ranges : List Range}
    (increasing : Increasing bound ranges) : Ascending bound ranges := by
  induction ranges generalizing bound with
  | nil => trivial
  | cons range rest induction =>
      obtain ⟨low, nonempty, later⟩ := increasing
      exact ⟨low, nonempty, (induction later).mono (by omega)⟩

/-- Below the bound increasing ranges hold nothing. -/
theorem Increasing.not_holdsIn {bound n : Nat} (below : n < bound) {ranges : List Range}
    (increasing : Increasing bound ranges) : ¬ HoldsIn n ranges := by
  induction ranges generalizing bound with
  | nil => simp
  | cons range rest induction =>
      obtain ⟨low, nonempty, later⟩ := increasing
      rw [holdsIn_cons, not_or]
      exact ⟨by omega, induction (by omega) later⟩

/-- A code point is found exactly if a range holds it. -/
theorem search_eq_true_iff {bound n : Nat} {ranges : List Range}
    (increasing : Increasing bound ranges) : search n ranges = true ↔ HoldsIn n ranges := by
  induction ranges generalizing bound with
  | nil => simp [search]
  | cons range rest induction =>
      obtain ⟨low, nonempty, later⟩ := increasing
      rw [search, holdsIn_cons]
      split
      · have absent : ¬ HoldsIn n rest := later.not_holdsIn (by omega)
        simp only [Bool.false_eq_true, absent, or_false, false_iff]
        omega
      · split
        · simp only [true_iff]
          exact .inl (by omega)
        · rw [induction later]
          constructor
          · exact .inr
          · rintro (within | found)
            · omega
            · exact found

/-- Merging keeps every range. -/
theorem holdsIn_mergeStarts {n : Nat} {left right : List Range} :
    HoldsIn n (mergeStarts left right) ↔ HoldsIn n left ∨ HoldsIn n right := by
  induction left generalizing right with
  | nil => simp [mergeStarts]
  | cons range left induction =>
      have split : HoldsIn n right ↔
          HoldsIn n (right.takeWhile (·.1 < range.1)) ∨
            HoldsIn n (right.dropWhile (·.1 < range.1)) := by
        rw [← holdsIn_append, List.takeWhile_append_dropWhile]
      rw [mergeStarts, holdsIn_append, holdsIn_cons, induction, holdsIn_cons, split]
      grind

/-- Merging keeps the order of the starts. -/
theorem Ascending.mergeStarts {bound : Nat} {left right : List Range}
    (leftAscending : Ascending bound left) (rightAscending : Ascending bound right) :
    Ascending bound (mergeStarts left right) := by
  induction left generalizing bound right with
  | nil => exact rightAscending
  | cons range left induction =>
      obtain ⟨low, nonempty, later⟩ := leftAscending
      rw [Unicode.mergeStarts]
      induction right generalizing bound with
      | nil => exact ⟨low, nonempty, induction later trivial⟩
      | cons other right inner =>
          obtain ⟨otherLow, otherNonempty, otherLater⟩ := rightAscending
          by_cases before : other.1 < range.1
          · simp only [before, decide_true, List.takeWhile_cons_of_pos, List.cons_append,
              List.dropWhile_cons_of_pos]
            exact ⟨otherLow, otherNonempty, inner otherLater (by omega)⟩
          · simp only [before, decide_false, Bool.false_eq_true, not_false_eq_true,
              List.takeWhile_cons_of_neg, List.nil_append, List.dropWhile_cons_of_neg]
            exact ⟨low, nonempty, induction later ⟨by omega, otherNonempty, otherLater⟩⟩

/-- Joining loses nothing and adds nothing. -/
theorem holdsIn_joinFrom {n low high : Nat} (nonempty : low ≤ high) {ranges : List Range}
    (ascending : Ascending low ranges) :
    HoldsIn n (joinFrom low high ranges) ↔ (low ≤ n ∧ n ≤ high) ∨ HoldsIn n ranges := by
  induction ranges generalizing low high with
  | nil => simp [joinFrom]
  | cons range rest induction =>
      obtain ⟨start, inner, later⟩ := ascending
      rw [joinFrom, holdsIn_cons]
      split
      · rw [induction (by omega) (later.mono start), ← or_assoc]
        refine or_congr_left ?_
        omega
      · rw [holdsIn_cons, induction inner later]

/-- After joining there are gaps between the ranges. -/
theorem increasing_joinFrom {low high : Nat} (nonempty : low ≤ high) {ranges : List Range}
    (ascending : Ascending low ranges) : Increasing low (joinFrom low high ranges) := by
  induction ranges generalizing low high with
  | nil => exact ⟨Nat.le_refl low, nonempty, trivial⟩
  | cons range rest induction =>
      obtain ⟨start, inner, later⟩ := ascending
      rw [joinFrom]
      split
      · exact induction (by omega) (later.mono start)
      · exact ⟨Nat.le_refl low, nonempty, (induction inner later).mono (by omega)⟩

theorem holdsIn_joinTouching {n bound : Nat} {ranges : List Range}
    (ascending : Ascending bound ranges) :
    HoldsIn n (joinTouching ranges) ↔ HoldsIn n ranges := by
  cases ranges with
  | nil => rfl
  | cons range rest =>
      obtain ⟨_, nonempty, later⟩ := ascending
      rw [joinTouching, holdsIn_joinFrom nonempty later, holdsIn_cons]

theorem increasing_joinTouching {bound : Nat} {ranges : List Range}
    (ascending : Ascending bound ranges) : Increasing bound (joinTouching ranges) := by
  cases ranges with
  | nil => trivial
  | cons range rest =>
      obtain ⟨low, nonempty, later⟩ := ascending
      exact (increasing_joinFrom nonempty later).mono low

/-- Joined lists hold what either holds. -/
theorem holdsIn_joinRanges {n bound : Nat} {left right : List Range}
    (leftAscending : Ascending bound left) (rightAscending : Ascending bound right) :
    HoldsIn n (joinRanges left right) ↔ HoldsIn n left ∨ HoldsIn n right := by
  rw [joinRanges, holdsIn_joinTouching (leftAscending.mergeStarts rightAscending),
    holdsIn_mergeStarts]

theorem increasing_joinRanges {bound : Nat} {left right : List Range}
    (leftAscending : Ascending bound left) (rightAscending : Ascending bound right) :
    Increasing bound (joinRanges left right) :=
  increasing_joinTouching (leftAscending.mergeStarts rightAscending)

/-- The gaps hold what the ranges do not. -/
theorem holdsIn_gapsFrom {n next : Nat} (atMost : n ≤ lastCodePoint) {ranges : List Range}
    (increasing : Increasing next ranges) :
    HoldsIn n (gapsFrom next ranges) ↔ next ≤ n ∧ ¬ HoldsIn n ranges := by
  induction ranges generalizing next with
  | nil =>
      rw [gapsFrom]
      split
      · simp [atMost]
      · simp only [not_holdsIn_nil, not_false_eq_true, and_true, false_iff]
        omega
  | cons range rest induction =>
      obtain ⟨low, nonempty, later⟩ := increasing
      have outside : n < range.1 → ¬ HoldsIn n rest := fun below => later.not_holdsIn (by omega)
      rw [gapsFrom, holdsIn_cons, not_or]
      split
      · rw [holdsIn_cons, induction (later.mono (by omega))]
        dsimp only
        constructor
        · rintro (within | ⟨after, absent⟩)
          · exact ⟨by omega, by omega, outside (by omega)⟩
          · exact ⟨by omega, by omega, absent⟩
        · rintro ⟨after, apart, absent⟩
          by_cases before : n < range.1
          · exact .inl (by omega)
          · exact .inr ⟨by omega, absent⟩
      · rw [induction (later.mono (by omega))]
        constructor
        · rintro ⟨after, absent⟩
          exact ⟨by omega, by omega, absent⟩
        · rintro ⟨after, apart, absent⟩
          exact ⟨by omega, absent⟩

theorem increasing_gapsFrom {next : Nat} {ranges : List Range}
    (increasing : Increasing next ranges) : Increasing next (gapsFrom next ranges) := by
  induction ranges generalizing next with
  | nil =>
      rw [gapsFrom]
      split
      · next within => exact ⟨Nat.le_refl _, within, trivial⟩
      · trivial
  | cons range rest induction =>
      obtain ⟨low, nonempty, later⟩ := increasing
      have following := induction (later.mono (show range.2 + 1 ≤ range.2 + 2 by omega))
      rw [gapsFrom]
      split
      · exact ⟨Nat.le_refl _, by simp only; omega, following.mono (by simp only; omega)⟩
      · exact following.mono (by omega)

end TokenGrammar.Unicode
