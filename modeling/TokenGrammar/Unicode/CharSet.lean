import TokenGrammar.Text.Numeral
import TokenGrammar.Unicode.Range

/-! # Sets of characters

* `Unicode.CharSet`: sets as ranges of code points, so that sets with the same characters are equal.
* `Unicode.CharSet.contains`: membership.
* `Unicode.CharSet.ofRanges`, `Unicode.CharSet.ofLines`: sets from ranges and from lines of text.
* `Unicode.CharSet.union`, `Unicode.CharSet.complement`: the operations that the others are made of.
* `Unicode.CharSet.contains_union`, `Unicode.CharSet.contains_complement`: their meaning. -/

namespace TokenGrammar.Unicode

/-- A set of characters. -/
structure CharSet where
  /-- The code points. -/
  ranges : List Range
  /-- Each set has one list of ranges. -/
  increasing : Increasing 0 ranges
  deriving DecidableEq

/-- The code points that are no characters. -/
def surrogates : List Range :=
  [(0xD800, 0xDFFF)]

theorem increasing_surrogates : Increasing 0 surrogates := by
  decide

/-- The nonempty ones of a list of ranges, in the order of their starts. -/
def inOrder (ranges : List Range) : List Range :=
  ranges.foldr (fun range rest => if range.1 ≤ range.2 then mergeStarts [range] rest else rest) []

theorem ascending_inOrder (ranges : List Range) : Ascending 0 (inOrder ranges) := by
  induction ranges with
  | nil => trivial
  | cons range rest induction =>
      rw [inOrder, List.foldr_cons]
      split
      · next nonempty =>
          exact Ascending.mergeStarts ⟨Nat.zero_le _, nonempty, trivial⟩ induction
      · exact induction

/-- Read ranges, after the start `low` of one whose dash has been read and the digits that make up
`number`. -/
def readRanges (low number : Option Nat) : List Char → List Range
  | [] => (number.map fun last => (low.getD last, last)).toList
  | c :: rest =>
      match Numeral.hexDigit? c with
      | some digit => readRanges low (some (16 * number.getD 0 + digit)) rest
      | none =>
          if c = '-' then readRanges number none rest
          else (number.map fun last => (low.getD last, last)).toList ++ readRanges none none rest

namespace CharSet

/-- No character. -/
def empty : CharSet :=
  ⟨[], trivial⟩

/-- Whether a set contains a character. -/
def contains (set : CharSet) (c : Char) : Bool :=
  search c.toNat set.ranges

/-- One character. -/
def single (c : Char) : CharSet :=
  ⟨[(c.toNat, c.toNat)], Nat.zero_le _, Nat.le_refl _, trivial⟩

/-- Whether a set has one character and no other. -/
def isSingle (set : CharSet) : Bool :=
  match set.ranges with
  | [range] => range.1 == range.2
  | _ => false

/-- Whether all characters of a set are below a bound. -/
def isBelow (set : CharSet) (bound : Nat) : Bool :=
  set.ranges.all (·.2 < bound)

/-- The code points of several ranges, in any order. -/
def ofRanges (ranges : List Range) : CharSet :=
  ⟨joinTouching (inOrder ranges), increasing_joinTouching (ascending_inOrder ranges)⟩

/-- The characters between two code points, both included. -/
def between (first last : Nat) : CharSet :=
  .ofRanges [(first, min last 0xD7FF), (max first 0xE000, last)]

/-- The code points that lines of text list: ranges `lo-hi` and single code points in hexadecimal,
separated by spaces. -/
def ofLines (lines : List String) : CharSet :=
  .ofRanges (lines.flatMap fun line => readRanges none none line.toList)

/-- The characters of either set. -/
def union (left right : CharSet) : CharSet :=
  ⟨joinRanges left.ranges right.ranges,
    increasing_joinRanges left.increasing.ascending right.increasing.ascending⟩

/-- The characters of any set in a list. -/
def unionAll (sets : List CharSet) : CharSet :=
  sets.foldr union empty

/-- All characters but those of the set. -/
def complement (set : CharSet) : CharSet :=
  ⟨gapsFrom 0 (joinRanges set.ranges surrogates),
    increasing_gapsFrom
      (increasing_joinRanges set.increasing.ascending increasing_surrogates.ascending)⟩

/-- Every character. -/
def all : CharSet :=
  empty.complement

/-- The characters of both sets. -/
def intersection (left right : CharSet) : CharSet :=
  (left.complement.union right.complement).complement

/-- The characters of the first set alone. -/
def difference (left right : CharSet) : CharSet :=
  (left.complement.union right).complement

/-- The characters of exactly one of two sets. -/
def symmetricDifference (left right : CharSet) : CharSet :=
  (left.difference right).union (right.difference left)

theorem contains_iff {set : CharSet} {c : Char} :
    set.contains c = true ↔ HoldsIn c.toNat set.ranges :=
  search_eq_true_iff set.increasing

@[simp] theorem contains_empty (c : Char) : empty.contains c = false := rfl

/-- A set of one character contains that one. -/
@[simp] theorem contains_single {c d : Char} : (single c).contains d = (c == d) := by
  rw [Bool.eq_iff_iff, contains_iff, beq_iff_eq, ← Char.toNat_inj]
  simp only [single, holdsIn_cons, not_holdsIn_nil, or_false]
  omega

@[simp] theorem isSingle_single (c : Char) : (single c).isSingle = true := by
  simp [isSingle, single]

@[simp] theorem contains_union (left right : CharSet) (c : Char) :
    (left.union right).contains c = (left.contains c || right.contains c) := by
  rw [Bool.eq_iff_iff, Bool.or_eq_true, contains_iff, contains_iff, contains_iff]
  exact holdsIn_joinRanges left.increasing.ascending right.increasing.ascending

/-- A character is no surrogate. -/
theorem not_holdsIn_surrogates (c : Char) : ¬ HoldsIn c.toNat surrogates := by
  have valid := c.valid
  simp only [surrogates, holdsIn_cons, not_holdsIn_nil, or_false, Char.toNat]
  simp only [UInt32.isValidChar, Nat.isValidChar] at valid
  omega

/-- A character is no later than the last code point. -/
theorem toNat_le_lastCodePoint (c : Char) : c.toNat ≤ lastCodePoint := by
  have valid := c.valid
  simp only [UInt32.isValidChar, Nat.isValidChar] at valid
  simp only [lastCodePoint, Char.toNat]
  omega

@[simp] theorem contains_complement (set : CharSet) (c : Char) :
    set.complement.contains c = !set.contains c := by
  have increasing :=
    increasing_joinRanges set.increasing.ascending increasing_surrogates.ascending
  rw [Bool.eq_iff_iff, contains_iff, complement,
    holdsIn_gapsFrom (toNat_le_lastCodePoint c) increasing,
    holdsIn_joinRanges set.increasing.ascending increasing_surrogates.ascending, ← contains_iff]
  simp [not_holdsIn_surrogates c]

@[simp] theorem contains_intersection (left right : CharSet) (c : Char) :
    (left.intersection right).contains c = (left.contains c && right.contains c) := by
  simp [intersection]

@[simp] theorem contains_difference (left right : CharSet) (c : Char) :
    (left.difference right).contains c = (left.contains c && !right.contains c) := by
  simp [difference]

/-- A union of many contains what one of them contains. -/
theorem contains_unionAll (sets : List CharSet) (c : Char) :
    (unionAll sets).contains c = sets.any (·.contains c) := by
  induction sets with
  | nil => rfl
  | cons set sets induction =>
      rw [unionAll, List.foldr_cons, contains_union, List.any_cons, ← induction, unionAll]

end CharSet

end TokenGrammar.Unicode
