import TokenGrammar.Unicode.WhiteSpace

/-! # Spacing within patterns

Under the flag `x` white space and comments in a pattern mean nothing. A comment runs from a number
sign to the end of the line.

* `Regex.skipSpacing`: the pattern from its next character that means something.
* `Regex.takeSpaced`: a run of characters with spacing between them.
* `Regex.peekSpaced?`: a look past the current character. -/

namespace TokenGrammar.Regex

open Unicode (isWhiteSpace)

/-- The text after white space and comments, where `inComment` tells whether it starts within
one. -/
def dropSpacing : (inComment : Bool) → List Char → List Char
  | _, [] => []
  | true, c :: rest => dropSpacing (c != '\n') rest
  | false, c :: rest =>
      if isWhiteSpace c then dropSpacing false rest
      else if c = '#' then dropSpacing true rest
      else c :: rest

/-- The pattern from its next character that means something. Without the flag `x` every
character does. -/
def skipSpacing (verbose : Bool) (text : List Char) : List Char :=
  if verbose then dropSpacing false text else text

/-- The longest run of accepted characters, with spacing skipped after each, and the rest. The
bound is the length of the text. -/
def takeSpacedUpTo (verbose : Bool) (accept : Char → Bool) :
    Nat → List Char → List Char × List Char
  | bound + 1, c :: rest =>
      if accept c then
        let (run, remaining) := takeSpacedUpTo verbose accept bound (skipSpacing verbose rest)
        (c :: run, remaining)
      else ([], c :: rest)
  | _, text => ([], text)

/-- The longest run of accepted characters, with spacing skipped after each, and the rest. -/
def takeSpaced (verbose : Bool) (accept : Char → Bool) (text : List Char) :
    List Char × List Char :=
  takeSpacedUpTo verbose accept text.length text

/-- The first character that is neither white space nor the number sign of the first comment. -/
def firstSolid? : (inComment : Bool) → List Char → Option Char
  | _, [] => none
  | inComment, c :: rest =>
      if isWhiteSpace c then firstSolid? inComment rest
      else if !inComment && c = '#' then firstSolid? true rest
      else some c

/-- The character after the current one: under the flag `x` the first one that is no spacing, if
there is one. -/
def peekSpaced? (verbose : Bool) (following : List Char) : Option Char :=
  if verbose then (firstSolid? false following).or following.head? else following.head?

@[simp] theorem skipSpacing_false (text : List Char) : skipSpacing false text = text := rfl

theorem length_dropSpacing_le (inComment : Bool) (text : List Char) :
    (dropSpacing inComment text).length ≤ text.length := by
  induction text generalizing inComment with
  | nil => cases inComment <;> simp [dropSpacing]
  | cons c rest induction =>
      cases inComment with
      | true => exact Nat.le_succ_of_le (induction _)
      | false =>
          simp only [dropSpacing]
          split
          · exact Nat.le_succ_of_le (induction _)
          · split
            · exact Nat.le_succ_of_le (induction _)
            · exact Nat.le_refl _

/-- Skipping spacing never lengthens a text. -/
theorem length_skipSpacing_le (verbose : Bool) (text : List Char) :
    (skipSpacing verbose text).length ≤ text.length := by
  cases verbose with
  | false => exact Nat.le_refl _
  | true => exact length_dropSpacing_le false text

end TokenGrammar.Regex
