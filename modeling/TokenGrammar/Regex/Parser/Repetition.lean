import TokenGrammar.Regex.Parser.Spacing
import TokenGrammar.Regex.PatternError
import TokenGrammar.Text.Numeral

/-! # Counts of repetitions

* `Regex.RepetitionCount`: how often a repetition may match, and whether it is marked to prefer
  fewer.
* `Regex.parseCount`: read a count in braces, after the opening one. -/

namespace TokenGrammar.Regex

/-- How often a repetition may match, and whether it is marked to prefer fewer. -/
structure RepetitionCount where
  /-- The least number of matches. -/
  min : Nat
  /-- The largest number of matches, if there is one. -/
  max : Option Nat
  /-- Whether a question mark follows. -/
  lazy : Bool

/-- The number below 2^32 that digits denote. -/
def countOfDigits (digits : List Char) : Except PatternError Nat :=
  match Numeral.decimal? digits with
  | none => .error .repetitionCountEmpty
  | some n => if n < 0x100000000 then .ok n else .error .decimalInvalid

/-- Read a number, with white space before and after it. -/
def parseDecimal (verbose : Bool) (text : List Char) :
    Except PatternError Nat × List Char :=
  let (digits, rest) := takeSpaced verbose Char.isDigit (text.dropWhile Unicode.isWhiteSpace)
  (countOfDigits digits, (takeSpaced verbose Unicode.isWhiteSpace rest).2)

/-- Read the question mark that may follow a count. -/
def parseLazyMark (verbose : Bool) (text : List Char) : Bool × List Char :=
  match skipSpacing verbose text with
  | '?' :: rest => (true, rest)
  | rest => (false, rest)

/-- A count must not end before it starts. -/
def RepetitionCount.check (count : RepetitionCount) : Except PatternError RepetitionCount :=
  if count.max.all (count.min ≤ ·) then .ok count else .error .repetitionCountInvalid

/-- Read the end of a count: the closing brace, and the question mark that may follow. -/
def parseCountEnd (verbose : Bool) (min : Nat) (max : Option Nat) (text : List Char) :
    Except PatternError (RepetitionCount × List Char) :=
  match text with
  | '\x7d' :: rest => do
      let (lazy, remaining) := parseLazyMark verbose rest
      let count ← RepetitionCount.check ⟨min, max, lazy⟩
      pure (count, remaining)
  | _ => .error .repetitionCountUnclosed

/-- Read the rest of a count after its comma, given the number before. -/
def parseCountMax (verbose : Bool) (first : Except PatternError Nat) (text : List Char) :
    Except PatternError (RepetitionCount × List Char) :=
  match skipSpacing verbose text with
  | [] => .error .repetitionCountUnclosed
  | '\x7d' :: rest => do
      let min ← first
      parseCountEnd verbose min none ('\x7d' :: rest)
  | second => do
      let min ← first
      let (last, remaining) := parseDecimal verbose second
      let max ← last
      parseCountEnd verbose min (some max) remaining

/-- Read the rest of a count after its first number. A fault of the number counts only if the text
goes on. -/
def parseCountAfter (verbose : Bool) (first : Except PatternError Nat) :
    List Char → Except PatternError (RepetitionCount × List Char)
  | [] => .error .repetitionCountUnclosed
  | ',' :: following => parseCountMax verbose first following
  | text => do
      let count ← first
      parseCountEnd verbose count (some count) text

/-- Read a count in braces, after the opening one. -/
def parseCount (verbose : Bool) (text : List Char) :
    Except PatternError (RepetitionCount × List Char) :=
  match skipSpacing verbose text with
  | [] => .error .repetitionCountUnclosed
  | start =>
      let (first, rest) := parseDecimal verbose start
      parseCountAfter verbose first rest

end TokenGrammar.Regex
