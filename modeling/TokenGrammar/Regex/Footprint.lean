import TokenGrammar.Regex.Composition
import TokenGrammar.Regex.Tally

/-! # Size limit of patterns

A pattern may take ten megabytes, measured on the automata that match it: one that reads a match
forwards and one that reads it backwards. Counted repetitions are written out in them, and so a
short pattern can be too large.

* `Regex.Expr.tally`: the states of an expression.
* `Regex.Expr.bound`: bytes that an expression does not exceed.
* `Regex.Expr.fits`: whether an expression keeps to the limit. -/

namespace TokenGrammar.Regex

open Text (utf8Paths)

/-! ## Words -/

/-- Words up to where one ends, and so on. -/
def splitAtEnds : List (List Nat) → List (List (List Nat))
  | [] => [[]]
  | [] :: words => [] :: splitAtEnds words
  | word :: words =>
      match splitAtEnds words with
      | [] => [[word]]
      | chunk :: chunks => (word :: chunk) :: chunks

/-- The rests of words after each of the bytes that they start with. -/
def restsByFirst (words : List (List Nat)) : List (List (List Nat)) :=
  (words.filterMap List.head?).eraseDups.map fun byte =>
    (words.filter (·.head? == some byte)).map List.tail

namespace Tally

/-- The states of a choice between words of at most `depth` bytes, without its end. Words with the
same first byte share a state, unless another word ends between them; of the words that end before
all others one counts. -/
def addWordTree : (depth : Nat) → List (List Nat) → Tally → Tally
  | 0, _, tally => tally
  | depth + 1, words, tally =>
      if words.all List.isEmpty then tally
      else
        let ends := words.countP List.isEmpty - ((words.takeWhile List.isEmpty).length - 1)
        let chunks := ((splitAtEnds words).map restsByFirst).filter (!·.isEmpty)
        chunks.foldl (fun tally rests =>
          let steps := if rests.length = 1 then 0 else rests.length
          rests.foldl (fun tally rest => addWordTree depth rest tally)
            (tally.add (stepBytes * steps)))
          (tally.add (wayBytes * (chunks.length + ends)))

/-- The states of a choice between words. Backwards, words are read from their ends. -/
def addWords (backward : Bool) (words : List (List Nat)) (tally : Tally) : Tally :=
  let depth := (words.map List.length).foldl max 0 + 1
  (tally.add 0).addWordTree depth (if backward then words.map List.reverse else words)

/-! ## Repetitions -/

/-- The states of a branching with two ways. -/
def addFork (tally : Tally) : Tally :=
  tally.add (2 * wayBytes)

/-- The states of a body a number of times, as far as they keep to the limit. -/
def addCopies (body : Tally → Tally) : (count : Nat) → Tally → Tally
  | 0, tally => tally
  | count + 1, tally => if tally.fits then addCopies body count (body tally) else tally

/-- The states of a repetition, each round of which is written out. -/
def addRepetition (body : Tally → Tally) (min : Nat) (max : Option Nat) (consumes : Bool)
    (tally : Tally) : Tally :=
  match min, max with
  | 0, some 1 => (body tally.addFork).add 0
  | 0, none => if consumes then body tally.addFork else (body tally).addFork.addFork.add 0
  | min, none => (addCopies body min tally).addFork
  | min, some max =>
      if min = max then addCopies body min tally
      else
        let least := if min = 0 then tally.add 0 else addCopies body min tally
        addCopies (fun tally => body tally.addFork) (max - min) (least.add 0)

end Tally

/-! ## Expressions -/

/-- How an expression stands to a choice. -/
inductive Standing where
  /-- It is on its own. -/
  | alone
  /-- It is the second member. -/
  | second
  /-- It is another member. -/
  | other
  deriving DecidableEq

/-- What the choice adds after a member: a way, and after the second one the branching and where it
ends. -/
def Standing.close : Standing → Tally → Tally
  | .alone, tally => tally
  | .second, tally => (tally.addWay.add 0).add 0
  | .other, tally => tally.addWay

namespace Expr

/-- The bytes of a word, if an expression consists of characters alone. -/
def word? (expr : Expr) : Option (List Nat) :=
  match expr.parts.mapM character? with
  | none | some [] => none
  | some sets => some (sets.flatMap fun members => (utf8Paths members.ranges).flatten.map (·.1))

/-- The states of an expression. Read backwards, sequences start at their ends and groups are not
remembered. -/
def tally (backward : Bool) : Expr → Standing → Tally → Tally
  | .empty, standing, states => standing.close (states.add 0)
  | .set members, standing, states => standing.close (states.addSet backward members)
  | .assertion _, standing, states => standing.close (states.add 0)
  | .sequence first second, standing, states =>
      standing.close <|
        if backward then first.tally backward .alone (second.tally backward .alone states)
        else second.tally backward .alone (first.tally backward .alone states)
  | .alternative first second, .alone, states =>
      match (first.choices ++ second.choices).mapM word? with
      | some words => states.addWords backward words
      | none => second.tally backward .second (first.tally backward .other states)
  | .alternative first second, standing, states =>
      second.tally backward .other (first.tally backward standing states)
  | .repetition min max _ body, standing, states =>
      standing.close (states.addRepetition (body.tally backward .alone) min max body.consumes)
  | .capture _ _ body, standing, states =>
      standing.close <|
        if backward then body.tally backward .alone states
        else (body.tally backward .alone (states.add 0)).add 0

/-- Whether every match starts at the start of the text. -/
def isAnchored : Expr → Bool
  | .assertion condition => condition == .textStart
  | .sequence first second => first.isAnchored || (first.zeroWidth && second.isAnchored)
  | .alternative first second => first.isAnchored && second.isAnchored
  | .repetition min _ _ body => min != 0 && body.isAnchored
  | .capture _ _ body => body.isAnchored
  | _ => false

/-- Whether every match ends at the end of the text. -/
def isAnchoredAtEnd : Expr → Bool
  | .assertion condition => condition == .textEnd
  | .sequence first second =>
      second.isAnchoredAtEnd || (second.zeroWidth && first.isAnchoredAtEnd)
  | .alternative first second => first.isAnchoredAtEnd && second.isAnchoredAtEnd
  | .repetition min _ _ body => min != 0 && body.isAnchoredAtEnd
  | .capture _ _ body => body.isAnchoredAtEnd
  | _ => false

/-- The states of the automaton of an expression: a loop to where a match can start, unless that is
known, the expression as a group, and a state for the match. -/
def automaton (backward : Bool) (expr : Expr) : Tally :=
  let known := if backward then expr.isAnchoredAtEnd else expr.isAnchored
  let search := if known then Tally.start.add 0 else (Tally.start.addFork.add 0).add stepBytes
  ((Expr.capture 0 none expr).tally backward .alone search).add 0

/-! ## A bound -/

/-- Bytes that an expression does not exceed, as if classes shared no states. -/
def bound : Expr → Nat
  | .empty | .assertion _ => stateBytes
  | .set members =>
      let paths := utf8Paths members.ranges
      2 * stateBytes + (2 * stateBytes + stepBytes + wayBytes) * paths.flatten.length
  | .sequence first second => first.bound + second.bound
  | .alternative first second => first.bound + second.bound + 2 * (stateBytes + wayBytes)
  | .repetition min max _ body =>
      let rounds := (max.getD min).max 1
      rounds * (body.bound + stateBytes + 2 * wayBytes) + 3 * (stateBytes + 2 * wayBytes)
  | .capture _ _ body => body.bound + 2 * stateBytes

/-- Whether an expression keeps to the limit. Mostly the bound shows that it does. -/
def fits (expr : Expr) : Bool :=
  expr.bound + 8 * stateBytes ≤ sizeLimit ||
    ((expr.automaton false).fits && (expr.automaton true).fits)

end Expr

end TokenGrammar.Regex
