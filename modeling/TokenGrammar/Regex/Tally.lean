import Std.Data.HashMap
import TokenGrammar.Text.BytePaths
import TokenGrammar.Unicode.CharSet

/-! # Counting the states of automata

The automata that match a pattern read UTF-8 byte by byte, forwards or backwards. Their states are
numbered as they are made. A state of a class that does the same as an earlier one is not made
again, as long as the earlier one is remembered.

* `Regex.Tally`: how many states there are so far, and what they take.
* `Regex.ClassTally.state`: a state of a class, made or remembered.
* `Regex.Tally.addSet`: the states of a set. -/

namespace TokenGrammar.Regex

open Text (BytePath utf8Paths)
open Unicode (CharSet Range)

/-- Bytes of a state. -/
def stateBytes : Nat :=
  32

/-- Further bytes for each step of a state that has several. -/
def stepBytes : Nat :=
  8

/-- Further bytes for each way out of a branching. -/
def wayBytes : Nat :=
  4

/-- The most bytes that an automaton may take. -/
def sizeLimit : Nat :=
  10 * 1024 * 1024

/-- The states of an automaton so far. -/
structure Tally where
  /-- Their number, which is the number of the next one. -/
  states : Nat
  /-- Further bytes for their steps and ways. -/
  further : Nat
  deriving DecidableEq

namespace Tally

/-- No states. -/
def start : Tally :=
  ⟨0, 0⟩

/-- The bytes that the states take. -/
def bytes (tally : Tally) : Nat :=
  stateBytes * tally.states + tally.further

/-- Whether the states keep to the limit. -/
def fits (tally : Tally) : Bool :=
  tally.bytes ≤ sizeLimit

/-- A state more, with further bytes for its steps and ways. -/
def add (tally : Tally) (further : Nat) : Tally :=
  ⟨tally.states + 1, tally.further + further⟩

/-- A way more out of a branching that is there. -/
def addWay (tally : Tally) : Tally :=
  { tally with further := tally.further + wayBytes }

@[simp] theorem bytes_start : start.bytes = 0 := rfl

@[simp] theorem bytes_add (tally : Tally) (further : Nat) :
    (tally.add further).bytes = tally.bytes + stateBytes + further := by
  simp only [bytes, add, Nat.mul_add, Nat.mul_one]
  omega

@[simp] theorem bytes_addWay (tally : Tally) : tally.addWay.bytes = tally.bytes + wayBytes :=
  (Nat.add_assoc ..).symm

end Tally

/-! ## Remembered states -/

/-- What a state of a class does: its steps, each from a first to a last byte and with the number
of the state where it leads. -/
abbrev Steps := List Nat

/-- The states of an automaton while those of a class are made. -/
structure ClassTally where
  /-- The states so far. -/
  tally : Tally
  /-- The places of the memory that are taken, each by the steps of a state and its number. -/
  memory : Std.HashMap Nat (Steps × Nat)

/-- The place for a state in a memory of some places. States at one place displace each other. -/
def placeOf (places : Nat) (steps : Steps) : Nat :=
  let mixed := steps.foldl (fun mixed part => (mixed ^^^ part.toUInt64) * 1099511628211)
    (14695981039346656037 : UInt64)
  mixed.toNat % places

namespace ClassTally

/-- Remember the next state at a place, and make it. -/
def make (further : Nat) (steps : Steps) (place : Nat) : ClassTally → Nat × ClassTally
  | ⟨tally, memory⟩ =>
      (tally.states, ⟨tally.add further, memory.insert place (steps, tally.states)⟩)

/-- The number of a state, which is made unless it is remembered. -/
def state (places further : Nat) (steps : Steps) (made : ClassTally) : Nat × ClassTally :=
  let place := placeOf places steps
  match made.memory[place]? with
  | none => made.make further steps place
  | some (known, number) =>
      if known = steps then (number, made) else made.make further steps place

end ClassTally

/-! ## Classes -/

/-- Paths that follow each other and start with the same range, as that range with their rests. -/
def groupFirst : List BytePath → List (Range × List BytePath)
  | [] => []
  | [] :: paths => groupFirst paths
  | (range :: path) :: paths =>
      match groupFirst paths with
      | [] => [(range, [path])]
      | (next, rests) :: groups =>
          if next = range then (range, path :: rests) :: groups
          else (range, [path]) :: (next, rests) :: groups

/-- How many states a class remembers when it is read forwards. -/
def forwardPlaces : Nat :=
  10000

/-- How many states a class remembers when it is read backwards. -/
def backwardPlaces : Nat :=
  1000

/-- The number of the state before paths of at most `depth` bytes to the state `last`. The states
after it are made first. -/
def forwardState (last : Nat) : (depth : Nat) → List BytePath → ClassTally → Nat × ClassTally
  | 0, _, made => (last, made)
  | depth + 1, paths, made =>
      match groupFirst paths with
      | [] => (last, made)
      | groups =>
          let (steps, made) := groups.foldl (fun (steps, made) (range, rests) =>
            let (next, made) := forwardState last depth rests made
            (steps ++ [range.1, range.2, next], made)) ([], made)
          made.state forwardPlaces (stepBytes * groups.length) steps

/-- The states of a path that is read backwards to the state `last`, and a way to it. -/
def addBackwardPath (last : Nat) (made : ClassTally) (path : BytePath) : ClassTally :=
  let (_, made) := path.foldl (fun (next, made) range =>
    made.state backwardPlaces 0 [next, range.1, range.2]) (last, made)
  { made with tally := made.tally.addWay }

namespace Tally

/-- The states of a class that is read forwards: its end, and those that lead there. -/
def addClass (tally : Tally) (paths : List BytePath) : Tally :=
  (forwardState tally.states 4 paths ⟨tally.add 0, ∅⟩).2.tally

/-- The states of a class that is read backwards: a branching, its end, and those between. -/
def addBackwardClass (tally : Tally) (paths : List BytePath) : Tally :=
  (paths.foldl (addBackwardPath (tally.states + 1)) ⟨(tally.add 0).add 0, ∅⟩).tally

/-- A number of states without further bytes. -/
def addPlain (tally : Tally) (count : Nat) : Tally :=
  { tally with states := tally.states + count }

/-- The states of a set: a character is read byte by byte, and a class within ASCII in one step. -/
def addSet (backward : Bool) (members : CharSet) (tally : Tally) : Tally :=
  let paths := utf8Paths members.ranges
  if members.isSingle then tally.addPlain paths.flatten.length
  else if members.isBelow 0x80 then (tally.add 0).add (stepBytes * paths.length)
  else if backward then tally.addBackwardClass paths
  else tally.addClass paths

end Tally

end TokenGrammar.Regex
