import TokenGrammar.Json.Scanning
import TokenGrammar.Json.Value

/-! # Reading JSON

Lists and objects are read item by item and member by member, so that the first fault in the text is
the one reported, be it one of form or one of the shape of a value.

* `Json.Reading.foldItems`, `Json.Reading.foldMembers`: run a reader over the items of a list or the
  members of an object.
* `Json.Reading.boolean`, `Json.Reading.text`: a value of a given shape.
* `Json.Reading.value`: any value.
* `Json.Reading.skipValue`: a value that does not matter, of which only the form is checked. -/

namespace TokenGrammar.Json.Reading

/-- The most values that may stand within each other, counting the innermost. -/
def recursionLimit : Nat :=
  128

/-! ## Lists and objects -/

/-- Find the next item of a list: the text from it on, or nothing before the closing bracket. -/
def nextItem? (first : Bool) (input : Input) : Except ReadError (Option Input) :=
  match skipSpace input with
  | [] => .error .endInList
  | some ']' :: _ => .ok none
  | next :: rest =>
      if first then .ok (some (next :: rest))
      else if next = some ',' then
        match skipSpace rest with
        | [] => .error .endInValue
        | some ']' :: _ => .error .trailingComma
        | item => .ok (some item)
      else .error .expectedListEnd

/-- Run a reader over the items of a list, from a given state on, up to the closing bracket. The
bound is above the length of the text. -/
def foldItems {σ : Type} (step : σ → Input → Except ReadError (σ × Input)) :
    Nat → (first : Bool) → σ → Input → Except ReadError (σ × Input)
  | 0, _, _, _ => .error .endInList
  | bound + 1, first, state, input => do
      match ← nextItem? first input with
      | none => pure (state, input)
      | some item =>
          let (next, rest) ← step state item
          foldItems step bound false next rest

/-- Read the closing bracket of a list. -/
def endList (input : Input) : Except ReadError Input :=
  match skipSpace input with
  | [] => .error .endInList
  | some ']' :: rest => .ok rest
  | some ',' :: rest =>
      if startsWith ']' (skipSpace rest) then .error .trailingComma
      else .error .trailingCharacters
  | _ => .error .trailingCharacters

/-- Find the next member of an object: its name and the text after that, or nothing before the
closing brace. -/
def nextKey? (first : Bool) (input : Input) : Except ReadError (Option (String × Input)) :=
  let key (rest : Input) : Except ReadError (Option (String × Input)) :=
    match rest with
    | [] => .error .endInValue
    | some '"' :: body => do pure (some (← stringBody body))
    | some '\x7d' :: _ => .error .trailingComma
    | _ => .error .keyMustBeString
  match skipSpace input with
  | [] => .error .endInObject
  | some '\x7d' :: _ => .ok none
  | next :: rest =>
      if first then key (next :: rest)
      else if next = some ',' then key (skipSpace rest)
      else .error .expectedObjectEnd

/-- Read the colon between the name and the value of a member. -/
def colon (input : Input) : Except ReadError Input :=
  match skipSpace input with
  | [] => .error .endInObject
  | next :: rest => if next = some ':' then .ok rest else .error .expectedColon

/-- Run a reader over the members of an object, from a given state on, up to the closing brace. The
reader starts after the name. The bound is above the length of the text. -/
def foldMembers {σ : Type} (step : σ → String → Input → Except ReadError (σ × Input)) :
    Nat → (first : Bool) → σ → Input → Except ReadError (σ × Input)
  | 0, _, _, _ => .error .endInObject
  | bound + 1, first, state, input => do
      match ← nextKey? first input with
      | none => pure (state, input)
      | some (name, rest) =>
          let (next, remaining) ← step state name rest
          foldMembers step bound false next remaining

/-- Read the closing brace of an object. -/
def endObject (input : Input) : Except ReadError Input :=
  match skipSpace input with
  | [] => .error .endInObject
  | some '\x7d' :: rest => .ok rest
  | some ',' :: _ => .error .trailingComma
  | _ => .error .trailingCharacters

/-! ## Values of a given shape -/

/-- The fault of a value that is not of the expected shape. A value that cannot be read has a fault
of its own. -/
def mismatch (expected : String) (input : Input) : ReadError :=
  let report (shape : Except ReadError Shape) : ReadError :=
    match shape with
    | .ok found => .invalidType found expected
    | .error error => error
  match input with
  | some 'n' :: rest => report ((word ['u', 'l', 'l'] rest).map fun _ => .null)
  | some 't' :: rest => report ((word ['r', 'u', 'e'] rest).map fun _ => .boolean true)
  | some 'f' :: rest => report ((word ['a', 'l', 's', 'e'] rest).map fun _ => .boolean false)
  | some '-' :: rest => report ((number true rest).map (·.1.shape))
  | some '"' :: rest => report ((stringBody rest).map (.string ·.1))
  | some '[' :: _ => report (.ok .sequence)
  | some '\x7b' :: _ => report (.ok .map)
  | _ =>
      if (digit? input).isSome then report ((number false input).map (·.1.shape))
      else .expectedValue

/-- Read a truth value. -/
def boolean (input : Input) : Except ReadError (Bool × Input) :=
  match skipSpace input with
  | [] => .error .endInValue
  | some 't' :: rest => do pure (true, ← word ['r', 'u', 'e'] rest)
  | some 'f' :: rest => do pure (false, ← word ['a', 'l', 's', 'e'] rest)
  | other => .error (mismatch "a boolean" other)

/-- Read a string. -/
def text (input : Input) : Except ReadError (String × Input) :=
  match skipSpace input with
  | [] => .error .endInValue
  | some '"' :: rest => stringBody rest
  | other => .error (mismatch "a string" other)

/-! ## Any value -/

/-- Read a value within which `depth` more values may stand, itself included. The bound is above
the length of the text. -/
def valueUpTo : (bound depth : Nat) → Input → Except ReadError (Json × Input)
  | 0, _, _ => .error .endInValue
  | bound + 1, depth, input =>
      let inner := valueUpTo bound (depth - 1)
      match skipSpace input with
      | [] => .error .endInValue
      | some 'n' :: rest => do pure (.null, ← word ['u', 'l', 'l'] rest)
      | some 't' :: rest => do pure (.bool true, ← word ['r', 'u', 'e'] rest)
      | some 'f' :: rest => do pure (.bool false, ← word ['a', 'l', 's', 'e'] rest)
      | some '"' :: rest => do
          let (text, remaining) ← stringBody rest
          pure (.string text, remaining)
      | some '-' :: rest => do
          let (number, remaining) ← number true rest
          pure (.number number.shape.describe, remaining)
      | some '[' :: rest => do
          if depth ≤ 1 then throw .recursionLimit
          let (items, remaining) ← foldItems
            (fun items item => do
              let (value, after) ← inner item
              pure (items ++ [value], after))
            (rest.length + 1) true [] rest
          pure (.array items, ← endList remaining)
      | some '\x7b' :: rest => do
          if depth ≤ 1 then throw .recursionLimit
          let (members, remaining) ← foldMembers
            (fun members name item => do
              let (value, after) ← inner (← colon item)
              pure (members ++ [(name, value)], after))
            (rest.length + 1) true [] rest
          pure (.object members, ← endObject remaining)
      | other =>
          if (digit? other).isSome then do
            let (number, remaining) ← number false other
            pure (.number number.shape.describe, remaining)
          else .error .expectedValue

/-- Read a value within which `depth` more values may stand, itself included. -/
def value (depth : Nat) (input : Input) : Except ReadError (Json × Input) :=
  valueUpTo (input.length + 1) depth input

/-! ## Values that do not matter -/

/-- A list or object whose end has not been read. -/
inductive Frame where
  /-- A list. -/
  | list
  /-- An object. -/
  | object
  deriving DecidableEq

/-- The character that ends a list or object. -/
def Frame.closing : Frame → Char
  | .list => ']'
  | .object => '\x7d'

/-- The fault of a text that ends within a list or object. -/
def Frame.unfinished : Frame → ReadError
  | .list => .endInList
  | .object => .endInObject

/-- The fault of an item or member with neither comma nor end after it. -/
def Frame.unseparated : Frame → ReadError
  | .list => .expectedListEnd
  | .object => .expectedObjectEnd

/-- Skip to the next value of a list or object: in an object, past the name and the colon. -/
def Frame.skipToValue (frame : Frame) (input : Input) : Except ReadError Input :=
  match frame with
  | .list => .ok input
  | .object =>
      match skipSpace input with
      | [] => .error .endInObject
      | some '"' :: rest => do colon (← skipString rest)
      | _ => .error .keyMustBeString

/-- Skip what follows in the lists and objects around, the innermost first, up to the next value.
The result has no frames if the outermost has ended. `started` tells whether a value has been read
in the innermost one. -/
def skipToNext : List Frame → (started : Bool) → Input → Except ReadError (List Frame × Input)
  | [], _, input => .ok ([], input)
  | frame :: outer, started, input =>
      match skipSpace input with
      | [] => .error frame.unfinished
      | next :: rest =>
          if started && next == some ',' then do
            pure (frame :: outer, ← frame.skipToValue rest)
          else if next = some frame.closing then skipToNext outer true rest
          else if started then .error frame.unseparated
          else do pure (frame :: outer, ← frame.skipToValue (next :: rest))

/-- Skip the start of a value: all of it, or the opening of a list or object. -/
def skipStart (input : Input) : Except ReadError (Option Frame × Input) :=
  match skipSpace input with
  | [] => .error .endInValue
  | some 'n' :: rest => do pure (none, ← word ['u', 'l', 'l'] rest)
  | some 't' :: rest => do pure (none, ← word ['r', 'u', 'e'] rest)
  | some 'f' :: rest => do pure (none, ← word ['a', 'l', 's', 'e'] rest)
  | some '-' :: rest => do pure (none, ← skipNumber rest)
  | some '"' :: rest => do pure (none, ← skipString rest)
  | some '[' :: rest => .ok (some .list, rest)
  | some '\x7b' :: rest => .ok (some .object, rest)
  | other =>
      if (digit? other).isSome then do pure (none, ← skipNumber other) else .error .expectedValue

/-- Skip a value within given lists and objects, and the rest of those. The bound is above the
length of the text. -/
def skipWithin : Nat → List Frame → Input → Except ReadError Input
  | 0, _, _ => .error .endInValue
  | bound + 1, frames, input => do
      let (frame, rest) ← skipStart input
      let (remaining, next) ← skipToNext (frame.toList ++ frames) frame.isNone rest
      match remaining with
      | [] => pure next
      | _ :: _ => skipWithin bound remaining next

/-- Skip a value that does not matter. -/
def skipValue (input : Input) : Except ReadError Input :=
  skipWithin (input.length + 1) [] input

end TokenGrammar.Json.Reading
