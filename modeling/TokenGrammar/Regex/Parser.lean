import TokenGrammar.Regex.Parser.Brackets
import TokenGrammar.Regex.Parser.GroupOpening
import TokenGrammar.Regex.Parser.Repetition

/-! # Reading patterns

* `Regex.parseMove`: the next piece of a pattern, as what it does.
* `Regex.PatternReader`: a pattern partly read, with the groups that are open.
* `Regex.Pattern.parse`: the pattern that a text denotes, or the first fault in the text. -/

namespace TokenGrammar.Regex

/-! ## Pieces -/

/-- What a piece of a pattern does. -/
inductive PatternMove where
  /-- Apply what an opening parenthesis introduces. -/
  | enter (opening : GroupOpening)
  /-- Leave the innermost group. -/
  | leave
  /-- Start another alternative. -/
  | alternate
  /-- Add a part. -/
  | add (part : Pattern)
  /-- Repeat the last part. -/
  | repeatLast (count : RepetitionCount)

/-- Read the question mark that may follow the mark of a repetition. -/
def parseMark (min : Nat) (max : Option Nat) : List Char → PatternMove × List Char
  | '?' :: rest => (.repeatLast ⟨min, max, true⟩, rest)
  | rest => (.repeatLast ⟨min, max, false⟩, rest)

/-- Read a piece of a pattern, which starts with a given character. -/
def parseMove (verbose : Bool) (c : Char) (text : List Char) :
    Except PatternError (PatternMove × List Char) :=
  match c with
  | '(' => do
      let (opening, rest) ← parseGroupOpening verbose text
      pure (.enter opening, rest)
  | ')' => .ok (.leave, text)
  | '|' => .ok (.alternate, text)
  | '[' => do
      let (part, rest) ← parseClass verbose text
      pure (.add part, rest)
  | '?' => .ok (parseMark 0 (some 1) text)
  | '*' => .ok (parseMark 0 none text)
  | '+' => .ok (parseMark 1 none text)
  | '\x7b' => do
      let (count, rest) ← parseCount verbose text
      pure (.repeatLast count, rest)
  | '\\' => do
      let (primitive, rest) ← parseEscape verbose text
      pure (.add primitive.toPattern, rest)
  | '.' => .ok (.add .dot, text)
  | '^' => .ok (.add (.anchor .lineStart), text)
  | '$' => .ok (.add (.anchor .lineEnd), text)
  -- Closing brackets and braces that close nothing stand for themselves.
  | c => .ok (.add (.literal ⟨c, false⟩), text)

/-! ## Readers -/

/-- The part of a group that has been read. -/
structure OpenLevel where
  /-- The finished alternatives, the latest first. -/
  alternatives : List Pattern
  /-- The parts of the current alternative, the latest first. -/
  parts : List Pattern

namespace OpenLevel

/-- Nothing read. -/
def empty : OpenLevel :=
  ⟨[], []⟩

/-- Add a part. -/
def add (level : OpenLevel) (part : Pattern) : OpenLevel :=
  { level with parts := part :: level.parts }

/-- The current alternative. -/
def current (level : OpenLevel) : Pattern :=
  .ofParts level.parts.reverse

/-- Start another alternative. -/
def alternate (level : OpenLevel) : OpenLevel :=
  ⟨level.current :: level.alternatives, []⟩

/-- The pattern that has been read. -/
def toPattern (level : OpenLevel) : Pattern :=
  match level.alternatives with
  | [] => level.current
  | finished => .alternation (level.current :: finished).reverse

end OpenLevel

/-- A group whose closing parenthesis has not been read. -/
structure OpenGroup where
  /-- What was read before the group. -/
  outer : OpenLevel
  /-- The pattern of the group, given that of its body. -/
  close : Pattern → Pattern
  /-- Whether spacing was ignored before the group. -/
  verbose : Bool

/-- A pattern partly read. -/
structure PatternReader where
  /-- Whether spacing is ignored. -/
  verbose : Bool
  /-- What has been read of the innermost group. -/
  level : OpenLevel
  /-- The groups around it, the innermost first. -/
  groups : List OpenGroup
  /-- The number of numbered groups. -/
  captures : Nat
  /-- The names of groups. -/
  names : List String

namespace PatternReader

/-- Nothing read. -/
def start : PatternReader :=
  ⟨false, .empty, [], 0, []⟩

/-- Add a part. -/
def add (reader : PatternReader) (part : Pattern) : PatternReader :=
  { reader with level := reader.level.add part }

/-- Enter a group. -/
def enter (reader : PatternReader) (close : Pattern → Pattern) : PatternReader :=
  { reader with
    level := .empty
    groups := ⟨reader.level, close, reader.verbose⟩ :: reader.groups }

/-- Apply what an opening parenthesis introduces. -/
def applyOpening (reader : PatternReader) : GroupOpening → PatternReader
  | .capture name =>
      let index := reader.captures + 1
      { reader.enter (.capture index name) with
        captures := index
        names := name.toList ++ reader.names }
  | .plain setting =>
      { reader.enter (.group setting) with
        verbose := (setting.value? .ignoreWhitespace).getD reader.verbose }
  | .directive setting =>
      { reader.add (.flags setting) with
        verbose := (setting.value? .ignoreWhitespace).getD reader.verbose }

/-- Leave the innermost group. -/
def close (reader : PatternReader) : Except PatternError PatternReader :=
  match reader.groups with
  | [] => .error .groupUnopened
  | group :: groups =>
      .ok { reader with
        verbose := group.verbose
        level := group.outer.add (group.close reader.level.toPattern)
        groups := groups }

/-- Repeat the last part. There must be one, and not flags alone. -/
def repeatLast (reader : PatternReader) (count : RepetitionCount) :
    Except PatternError PatternReader :=
  match reader.level.parts with
  | [] => .error .repetitionMissing
  | .flags _ :: _ => .error .repetitionMissing
  | part :: parts =>
      .ok { reader with
        level := { reader.level with
          parts := .repetition count.min count.max count.lazy part :: parts } }

/-- Do what a piece of a pattern does. No two groups may have the same name. -/
def move (reader : PatternReader) : PatternMove → Except PatternError PatternReader
  | .enter opening =>
      if opening.name?.any reader.names.contains then .error .groupNameDuplicate
      else .ok (reader.applyOpening opening)
  | .leave => reader.close
  | .alternate => .ok { reader with level := reader.level.alternate }
  | .add part => .ok (reader.add part)
  | .repeatLast count => reader.repeatLast count

/-- What is missing before a brace is reported before what is wrong within. -/
def checkBefore (reader : PatternReader) (c : Char) : Except PatternError Unit :=
  if c = '\x7b' then do
    let _ ← reader.repeatLast ⟨0, none, false⟩
  else .ok ()

/-- Read the next piece of a pattern, which starts with a given character. -/
def step (reader : PatternReader) (c : Char) (text : List Char) :
    Except PatternError (PatternReader × List Char) := do
  reader.checkBefore c
  let (move, rest) ← parseMove reader.verbose c text
  let next ← reader.move move
  pure (next, rest)

/-- A piece that is no brace is read and does what it does. -/
theorem step_of_parseMove {reader next : PatternReader} {c : Char} {move : PatternMove}
    {text rest : List Char} (other : c ≠ '\x7b')
    (parsed : parseMove reader.verbose c text = .ok (move, rest))
    (moved : reader.move move = .ok next) : reader.step c text = .ok (next, rest) := by
  rw [step, checkBefore, if_neg other, parsed]
  change (reader.move move >>= _) = _
  rw [moved]
  rfl

/-- The pattern, at the end of the text. -/
def finish (reader : PatternReader) : Except PatternError Pattern :=
  match reader.groups with
  | [] => .ok reader.level.toPattern
  | _ :: _ => .error .groupUnclosed

/-- Read the rest of a text. The bound is above its length, and each step reads a character. -/
def readUpTo : Nat → PatternReader → List Char → Except PatternError Pattern
  | 0, _, _ => .error .groupUnclosed
  | bound + 1, reader, text =>
      match skipSpacing reader.verbose text with
      | [] => reader.finish
      | c :: rest => do
          let (next, remaining) ← reader.step c rest
          readUpTo bound next remaining

end PatternReader

/-- The deepest nesting that patterns may have. -/
def nestLimit : Nat :=
  250

/-- The pattern that a text denotes, or the first fault in the text. Only a text without other
faults can be nested too deeply. -/
def Pattern.parse (text : List Char) : Except PatternError Pattern := do
  let pattern ← PatternReader.readUpTo (text.length + 1) .start text
  if pattern.depth ≤ nestLimit then pure pattern
  else throw (.nestLimitExceeded nestLimit)

end TokenGrammar.Regex
