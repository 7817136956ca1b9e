import TokenGrammar.Regex.Parser.Escape

/-! # Classes in brackets

* `Regex.OpenClass`: a class whose closing bracket has not been read.
* `Regex.parseAsciiClass?`: read a named class of ASCII characters.
* `Regex.parseClassStart`: read what comes first in a class.
* `Regex.parseClass`: read a class, after its opening bracket. -/

namespace TokenGrammar.Regex

/-- A class whose closing bracket has not been read. -/
structure OpenClass where
  /-- Whether the class is the complement of its contents. -/
  negated : Bool
  /-- The set on the left of an operation, if there is one. -/
  left? : Option (SetOperation × ClassContents)
  /-- The items since then, the latest first. -/
  items : List ClassContents

namespace OpenClass

/-- Add an item. -/
def add (inner : OpenClass) (item : ClassContents) : OpenClass :=
  { inner with items := item :: inner.items }

/-- The items since the last operation as one set. -/
def union (inner : OpenClass) : ClassContents :=
  match inner.items with
  | [] => .empty
  | [item] => item
  | items => .union items.reverse

/-- What has been read, as one set. Operations group to the left. -/
def contents (inner : OpenClass) : ClassContents :=
  match inner.left? with
  | some (kind, left) => .operation kind left inner.union
  | none => inner.union

/-- Make what has been read the left side of an operation. -/
def operate (inner : OpenClass) (kind : SetOperation) : OpenClass :=
  { inner with left? := some (kind, inner.contents), items := [] }

end OpenClass

/-- The named classes of ASCII characters by name. -/
def AsciiClass.ofName? (name : String) : Option AsciiClass :=
  [("alnum", .alnum), ("alpha", .alpha), ("ascii", .ascii), ("blank", .blank), ("cntrl", .cntrl),
    ("digit", .digit), ("graph", .graph), ("lower", .lower), ("print", .print),
    ("punct", .punct), ("space", .space), ("upper", .upper), ("word", .word),
    ("xdigit", AsciiClass.xdigit)].lookup name

/-- Read the name of an ASCII class, after its colon and the mark of a complement. -/
def parseAsciiName? (negated : Bool) (named : List Char) : Option (ClassContents × List Char) :=
  match named.dropWhile (· != ':') with
  | ':' :: ']' :: rest =>
      (AsciiClass.ofName? (.ofList (named.takeWhile (· != ':')))).map fun kind =>
        (.ascii kind negated, rest)
  | _ => none

/-- Read a named class of ASCII characters, after its first bracket. What is no such class is
read as a class within the class: brackets with colons that name no class are a class of those
characters. -/
def parseAsciiClass? : List Char → Option (ClassContents × List Char)
  | ':' :: '^' :: named => parseAsciiName? true named
  | ':' :: named => parseAsciiName? false named
  | _ => none

/-- The text from its next character that means something. There must be one. -/
def toSolid (verbose : Bool) (text : List Char) : Except PatternError (List Char) :=
  match skipSpacing verbose text with
  | [] => .error .classUnclosed
  | next => .ok next

/-- Read the dashes or the closing bracket that stand for themselves at the start of a class. -/
def parseClassDashes (verbose negated : Bool) (text : List Char) :
    Except PatternError (OpenClass × List Char) :=
  match takeSpaced verbose (· == '-') text with
  | (_, []) => .error .classUnclosed
  | ([], ']' :: following) => do
      let rest ← toSolid verbose following
      pure (⟨negated, none, [.literal ⟨']', false⟩]⟩, rest)
  | (dashes, rest) =>
      .ok (⟨negated, none, dashes.map fun dash => .literal ⟨dash, false⟩⟩, rest)

/-- Read the start of a class, after its opening bracket: the mark of a complement, and the dashes
or the closing bracket that stand for themselves there. -/
def parseClassStart (verbose : Bool) (text : List Char) :
    Except PatternError (OpenClass × List Char) := do
  match ← toSolid verbose text with
  | '^' :: rest => parseClassDashes verbose true (← toSolid verbose rest)
  | start => parseClassDashes verbose false start

/-- A primitive as an item of a class. -/
def Primitive.toItem : Primitive → Except PatternError ClassContents
  | .literal character => .ok (.literal character)
  | .shorthand kind negated => .ok (.shorthand kind negated)
  | .property query negated => .ok (.property query negated)
  | .anchor _ => .error .classEscapeInvalid
  | .dot => .error .classEscapeInvalid

/-- A primitive as the end of a range. -/
def Primitive.toRangeEnd : Primitive → Except PatternError Literal
  | .literal character => .ok character
  | _ => .error .classRangeLiteral

/-- The range between two primitives. -/
def Primitive.rangeTo (first last : Primitive) : Except PatternError ClassContents := do
  let low ← first.toRangeEnd
  let high ← last.toRangeEnd
  if low.char ≤ high.char then pure (.range low high) else throw .classRangeInvalid

/-- Read one character of a class, or an escape. -/
def parseClassPrimitive (verbose : Bool) : List Char → Except PatternError (Primitive × List Char)
  | [] => .error .classUnclosed
  | '\\' :: rest => parseEscape verbose rest
  | c :: rest => .ok (.char c, rest)

/-- Read the other end of a range, after its dash. -/
def parseRangeEnd (verbose : Bool) (first : Primitive) (text : List Char) :
    Except PatternError (ClassContents × List Char) := do
  let ending ← toSolid verbose text
  let (last, rest) ← parseClassPrimitive verbose ending
  let range ← first.rangeTo last
  pure (range, rest)

/-- Read the rest of an item of a class, after what it starts with. A dash before the closing
bracket or before another dash makes no range. -/
def parseItemAfter (verbose : Bool) (first : Primitive) :
    List Char → Except PatternError (ClassContents × List Char)
  | '-' :: following =>
      let next := peekSpaced? verbose following
      -- A range needs another end, and two dashes are an operation.
      if next = some ']' ∨ next = some '-' then do
        let item ← first.toItem
        pure (item, '-' :: following)
      else parseRangeEnd verbose first following
  | text => do
      let item ← first.toItem
      pure (item, text)

/-- Read an item of a class: a character, an escape, or a range. -/
def parseClassItem (verbose : Bool) (text : List Char) :
    Except PatternError (ClassContents × List Char) := do
  let (first, rest) ← parseClassPrimitive verbose text
  let next ← toSolid verbose rest
  parseItemAfter verbose first next

/-- Read the rest of a class within the classes around it, the innermost first. The bound is
above the length of the text. -/
def parseClassUpTo (verbose : Bool) :
    Nat → OpenClass → List OpenClass → List Char → Except PatternError (OpenClass × List Char)
  | 0, _, _, _ => .error .classUnclosed
  | bound + 1, current, outer, text =>
      match skipSpacing verbose text with
      | [] => .error .classUnclosed
      | '[' :: rest =>
          match parseAsciiClass? rest with
          | some (item, remaining) =>
              parseClassUpTo verbose bound (current.add item) outer remaining
          | none => do
              let (inner, remaining) ← parseClassStart verbose rest
              parseClassUpTo verbose bound inner (current :: outer) remaining
      | ']' :: rest =>
          match outer with
          | [] => .ok (current, rest)
          | next :: others =>
              let item := ClassContents.bracketed current.negated current.contents
              parseClassUpTo verbose bound (next.add item) others rest
      | '&' :: '&' :: rest =>
          parseClassUpTo verbose bound (current.operate .intersection) outer rest
      | '-' :: '-' :: rest =>
          parseClassUpTo verbose bound (current.operate .difference) outer rest
      | '~' :: '~' :: rest =>
          parseClassUpTo verbose bound (current.operate .symmetricDifference) outer rest
      | solid => do
          let (item, remaining) ← parseClassItem verbose solid
          parseClassUpTo verbose bound (current.add item) outer remaining

/-- Read a class, after its opening bracket. -/
def parseClass (verbose : Bool) (text : List Char) : Except PatternError (Pattern × List Char) := do
  let (start, rest) ← parseClassStart verbose text
  let (whole, remaining) ← parseClassUpTo verbose (rest.length + 1) start [] rest
  pure (.bracketed whole.negated whole.contents, remaining)

end TokenGrammar.Regex
