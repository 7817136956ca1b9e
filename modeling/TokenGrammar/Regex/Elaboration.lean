import TokenGrammar.Regex.Composition
import TokenGrammar.Regex.Parser
import TokenGrammar.Unicode.CaseFolding
import TokenGrammar.Unicode.PropertyName

/-! # From patterns to expressions

Flags take effect from where they stand to the end of their group, alternatives included. Without
the flag `u`, classes and the dot speak of bytes, and only those that stay within ASCII are
accepted.

* `Regex.Flags`: the flags in force.
* `Regex.Pattern.elaborate`: the expression of a pattern, or the first fault in its meaning.
* `Regex.Expr.ofText`: the expression that a text denotes. -/

namespace TokenGrammar.Regex

open Unicode (CharSet NameFault asciiCaseClasses caseClasses looseName)

/-- The flags in force. -/
structure Flags where
  /-- Letters match in either case. -/
  ignoreCase : Bool
  /-- The line assertions match at lines. -/
  multiLine : Bool
  /-- The dot matches a line feed too. -/
  dotAll : Bool
  /-- Repetitions prefer fewer matches. -/
  swapGreed : Bool
  /-- Classes and boundaries know all characters. -/
  unicode : Bool
  /-- A carriage return ends a line too. -/
  crlf : Bool

namespace Flags

/-- The flags at the start of a pattern. -/
def initial : Flags :=
  ⟨false, false, false, false, true, false⟩

/-- The flags after a setting. -/
def apply (flags : Flags) (setting : FlagSetting) : Flags where
  ignoreCase := (setting.value? .ignoreCase).getD flags.ignoreCase
  multiLine := (setting.value? .multiLine).getD flags.multiLine
  dotAll := (setting.value? .dotAll).getD flags.dotAll
  swapGreed := (setting.value? .swapGreed).getD flags.swapGreed
  unicode := (setting.value? .unicode).getD flags.unicode
  crlf := (setting.value? .crlf).getD flags.crlf

end Flags

/-- The characters of a named ASCII class. -/
def AsciiClass.toSet : AsciiClass → CharSet
  | .alnum => .unionAll [.between 0x30 0x39, .between 0x41 0x5A, .between 0x61 0x7A]
  | .alpha => .unionAll [.between 0x41 0x5A, .between 0x61 0x7A]
  | .ascii => .between 0x00 0x7F
  | .blank => .unionAll [.single '\t', .single ' ']
  | .cntrl => .unionAll [.between 0x00 0x1F, .between 0x7F 0x7F]
  | .digit => .between 0x30 0x39
  | .graph => .between 0x21 0x7E
  | .lower => .between 0x61 0x7A
  | .print => .between 0x20 0x7E
  | .punct =>
      .unionAll [.between 0x21 0x2F, .between 0x3A 0x40, .between 0x5B 0x60, .between 0x7B 0x7E]
  | .space => .unionAll [.between 0x09 0x0D, .single ' ']
  | .upper => .between 0x41 0x5A
  | .word =>
      .unionAll [.between 0x30 0x39, .between 0x41 0x5A, .single '_', .between 0x61 0x7A]
  | .xdigit => .unionAll [.between 0x30 0x39, .between 0x41 0x46, .between 0x61 0x66]

/-- The characters of a class with a letter of its own, among all characters. -/
def Shorthand.toSet : Shorthand → CharSet
  | .digit => Unicode.GeneralCategory.decimalNumber
  | .space => Unicode.whiteSpace
  | .word => Unicode.word

/-- The characters of a class with a letter of its own, in ASCII. -/
def Shorthand.toAsciiSet : Shorthand → CharSet
  | .digit => AsciiClass.digit.toSet
  | .space => AsciiClass.space.toSet
  | .word => AsciiClass.word.toSet

/-- The fault in a pattern with a name that stands for nothing. -/
def PatternError.ofNameFault : NameFault → PatternError
  | .unknownProperty => .propertyNotFound
  | .unknownValue => .propertyValueNotFound

/-- A name in the form in which names are compared. -/
def looseText (name : String) : String :=
  .ofList (looseName name.toList)

/-- The characters that a query asks for. -/
def PropertyQuery.toSet : PropertyQuery → Except PatternError CharSet
  | .named name => (CharSet.ofName (looseText name)).mapError .ofNameFault
  | .valued name value =>
      (CharSet.ofValue (looseText name) (looseText value)).mapError .ofNameFault

namespace Flags

/-- The complement of a set, among all characters or among bytes. -/
def complement (flags : Flags) (set : CharSet) : CharSet :=
  if flags.unicode then set.complement else (CharSet.between 0x00 0xFF).difference set

/-- A set with both cases of its letters, if the flags say so. -/
def fold (flags : Flags) (set : CharSet) : CharSet :=
  if flags.ignoreCase then
    set.closedUnder (if flags.unicode then caseClasses else asciiCaseClasses)
  else set

/-- A set of bytes must stay within ASCII: other bytes are parts of characters. -/
def check (flags : Flags) (set : CharSet) : Except PatternError CharSet :=
  if flags.unicode || set.isBelow 0x80 then .ok set else .error .invalidUtf8

/-- Apply case folding and then, if asked for, the complement. -/
def foldAndNegate (flags : Flags) (negated : Bool) (set : CharSet) :
    Except PatternError CharSet :=
  let folded := flags.fold set
  flags.check (if negated then flags.complement folded else folded)

end Flags

/-- The set of a class with a letter of its own. -/
def Shorthand.elaborate (flags : Flags) (negated : Bool) (kind : Shorthand) :
    Except PatternError CharSet :=
  let set := if flags.unicode then kind.toSet else kind.toAsciiSet
  flags.check (if negated then flags.complement set else set)

/-- The set of the characters with a property. -/
def PropertyQuery.elaborate (flags : Flags) (negated : Bool) (query : PropertyQuery) :
    Except PatternError CharSet := do
  if !flags.unicode then throw .unicodeNotAllowed
  flags.foldAndNegate negated (← query.toSet)

/-- A character of a class. Without the flag `u` it must be ASCII. -/
def Literal.classChar (flags : Flags) (literal : Literal) : Except PatternError Char :=
  if flags.unicode || literal.char.toNat < 128 then .ok literal.char
  else if literal.isByte then .error .invalidUtf8
  else .error .unicodeNotAllowed

namespace ClassContents

mutual

/-- The set of the contents of a class. -/
def elaborate (flags : Flags) : ClassContents → Except PatternError CharSet
  | .empty => .ok .empty
  | .literal character => do pure (.single (← character.classChar flags))
  | .range first last => do
      let low ← first.classChar flags
      let high ← last.classChar flags
      pure (.between low.toNat high.toNat)
  | .ascii kind negated => flags.foldAndNegate negated kind.toSet
  | .shorthand kind negated => kind.elaborate flags negated
  | .property query negated => query.elaborate flags negated
  | .bracketed negated contents => do
      flags.foldAndNegate negated (← elaborate flags contents)
  | .union items => do pure (.unionAll (← elaborateAll flags items))
  | .operation kind left right => do
      let leftSet := flags.fold (← elaborate flags left)
      let rightSet := flags.fold (← elaborate flags right)
      match kind with
      | .intersection => pure (leftSet.intersection rightSet)
      | .difference => pure (leftSet.difference rightSet)
      | .symmetricDifference => pure (leftSet.symmetricDifference rightSet)

/-- The sets of items, in order. -/
def elaborateAll (flags : Flags) : List ClassContents → Except PatternError (List CharSet)
  | [] => .ok []
  | item :: items => do
      let set ← elaborate flags item
      let sets ← elaborateAll flags items
      pure (set :: sets)

end

end ClassContents

/-- The expression of a character. -/
def Literal.elaborate (flags : Flags) (literal : Literal) : Except PatternError Expr :=
  if !flags.unicode && literal.isByte && 128 ≤ literal.char.toNat then .error .invalidUtf8
  else .ok (.set (flags.fold (.single literal.char)))

/-- The expression of the dot. -/
def dotExpr (flags : Flags) : Except PatternError Expr :=
  if !flags.unicode then .error .invalidUtf8
  else if flags.dotAll then .ok (.set .all)
  else if flags.crlf then .ok (.set (.complement ((CharSet.single '\n').union (.single '\r'))))
  else .ok (.set (.complement (.single '\n')))

/-- What an anchor asserts. -/
def Anchor.elaborate (flags : Flags) : Anchor → Assertion
  | .lineStart => if flags.multiLine then .lineStart flags.crlf else .textStart
  | .lineEnd => if flags.multiLine then .lineEnd flags.crlf else .textEnd
  | .textStart => .textStart
  | .textEnd => .textEnd
  | .wordBoundary => .wordBoundary flags.unicode
  | .notWordBoundary => .notWordBoundary flags.unicode
  | .wordStart => .wordStart flags.unicode
  | .wordEnd => .wordEnd flags.unicode
  | .wordStartHalf => .wordStartHalf flags.unicode
  | .wordEndHalf => .wordEndHalf flags.unicode

namespace Pattern

mutual

/-- The expression of a pattern under the flags in force, and the flags after it. -/
def elaborateWith (flags : Flags) : Pattern → Except PatternError (Expr × Flags)
  | .empty => .ok (.empty, flags)
  | .flags setting => .ok (.empty, flags.apply setting)
  | .literal character => do pure (← character.elaborate flags, flags)
  | .dot => do pure (← dotExpr flags, flags)
  | .anchor condition => .ok (.assertion (condition.elaborate flags), flags)
  | .shorthand kind negated => do pure (.set (← kind.elaborate flags negated), flags)
  | .property query negated => do pure (.set (← query.elaborate flags negated), flags)
  | .bracketed negated contents => do
      pure (.set (← flags.foldAndNegate negated (← contents.elaborate flags)), flags)
  | .repetition min max lazy body => do
      let (expr, after) ← elaborateWith flags body
      pure (.repeated min max (lazy == after.swapGreed) expr, after)
  -- Flags set within a group end with it.
  | .capture index name body => do
      let (expr, _) ← elaborateWith flags body
      pure (.capture index name expr, flags)
  | .group setting body => do
      let (expr, _) ← elaborateWith (flags.apply setting) body
      pure (expr, flags)
  -- Flags set in one alternative hold in those after it.
  | .alternation alternatives => do
      let (exprs, after) ← elaborateAll flags alternatives
      pure (.alternativeAll exprs, after)
  | .sequence parts => do
      let (exprs, after) ← elaborateAll flags parts
      pure (.sequenceAll exprs, after)

/-- The expressions of patterns in order, each under the flags that the one before left. -/
def elaborateAll (flags : Flags) : List Pattern → Except PatternError (List Expr × Flags)
  | [] => .ok ([], flags)
  | pattern :: patterns => do
      let (expr, after) ← elaborateWith flags pattern
      let (exprs, last) ← elaborateAll after patterns
      pure (expr :: exprs, last)

end

/-- The expression of a pattern, or the first fault in its meaning. -/
def elaborate (pattern : Pattern) : Except PatternError Expr := do
  pure (← pattern.elaborateWith .initial).1

end Pattern

/-- The expression that a text denotes, or the first fault in it. -/
def Expr.ofText (text : String) : Except PatternError Expr := do
  (← Pattern.parse text.toList).elaborate

end TokenGrammar.Regex
