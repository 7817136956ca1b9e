import TokenGrammar.Unicode.Property

/-! # Regular expressions

What a pattern means once its flags have taken effect.

* `Regex.Expr`: sets of characters, assertions, order, alternatives, repetition and groups.
* `Regex.Position`: a place between the characters of a text.
* `Regex.Assertion.holds`: what an assertion says about a place. -/

namespace TokenGrammar.Regex

open Unicode (CharSet isAsciiWord isWord)

/-- A condition on a place in a text. -/
inductive Assertion where
  /-- The start of the text. -/
  | textStart
  /-- The end of the text. -/
  | textEnd
  /-- The start of a line; with `crlf`, a carriage return ends a line too. -/
  | lineStart (crlf : Bool)
  /-- The end of a line; with `crlf`, a carriage return ends a line too. -/
  | lineEnd (crlf : Bool)
  /-- A place with a word character on exactly one side. With `unicode`, the words are those of
  all scripts. -/
  | wordBoundary (unicode : Bool)
  /-- A place with word characters on both sides or on neither. -/
  | notWordBoundary (unicode : Bool)
  /-- A place before a word and not within it. -/
  | wordStart (unicode : Bool)
  /-- A place after a word and not within it. -/
  | wordEnd (unicode : Bool)
  /-- A place that is not after a word character. -/
  | wordStartHalf (unicode : Bool)
  /-- A place that is not before a word character. -/
  | wordEndHalf (unicode : Bool)
  deriving DecidableEq

/-- A regular expression. -/
inductive Expr where
  /-- The empty text. -/
  | empty
  /-- One character of a set. -/
  | set (members : CharSet)
  /-- The empty text, at a place where a condition holds. -/
  | assertion (condition : Assertion)
  /-- One expression after the other. -/
  | sequence (first second : Expr)
  /-- Either expression; matches of the first are preferred. -/
  | alternative (first second : Expr)
  /-- The body between `min` and `max` times, or without limit; more is preferred if `greedy`. -/
  | repetition (min : Nat) (max : Option Nat) (greedy : Bool) (body : Expr)
  /-- A numbered group, which records what its body matched. -/
  | capture (index : Nat) (name : Option String) (body : Expr)
  deriving DecidableEq

namespace Expr

/-- Whether an expression matches nothing but the empty text. -/
def zeroWidth : Expr → Bool
  | .empty => true
  | .set _ => false
  | .assertion _ => true
  | .sequence first second => first.zeroWidth && second.zeroWidth
  | .alternative first second => first.zeroWidth && second.zeroWidth
  | .repetition _ _ _ body => body.zeroWidth
  | .capture _ _ body => body.zeroWidth

/-- Whether every match takes at least one character. -/
def consumes : Expr → Bool
  | .empty => false
  | .set _ => true
  | .assertion _ => false
  | .sequence first second => first.consumes || second.consumes
  | .alternative first second => first.consumes && second.consumes
  | .repetition min _ _ body => min != 0 && body.consumes
  | .capture _ _ body => body.consumes

/-- A repetition. Of a body without width one match is as good as many, and no repetition at all
is the empty expression. -/
def repeated (min : Nat) (max : Option Nat) (greedy : Bool) (body : Expr) : Expr :=
  let least := if body.zeroWidth then Nat.min min 1 else min
  let most := if body.zeroWidth then some ((max.map (Nat.min 1)).getD 1) else max
  if least = 0 ∧ most = some 0 then .empty
  else if least = 1 ∧ most = some 1 then body
  else .repetition least most greedy body

/-- The groups with their names, in the order of their openings. -/
def groups : Expr → List (Nat × Option String)
  | .sequence first second => first.groups ++ second.groups
  | .alternative first second => first.groups ++ second.groups
  | .repetition _ _ _ body => body.groups
  | .capture index name body => (index, name) :: body.groups
  | _ => []

/-- The number of the group with a given name. -/
def groupOfName? (expr : Expr) (name : String) : Option Nat :=
  (expr.groups.find? (·.2 == some name)).map (·.1)

end Expr

/-- A place between the characters of a text. -/
structure Position where
  /-- Number of bytes before it. -/
  offset : Nat
  /-- The character before it. -/
  previous : Option Char
  /-- The characters after it. -/
  rest : List Char
  deriving DecidableEq

namespace Position

/-- The start of a text. -/
def start (text : List Char) : Position :=
  ⟨0, none, text⟩

/-- The place after the next character, `c`, which `rest` follows. -/
def past (position : Position) (c : Char) (rest : List Char) : Position :=
  ⟨position.offset + c.utf8Size, some c, rest⟩

/-- The place after the next character. -/
def next? (position : Position) : Option Position :=
  match position.rest with
  | [] => none
  | c :: rest => some (position.past c rest)

end Position

/-- Whether a character is part of a word, among all scripts or in ASCII. -/
def isWordChar (unicode : Bool) (c : Char) : Bool :=
  if unicode then isWord c else isAsciiWord c

namespace Assertion

/-- What an assertion says about a place. -/
def holds (condition : Assertion) (position : Position) : Bool :=
  let previous := position.previous
  let next := position.rest.head?
  let wordBefore (unicode : Bool) := previous.any (isWordChar unicode)
  let wordAfter (unicode : Bool) := next.any (isWordChar unicode)
  match condition with
  | .textStart => previous.isNone
  | .textEnd => next.isNone
  | .lineStart false => previous.isNone || previous == some '\n'
  | .lineStart true =>
      previous.isNone || previous == some '\n' ||
        (previous == some '\r' && next != some '\n')
  | .lineEnd false => next.isNone || next == some '\n'
  | .lineEnd true =>
      next.isNone || next == some '\r' || (next == some '\n' && previous != some '\r')
  | .wordBoundary unicode => wordBefore unicode != wordAfter unicode
  | .notWordBoundary unicode => wordBefore unicode == wordAfter unicode
  | .wordStart unicode => !wordBefore unicode && wordAfter unicode
  | .wordEnd unicode => wordBefore unicode && !wordAfter unicode
  | .wordStartHalf unicode => !wordBefore unicode
  | .wordEndHalf unicode => !wordAfter unicode

end Assertion

end TokenGrammar.Regex
