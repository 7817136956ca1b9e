/-! # Patterns as written

The structure of a regular expression as its text shows it, before flags take effect.

* `Regex.Pattern`: literals, classes, assertions, groups, repetitions, alternatives.
* `Regex.ClassContents`: what stands between the brackets of a class.
* `Regex.FlagSetting`: the flags that a group or a directive turns on and off.
* `Regex.Pattern.depth`: how deep the structure is nested. -/

namespace TokenGrammar.Regex

/-- A literal character. -/
structure Literal where
  /-- The character. -/
  char : Char
  /-- Whether it is written as a byte, `\xHH`. -/
  isByte : Bool
  deriving DecidableEq

/-- The classes with a letter of their own, `\d`, `\s` and `\w`. -/
inductive Shorthand where
  /-- Decimal digits. -/
  | digit
  /-- White space. -/
  | space
  /-- What words consist of. -/
  | word
  deriving DecidableEq

/-- The named classes of ASCII characters, `[:alnum:]` and so on. -/
inductive AsciiClass where
  /-- Letters and digits. -/
  | alnum
  /-- Letters. -/
  | alpha
  /-- Every ASCII character. -/
  | ascii
  /-- Space and tab. -/
  | blank
  /-- Controls. -/
  | cntrl
  /-- Digits. -/
  | digit
  /-- Visible characters. -/
  | graph
  /-- Lower-case letters. -/
  | lower
  /-- Visible characters and the space. -/
  | print
  /-- Punctuation and symbols. -/
  | punct
  /-- White space. -/
  | space
  /-- Upper-case letters. -/
  | upper
  /-- Letters, digits and the underscore. -/
  | word
  /-- Hexadecimal digits. -/
  | xdigit
  deriving DecidableEq

/-- A property of characters as a pattern names it, after `\p`. -/
inductive PropertyQuery where
  /-- A property or a value of a well-known property. -/
  | named (name : String)
  /-- A property with one of its values. -/
  | valued (name value : String)
  deriving DecidableEq

/-- The operations between sets in a class. -/
inductive SetOperation where
  /-- `&&` -/
  | intersection
  /-- `--` -/
  | difference
  /-- `~~` -/
  | symmetricDifference
  deriving DecidableEq

/-- What stands between the brackets of a class. -/
inductive ClassContents where
  /-- Nothing. -/
  | empty
  /-- A character. -/
  | literal (literal : Literal)
  /-- A range of characters, both ends included. -/
  | range (first last : Literal)
  /-- A named class of ASCII characters. -/
  | ascii (kind : AsciiClass) (negated : Bool)
  /-- A class with a letter of its own. -/
  | shorthand (kind : Shorthand) (negated : Bool)
  /-- The characters with a property. -/
  | property (query : PropertyQuery) (negated : Bool)
  /-- A class within the class. -/
  | bracketed (negated : Bool) (contents : ClassContents)
  /-- Several items side by side. -/
  | union (items : List ClassContents)
  /-- Two sets under an operation. -/
  | operation (kind : SetOperation) (left right : ClassContents)

/-- Conditions on a place between characters. -/
inductive Anchor where
  /-- `^` -/
  | lineStart
  /-- `$` -/
  | lineEnd
  /-- `\A` -/
  | textStart
  /-- `\z` -/
  | textEnd
  /-- `\b` -/
  | wordBoundary
  /-- `\B` -/
  | notWordBoundary
  /-- `\<` and `\b{start}` with braces -/
  | wordStart
  /-- `\>` and `\b{end}` with braces -/
  | wordEnd
  /-- A place not after a word character. -/
  | wordStartHalf
  /-- A place not before a word character. -/
  | wordEndHalf
  deriving DecidableEq

/-- The flags. -/
inductive Flag where
  /-- `i`: letters match in either case. -/
  | ignoreCase
  /-- `m`: `^` and `$` match at lines. -/
  | multiLine
  /-- `s`: the dot matches a line feed too. -/
  | dotAll
  /-- `U`: repetitions prefer fewer matches, and `?` turns that around. -/
  | swapGreed
  /-- `u`: classes and boundaries know all characters. -/
  | unicode
  /-- `R`: a carriage return ends a line too. -/
  | crlf
  /-- `x`: white space and comments in the pattern are ignored. -/
  | ignoreWhitespace
  deriving DecidableEq

/-- Flags as written: on, and off after a minus sign. -/
structure FlagSetting where
  /-- The flags to turn on. -/
  on : List Flag
  /-- The flags to turn off. -/
  off : List Flag
  deriving DecidableEq

/-- What a setting says about a flag. -/
def FlagSetting.value? (setting : FlagSetting) (flag : Flag) : Option Bool :=
  if setting.on.contains flag then some true
  else if setting.off.contains flag then some false
  else none

/-- A regular expression as written. -/
inductive Pattern where
  /-- Nothing. -/
  | empty
  /-- Flags for the rest of the group. -/
  | flags (setting : FlagSetting)
  /-- A character. -/
  | literal (literal : Literal)
  /-- The dot. -/
  | dot
  /-- A condition on the place. -/
  | anchor (anchor : Anchor)
  /-- A class with a letter of its own. -/
  | shorthand (kind : Shorthand) (negated : Bool)
  /-- The characters with a property. -/
  | property (query : PropertyQuery) (negated : Bool)
  /-- A class in brackets. -/
  | bracketed (negated : Bool) (contents : ClassContents)
  /-- A repetition, between `min` and `max` times or without limit; `lazy` if it is marked to
  prefer fewer. -/
  | repetition (min : Nat) (max : Option Nat) (lazy : Bool) (body : Pattern)
  /-- A numbered group, perhaps with a name. -/
  | capture (index : Nat) (name : Option String) (body : Pattern)
  /-- A group without a number, with flags for its body. -/
  | group (setting : FlagSetting) (body : Pattern)
  /-- Alternatives, the preferred first. -/
  | alternation (alternatives : List Pattern)
  /-- Parts in order. -/
  | sequence (parts : List Pattern)

mutual

/-- How deep the contents of a class are nested. -/
def ClassContents.depth : ClassContents → Nat
  | .bracketed _ contents => contents.depth + 1
  | .union items => ClassContents.depthOfList items + 1
  | .operation _ left right => max left.depth right.depth + 1
  | _ => 0

/-- The depth of the deepest item. -/
def ClassContents.depthOfList : List ClassContents → Nat
  | [] => 0
  | item :: items => max item.depth (ClassContents.depthOfList items)

end

namespace Pattern

/-- Join the parts of a sequence; a single part stands for itself. -/
def ofParts : List Pattern → Pattern
  | [] => .empty
  | [part] => part
  | parts => .sequence parts

mutual

/-- How deep a pattern is nested: groups, classes, repetitions, alternations and sequences each
add a level. -/
def depth : Pattern → Nat
  | .bracketed _ contents => contents.depth + 1
  | .repetition _ _ _ body => body.depth + 1
  | .capture _ _ body => body.depth + 1
  | .group _ body => body.depth + 1
  | .alternation alternatives => depthOfList alternatives + 1
  | .sequence parts => depthOfList parts + 1
  | _ => 0

/-- The depth of the deepest pattern. -/
def depthOfList : List Pattern → Nat
  | [] => 0
  | pattern :: patterns => max pattern.depth (depthOfList patterns)

end

end Pattern

end TokenGrammar.Regex
