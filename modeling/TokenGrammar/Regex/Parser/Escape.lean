import TokenGrammar.Regex.Parser.Spacing
import TokenGrammar.Regex.Pattern
import TokenGrammar.Regex.PatternError
import TokenGrammar.Text.Numeral

/-! # Escapes

What a backslash introduces.

* `Regex.Primitive`: the patterns that stand for one place or one character.
* `Regex.isMeta`: the characters with a meaning of their own in patterns.
* `Regex.parseEscape`: read an escape, after its backslash. -/

namespace TokenGrammar.Regex

/-- A pattern for one place or one character, outside brackets. -/
inductive Primitive where
  /-- A character. -/
  | literal (literal : Literal)
  /-- A condition on the place. -/
  | anchor (anchor : Anchor)
  /-- The dot. -/
  | dot
  /-- A class with a letter of its own. -/
  | shorthand (kind : Shorthand) (negated : Bool)
  /-- The characters with a property. -/
  | property (query : PropertyQuery) (negated : Bool)

/-- The pattern of a primitive. -/
def Primitive.toPattern : Primitive → Pattern
  | .literal character => .literal character
  | .anchor condition => .anchor condition
  | .dot => .dot
  | .shorthand kind negated => .shorthand kind negated
  | .property query negated => .property query negated

/-- A character that stands for itself. -/
def Primitive.char (c : Char) : Primitive :=
  .literal ⟨c, false⟩

/-- The characters with a meaning of their own in patterns. -/
def isMeta (c : Char) : Bool :=
  ['\\', '.', '+', '*', '?', '(', ')', '|', '[', ']', '\x7b', '\x7d', '^', '$', '#', '&', '-',
    '~'].contains c

/-- Whether a character stands for itself after a backslash: an ASCII character that is neither
letter nor digit nor angle bracket. -/
def isEscapable (c : Char) : Bool :=
  isMeta c || (c.toNat < 128 && !c.isAlphanum && c != '<' && c != '>')

/-- The characters that name the special word boundaries. -/
def isBoundaryNameChar (c : Char) : Bool :=
  c.isAlpha || c == '-'

/-- The special word boundaries by name. -/
def boundaryOfName? : List Char → Option Anchor
  | ['s', 't', 'a', 'r', 't'] => some .wordStart
  | ['e', 'n', 'd'] => some .wordEnd
  | ['s', 't', 'a', 'r', 't', '-', 'h', 'a', 'l', 'f'] => some .wordStartHalf
  | ['e', 'n', 'd', '-', 'h', 'a', 'l', 'f'] => some .wordEndHalf
  | _ => none

/-- Read what follows `\b`. A name in braces makes it a special boundary; braces with anything
else are left for the repetition that they may be. -/
def parseBoundary (verbose : Bool) (text : List Char) :
    Except PatternError (Primitive × List Char) :=
  match text with
  | '\x7b' :: following =>
      match skipSpacing verbose following with
      | [] => .error .wordBoundaryUnexpectedEnd
      | c :: rest =>
          if isBoundaryNameChar c then
            match takeSpaced verbose isBoundaryNameChar (c :: rest) with
            | (name, '\x7d' :: remaining) =>
                match boundaryOfName? name with
                | some anchor => .ok (.anchor anchor, remaining)
                | none => .error .wordBoundaryUnrecognized
            | _ => .error .wordBoundaryUnclosed
          else .ok (.anchor .wordBoundary, text)
  | _ => .ok (.anchor .wordBoundary, text)

/-- The literal with a code point in hexadecimal digits. -/
def literalOfHex (digits : List Char) (isByte : Bool) : Except PatternError Primitive :=
  match (Numeral.hex? digits).bind Numeral.charOfCode? with
  | some c => .ok (.literal ⟨c, isByte⟩)
  | none => .error .hexInvalid

/-- Read a number of hexadecimal digits, after those that have been read. -/
def parseHexDigits (verbose : Bool) :
    (count : Nat) → (digits : List Char) → List Char → Except PatternError (List Char × List Char)
  | 0, digits, text => .ok (digits, text)
  | _ + 1, _, [] => .error .escapeUnexpectedEnd
  | count + 1, digits, c :: rest =>
      if (Numeral.hexDigit? c).isSome then
        parseHexDigits verbose count (digits ++ [c]) (skipSpacing verbose rest)
      else .error .hexInvalidDigit

/-- Read the code point of a `\x`, `\u` or `\U`: `width` digits, or any number in braces. -/
def parseHex (verbose : Bool) (width : Nat) (text : List Char) :
    Except PatternError (Primitive × List Char) :=
  match skipSpacing verbose text with
  | [] => .error .escapeUnexpectedEnd
  | '\x7b' :: following =>
      match takeSpaced verbose (fun c => (Numeral.hexDigit? c).isSome)
          (skipSpacing verbose following) with
      | (_, []) => .error .escapeUnexpectedEnd
      | (digits, c :: rest) =>
          if c ≠ '\x7d' then .error .hexInvalidDigit
          else if digits = [] then .error .hexEmpty
          else do
            let primitive ← literalOfHex digits false
            pure (primitive, skipSpacing verbose rest)
  | solid => do
      let (digits, rest) ← parseHexDigits verbose width [] solid
      let primitive ← literalOfHex digits (width == 2)
      pure (primitive, rest)

/-- Split a text at the first occurrence of a separator. -/
def splitAtFirst? (separator : List Char) : List Char → Option (List Char × List Char)
  | [] => none
  | c :: rest =>
      if separator.isPrefixOf (c :: rest) then some ([], (c :: rest).drop separator.length)
      else (splitAtFirst? separator rest).map fun (before, after) => (c :: before, after)

/-- The query that the text in the braces of a property makes, and whether it asks for the
characters without the value: an exclamation mark before the equals sign says so. -/
def queryOfText (text : List Char) : PropertyQuery × Bool :=
  match splitAtFirst? ['!', '='] text with
  | some (name, value) => (.valued (.ofList name) (.ofList value), true)
  | none =>
      match (splitAtFirst? [':'] text).or (splitAtFirst? ['='] text) with
      | some (name, value) => (.valued (.ofList name) (.ofList value), false)
      | none => (.named (.ofList text), false)

/-- Read the property of a `\p` or `\P`: one letter, or a query in braces. Two negations are
none. -/
def parseProperty (verbose negated : Bool) (text : List Char) :
    Except PatternError (Primitive × List Char) :=
  match skipSpacing verbose text with
  | [] => .error .escapeUnexpectedEnd
  | '\x7b' :: following =>
      match takeSpaced verbose (· != '\x7d') (skipSpacing verbose following) with
      | (_, []) => .error .escapeUnexpectedEnd
      | (asked, _ :: rest) =>
          let (query, unequal) := queryOfText asked
          .ok (.property query (negated != unequal), rest)
  | c :: rest =>
      if c = '\\' then .error .propertyInvalid
      else .ok (.property (.named (.singleton c)) negated, skipSpacing verbose rest)

/-- Read an escape, after its backslash. -/
def parseEscape (verbose : Bool) : List Char → Except PatternError (Primitive × List Char)
  | [] => .error .escapeUnexpectedEnd
  | c :: rest =>
      if c.isDigit then .error .backreference
      else if isEscapable c then .ok (.char c, rest)
      else
        match c with
        | 'x' => parseHex verbose 2 rest
        | 'u' => parseHex verbose 4 rest
        | 'U' => parseHex verbose 8 rest
        | 'p' => parseProperty verbose false rest
        | 'P' => parseProperty verbose true rest
        | 'd' => .ok (.shorthand .digit false, rest)
        | 's' => .ok (.shorthand .space false, rest)
        | 'w' => .ok (.shorthand .word false, rest)
        | 'D' => .ok (.shorthand .digit true, rest)
        | 'S' => .ok (.shorthand .space true, rest)
        | 'W' => .ok (.shorthand .word true, rest)
        | 'a' => .ok (.char '\x07', rest)
        | 'f' => .ok (.char '\x0c', rest)
        | 't' => .ok (.char '\t', rest)
        | 'n' => .ok (.char '\n', rest)
        | 'r' => .ok (.char '\r', rest)
        | 'v' => .ok (.char '\x0b', rest)
        | 'A' => .ok (.anchor .textStart, rest)
        | 'z' => .ok (.anchor .textEnd, rest)
        | 'b' => parseBoundary verbose rest
        | 'B' => .ok (.anchor .notWordBoundary, rest)
        | '<' => .ok (.anchor .wordStart, rest)
        | '>' => .ok (.anchor .wordEnd, rest)
        | _ => .error .escapeUnrecognized

end TokenGrammar.Regex
