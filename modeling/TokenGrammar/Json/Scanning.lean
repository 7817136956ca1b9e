import TokenGrammar.Json.ReadError
import TokenGrammar.Text.Decimal
import TokenGrammar.Text.Utf8

/-! # Reading the parts of JSON

Texts are read as characters, with gaps for bytes that belong to none. A gap matters only within a
string whose contents matter.

* `Json.Reading.skipSpace`, `Json.Reading.word`: spaces and literal words.
* `Json.Reading.stringBody`, `Json.Reading.skipString`: strings, after the opening quote.
* `Json.Reading.number`, `Json.Reading.skipNumber`: numbers, after the sign. -/

namespace TokenGrammar.Json.Reading

/-- A text as characters and gaps. -/
abbrev Input := List (Option Char)

/-- A text without gaps. -/
def inputOfText (text : String) : Input :=
  text.toList.map some

/-- Length of a text in bytes. -/
def inputBytes : Input → Nat
  | [] => 0
  | some c :: rest => c.utf8Size + inputBytes rest
  | none :: rest => 1 + inputBytes rest

/-- The text after spaces, tabs and line ends. -/
def skipSpace : Input → Input
  | some ' ' :: rest => skipSpace rest
  | some '\n' :: rest => skipSpace rest
  | some '\t' :: rest => skipSpace rest
  | some '\r' :: rest => skipSpace rest
  | input => input

/-- Read the rest of a literal word. -/
def word : List Char → Input → Except ReadError Input
  | [], input => .ok input
  | _ :: _, [] => .error .endInValue
  | c :: rest, next :: input => if next = some c then word rest input else .error .expectedWord

/-! ## Strings -/

/-- Read the four digits of an escape. -/
def fourHexDigits (input : Input) : Except ReadError (Nat × Input) :=
  match input with
  | some a :: some b :: some c :: some d :: rest =>
      match Numeral.hex? [a, b, c, d] with
      | some code => .ok (code, rest)
      | none => .error .invalidEscape
  | _ => if 4 ≤ inputBytes input then .error .invalidEscape else .error .endInString

/-- Read a sign that must come before the second half of a surrogate pair. -/
def pairSign (sign : Char) : Input → Except ReadError Input
  | [] => .error .endInString
  | next :: rest => if next = some sign then .ok rest else .error .unexpectedEndOfHexEscape

/-- Whether a code is the second half of a surrogate pair. -/
def isLowSurrogate (code : Nat) : Bool :=
  0xDC00 ≤ code && code ≤ 0xDFFF

/-- Whether a code is the first half of a surrogate pair. -/
def isHighSurrogate (code : Nat) : Bool :=
  0xD800 ≤ code && code ≤ 0xDBFF

/-- Read the character of an escape by code, after its letter. A surrogate pair is written as two
such escapes. -/
def codeEscape (input : Input) : Except ReadError (Char × Input) := do
  let (high, rest) ← fourHexDigits input
  if isLowSurrogate high then throw .loneSurrogate
  if !isHighSurrogate high then pure (Char.ofNat high, rest)
  else
    let afterBackslash ← pairSign '\\' rest
    let afterLetter ← pairSign 'u' afterBackslash
    let (low, remaining) ← fourHexDigits afterLetter
    if !isLowSurrogate low then throw .loneSurrogate
    pure (Char.ofNat ((high - 0xD800) * 0x400 + (low - 0xDC00) + 0x10000), remaining)

/-- The character of an escape by letter. -/
def letterEscape? : Char → Option Char
  | '"' => some '"'
  | '\\' => some '\\'
  | '/' => some '/'
  | 'b' => some '\x08'
  | 'f' => some '\x0c'
  | 'n' => some '\n'
  | 'r' => some '\r'
  | 't' => some '\t'
  | _ => none

/-- Read an escape, after its backslash. -/
def escape : Input → Except ReadError (Char × Input)
  | [] => .error .endInString
  | some 'u' :: rest => codeEscape rest
  | next :: rest =>
      match next.bind letterEscape? with
      | some c => .ok (c, rest)
      | none => .error .invalidEscape

/-- Whether a character cannot stand in a string as it is. -/
def isControl (next : Option Char) : Bool :=
  next.any (·.toNat < 32)

/-- Read the rest of a string whose characters so far are given, the latest first. The bound is
above the length of the text. -/
def stringBodyUpTo : Nat → List (Option Char) → Input → Except ReadError (String × Input)
  | 0, _, _ => .error .endInString
  | _ + 1, _, [] => .error .endInString
  | bound + 1, characters, next :: rest =>
      if next = some '"' then
        match characters.reverse.mapM id with
        | some text => .ok (.ofList text, rest)
        | none => .error .invalidCodePoint
      else if next = some '\\' then do
        let (c, remaining) ← escape rest
        stringBodyUpTo bound (some c :: characters) remaining
      else if isControl next then .error .controlCharacter
      else stringBodyUpTo bound (next :: characters) rest

/-- Read a string, after its opening quote. -/
def stringBody (input : Input) : Except ReadError (String × Input) :=
  stringBodyUpTo (input.length + 1) [] input

/-- Skip an escape whose character does not matter, after its backslash. -/
def skipEscape : Input → Except ReadError Input
  | [] => .error .endInString
  | some 'u' :: rest => do pure (← fourHexDigits rest).2
  | next :: rest => if (next.bind letterEscape?).isSome then .ok rest else .error .invalidEscape

/-- Skip a string whose characters do not matter, after its opening quote. The bound is above the
length of the text. -/
def skipStringUpTo : Nat → Input → Except ReadError Input
  | 0, _ => .error .endInString
  | _ + 1, [] => .error .endInString
  | bound + 1, next :: rest =>
      if next = some '"' then .ok rest
      else if next = some '\\' then do
        skipStringUpTo bound (← skipEscape rest)
      else if isControl next then .error .controlCharacter
      else skipStringUpTo bound rest

/-- Skip a string whose characters do not matter, after its opening quote. -/
def skipString (input : Input) : Except ReadError Input :=
  skipStringUpTo (input.length + 1) input

/-! ## Numbers -/

/-- Value of a decimal digit at the start of a text. -/
def digit? : Input → Option Nat
  | some c :: _ => Numeral.decimalDigit? c
  | _ => none

/-- Whether a text starts with a given character. -/
def startsWith (c : Char) (input : Input) : Bool :=
  input.head? == some (some c)

/-- The text after the digits it starts with. -/
def skipDigits (input : Input) : Input :=
  input.dropWhile fun next => next.any fun c => (Numeral.decimalDigit? c).isSome

/-- The digits a text starts with, by value, and what follows. -/
def takeDigits : Input → List Nat × Input
  | [] => ([], [])
  | next :: rest =>
      match next.bind Numeral.decimalDigit? with
      | some d => let (digits, remaining) := takeDigits rest; (d :: digits, remaining)
      | none => ([], next :: rest)

/-- The largest significand that is held exactly. -/
def significandLimit : Nat :=
  0xFFFFFFFFFFFFFFFF

/-- Append digits to a significand as long as it is held exactly, and return the digits that were
left over. -/
def appendDigits (significand : Nat) : List Nat → Nat × List Nat
  | [] => (significand, [])
  | d :: digits =>
      if significand * 10 + d ≤ significandLimit then appendDigits (significand * 10 + d) digits
      else (significand, d :: digits)

/-- A number as it is read. -/
inductive Number where
  /-- A whole number in the range of 64-bit words. -/
  | integer (value : Int)
  /-- Any other number, by its sign and the floating-point form of its size. -/
  | real (negative : Bool) (size : Float)

/-- What a number is, as a report tells it. -/
def Number.shape : Number → Shape
  | .integer value => .integer value
  | .real negative size => .real (Decimal.textOfFloat (if negative then -size else size))

/-- Scale a number by a power of ten, in steps of at most `10 ^ 308`. -/
def scaleFloat : (bound : Nat) → Float → Int → Except ReadError Float
  | 0, size, _ => .ok size
  | bound + 1, size, exponent =>
      if exponent.natAbs ≤ 308 then
        let power := Float.ofScientific 1 false exponent.natAbs
        if 0 ≤ exponent then
          if (size * power).isInf then .error .numberOutOfRange else .ok (size * power)
        else .ok (size / power)
      -- Zero stays zero under every power of ten.
      else if size == 0.0 then .ok size
      else if 0 ≤ exponent then .error .numberOutOfRange
      else scaleFloat bound (size / Float.ofScientific 1 false 308) (exponent + 308)

/-- The number `significand * 10 ^ exponent`. -/
def realNumber (negative : Bool) (significand : Nat) (exponent : Int) :
    Except ReadError Number := do
  pure (.real negative (← scaleFloat 8 (Float.ofNat significand) exponent))

/-- A whole number with its sign. Negative zero and numbers below the 64-bit range are held as
floating-point numbers. -/
def wholeNumber (negative : Bool) (significand : Nat) : Number :=
  if !negative then .integer significand
  else if significand = 0 ∨ 0x8000000000000000 < significand then .real true (Float.ofNat significand)
  else .integer (-significand)

/-- Read an exponent, after its letter. -/
def exponentPart (negative : Bool) (significand : Nat) (exponent : Int) (input : Input) :
    Except ReadError (Number × Input) :=
  let (down, start) :=
    match input with
    | some '+' :: rest => (false, rest)
    | some '-' :: rest => (true, rest)
    | _ => (false, input)
  match takeDigits start with
  | ([], []) => .error .endInValue
  | ([], _) => .error .invalidNumber
  | (digits, rest) => do
      let power : Nat := digits.foldl (fun n d => n * 10 + d) 0
      let scale := if down then exponent - power else exponent + power
      pure (← realNumber negative significand scale, rest)

/-- Read what may follow the digits of a number with a fraction. -/
def afterFraction (negative : Bool) (significand : Nat) (exponent : Int) (input : Input) :
    Except ReadError (Number × Input) :=
  if startsWith 'e' input || startsWith 'E' input then
    exponentPart negative significand exponent (input.drop 1)
  else do pure (← realNumber negative significand exponent, input)

/-- Read a fraction, after its point. Digits beyond those that are held exactly are dropped. -/
def fractionPart (negative : Bool) (significand : Nat) (exponent : Int) (input : Input) :
    Except ReadError (Number × Input) :=
  match takeDigits input with
  | ([], []) => .error .endInValue
  | ([], _) => .error .invalidNumber
  | (digits, rest) =>
      let (value, dropped) := appendDigits significand digits
      afterFraction negative value (exponent - (digits.length - dropped.length : Nat)) rest

/-- Read what may follow the digits of a whole number, of which `dropped` are not held. -/
def afterWhole (negative : Bool) (significand dropped : Nat) (input : Input) :
    Except ReadError (Number × Input) :=
  if startsWith '.' input then fractionPart negative significand dropped (input.drop 1)
  else if startsWith 'e' input || startsWith 'E' input then
    exponentPart negative significand dropped (input.drop 1)
  else if dropped = 0 then .ok (wholeNumber negative significand, input)
  else do pure (← realNumber negative significand dropped, input)

/-- Read a number, after its sign. -/
def number (negative : Bool) (input : Input) : Except ReadError (Number × Input) :=
  match takeDigits input with
  | ([], []) => .error .endInValue
  | ([], _) => .error .invalidNumber
  | ([0], rest) => afterWhole negative 0 0 rest
  | (0 :: _ :: _, _) => .error .invalidNumber
  | (digits, rest) =>
      let (value, dropped) := appendDigits 0 digits
      afterWhole negative value dropped.length rest

/-- Skip an exponent, after its letter. -/
def skipExponent (input : Input) : Except ReadError Input :=
  let start := if startsWith '+' input || startsWith '-' input then input.drop 1 else input
  if (digit? start).isSome then .ok (skipDigits start) else .error .invalidNumber

/-- Skip a number whose value does not matter, after its sign. -/
def skipNumber (input : Input) : Except ReadError Input := do
  let whole ←
    match digit? input with
    | none => throw .invalidNumber
    | some 0 =>
        if (digit? (input.drop 1)).isSome then throw .invalidNumber else pure (input.drop 1)
    | some _ => pure (skipDigits input)
  let fraction ←
    if startsWith '.' whole then
      if (digit? (whole.drop 1)).isSome then pure (skipDigits (whole.drop 1))
      else throw .invalidNumber
    else pure whole
  if startsWith 'e' fraction || startsWith 'E' fraction then skipExponent (fraction.drop 1)
  else pure fraction

end TokenGrammar.Json.Reading
