/-! # Numerals

Reading and writing whole numbers as text.

* `Numeral.signed?`: an optional sign and decimal digits.
* `Numeral.hex`: the shortest lower-case hexadecimal form.
* `Numeral.hexDigit?`: the value of a hexadecimal digit.
* `Numeral.charOfCode?`: the character of a code point.
* `Numeral.toDigits_inj`: a number is told by its decimal digits. -/

namespace TokenGrammar.Numeral

/-- Value of a decimal digit. -/
def decimalDigit? (c : Char) : Option Nat :=
  if '0' ≤ c ∧ c ≤ '9' then some (c.toNat - '0'.toNat) else none

/-- Value of a hexadecimal digit of either case. -/
def hexDigit? (c : Char) : Option Nat :=
  if '0' ≤ c ∧ c ≤ '9' then some (c.toNat - '0'.toNat)
  else if 'a' ≤ c ∧ c ≤ 'f' then some (c.toNat - 'a'.toNat + 10)
  else if 'A' ≤ c ∧ c ≤ 'F' then some (c.toNat - 'A'.toNat + 10)
  else none

/-- Value of a sequence of digits in a base, most significant first, after the digits that make
up `value`. It fails at the first character that is no digit. -/
def ofDigitsFrom? (digit? : Char → Option Nat) (base : Nat) : Nat → List Char → Option Nat
  | value, [] => some value
  | value, c :: rest =>
      match digit? c with
      | some d => ofDigitsFrom? digit? base (value * base + d) rest
      | none => none

/-- Value of a nonempty sequence of decimal digits. -/
def decimal? : List Char → Option Nat
  | [] => none
  | digits => ofDigitsFrom? decimalDigit? 10 0 digits

/-- Value of a nonempty sequence of hexadecimal digits. -/
def hex? : List Char → Option Nat
  | [] => none
  | digits => ofDigitsFrom? hexDigit? 16 0 digits

/-- Value of a nonempty sequence of decimal digits after an optional sign. -/
def signed? : List Char → Option Int
  | '+' :: digits => (decimal? digits).map Int.ofNat
  | '-' :: digits => (decimal? digits).map fun n => -Int.ofNat n
  | digits => (decimal? digits).map Int.ofNat

/-- The lower-case hexadecimal form without leading zeros. -/
def hex (n : Nat) : String :=
  String.ofList (Nat.toDigits 16 n)

/-- The character with a code point. -/
def charOfCode? (n : Nat) : Option Char :=
  if h : n.isValidChar then some (Char.ofNatAux n h) else none

/-- Numbers with the same decimal digits are the same. -/
theorem toDigits_inj {n other : Nat} : Nat.toDigits 10 n = Nat.toDigits 10 other ↔ n = other := by
  constructor
  · intro same
    have values := congrArg (Nat.ofDigitChars 10 · 0) same
    simpa only [Nat.ofDigitChars_ten_toDigits] using values
  · exact congrArg (Nat.toDigits 10)

end TokenGrammar.Numeral
