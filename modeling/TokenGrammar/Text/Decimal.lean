/-! # Shortest decimals

The decimal that stands for a binary floating-point number is the one with the fewest digits that is
nearer to it than to any other number of that kind, and of those the nearest.

* `Decimal`: a whole number times a power of ten.
* `Decimal.shortest`: the shortest decimal of a binary number.
* `Decimal.textOfFloat`: its text, with an exponent where the number is very large or small. -/

namespace TokenGrammar

/-- The number `digits * 10 ^ exponent`. -/
structure Decimal where
  /-- The digits as a whole number. -/
  digits : Nat
  /-- The power of ten. -/
  exponent : Int
  deriving DecidableEq

namespace Decimal

/-- The factors that take a multiple of `2 ^ binary` to one of `10 ^ decimal`: a numerator and a
denominator. -/
def ratio (binary decimal : Int) : Nat × Nat :=
  (Nat.pow 2 binary.toNat * Nat.pow 10 (-decimal).toNat,
    Nat.pow 10 decimal.toNat * Nat.pow 2 (-binary).toNat)

/-- The least power of ten above `significand * 2 ^ exponent`. -/
def magnitude (significand : Nat) (exponent : Int) : Int :=
  let bound := (List.range 700).find? fun n : Nat =>
    let (numerator, denominator) := ratio exponent ((n : Int) - 340)
    significand * numerator < denominator
  ((bound.getD 700 : Nat) : Int) - 340

/-- The multiple of `10 ^ decimal` that is nearest to `significand * 2 ^ exponent` among those
within half the distance to the next binary numbers. Below a power of two that distance is half as
long (`narrow`), and the bounds count if the significand is even. -/
def nearest? (significand : Nat) (exponent : Int) (narrow : Bool) (decimal : Int) : Option Nat :=
  -- In quarters of the spacing, all bounds are whole.
  let (numerator, denominator) := ratio (exponent - 2) decimal
  let value := 4 * significand * numerator
  let low := (4 * significand - if narrow then 1 else 2) * numerator
  let high := (4 * significand + 2) * numerator
  let inside (digits : Nat) : Bool :=
    let point := digits * denominator
    if significand % 2 = 0 then low ≤ point && point ≤ high else low < point && point < high
  let below := value / denominator
  let above := below + 1
  match inside below, inside above with
  | false, false => none
  | true, false => some below
  | false, true => some above
  | true, true =>
      let toBelow := value - below * denominator
      let toAbove := above * denominator - value
      if toBelow < toAbove ∨ (toBelow = toAbove ∧ below % 2 = 0) then some below else some above

/-- Drop trailing zeros of the digits, at most `bound` of them. -/
def trim : (bound : Nat) → Decimal → Decimal
  | 0, decimal => decimal
  | bound + 1, ⟨digits, exponent⟩ =>
      if digits ≠ 0 ∧ digits % 10 = 0 then trim bound ⟨digits / 10, exponent + 1⟩
      else ⟨digits, exponent⟩

/-- The shortest decimal of `significand * 2 ^ exponent`, found on the grids of one to seventeen
digits. -/
def shortest (significand : Nat) (exponent : Int) (narrow : Bool) : Decimal :=
  let top := magnitude significand exponent
  let found := (List.range 17).findSome? fun n : Nat =>
    let decimal := top - ((n : Int) + 1)
    (nearest? significand exponent narrow decimal).map (Decimal.mk · decimal)
  trim 20 (found.getD ⟨0, 0⟩)

/-- A text of zeros. -/
def zeros (count : Nat) : String :=
  .ofList (List.replicate count '0')

/-- The text of an exponent, which always has a sign. -/
def exponentText (exponent : Int) : String :=
  "e" ++ (if exponent < 0 then "" else "+") ++ toString exponent

/-- The text of a decimal. Between the fifth place after the point and the sixteenth before it the
digits stand in their places; otherwise the first digit stands before the point, and an exponent
follows. -/
def text (decimal : Decimal) : String :=
  let digits := toString decimal.digits
  let length := digits.length
  let point := (length : Int) + decimal.exponent
  if 0 ≤ decimal.exponent ∧ point ≤ 16 then
    digits ++ zeros decimal.exponent.toNat ++ ".0"
  else if 0 < point ∧ point ≤ 16 then
    (digits.take point.toNat).toString ++ "." ++ (digits.drop point.toNat).toString
  else if -5 < point ∧ point ≤ 0 then
    "0." ++ zeros (-point).toNat ++ digits
  else if length = 1 then digits ++ exponentText (point - 1)
  else
    (digits.take 1).toString ++ "." ++ (digits.drop 1).toString ++ exponentText (point - 1)

/-- The text of the shortest decimal of a finite floating-point number. -/
def textOfFloat (number : Float) : String :=
  let bits : Nat := number.toBits.toNat
  let fraction : Nat := bits % Nat.pow 2 52
  let scale : Nat := bits / Nat.pow 2 52 % Nat.pow 2 11
  let sign := if bits / Nat.pow 2 63 = 1 then "-" else ""
  if fraction = 0 ∧ scale = 0 then sign ++ "0.0"
  else if scale = 0 then sign ++ (shortest fraction (-1074) false).text
  else
    sign ++
      (shortest (fraction + Nat.pow 2 52) ((scale : Int) - 1075) (fraction = 0 ∧ 1 < scale)).text

end Decimal

end TokenGrammar
