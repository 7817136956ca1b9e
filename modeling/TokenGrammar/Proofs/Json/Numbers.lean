import Mathlib.Data.List.Forall2
import TokenGrammar.Proofs.Json.Unambiguous
import TokenGrammar.Proofs.Success

/-! # Numbers as they are written

A number is a whole number without needless zeros, and there may be a fraction and an exponent. What
is read of it, or the fault that is found in it, does not depend on what follows, if no number goes
on there.

* `Json.Layout.IsNumber`: the texts of numbers.
* `Json.Reading.number_uniform`: a number is read in the same way whatever follows.
* `Json.Reading.exists_isSize_of_number`: what is read as a number is the text of one. -/

namespace TokenGrammar.Json

namespace Layout

open Json.Reading (Input)

/-- Decimal digits with their values. -/
def Digits (text : Input) (values : List Nat) : Prop :=
  List.Forall₂ (fun next d => next.bind Numeral.decimalDigit? = some d) text values

/-- Whether a character is a decimal digit. -/
def isDigit (next : Option Char) : Bool :=
  (next.bind Numeral.decimalDigit?).isSome

/-- The text of a whole number, which starts with a zero only if it is zero. -/
inductive IsWhole : Input → Prop where
  /-- Zero. -/
  | zero {text : Input} (digits : Digits text [0]) : IsWhole text
  /-- Another number. -/
  | positive {text : Input} {d : Nat} {values : List Nat} (digits : Digits text (d :: values))
      (positive : d ≠ 0) : IsWhole text

/-- The text of a fraction that may be left out. -/
inductive IsFraction : Input → Prop where
  /-- No fraction. -/
  | none : IsFraction []
  /-- A point and digits. -/
  | some {text : Input} {d : Nat} {values : List Nat} (digits : Digits text (d :: values)) :
      IsFraction (some '.' :: text)

/-- The text of an exponent that may be left out. -/
inductive IsExponent : Input → Prop where
  /-- No exponent. -/
  | none : IsExponent []
  /-- A letter, a sign that may be left out, and digits. -/
  | some {mark : Char} {sign text : Input} {d : Nat} {values : List Nat}
      (isMark : mark = 'e' ∨ mark = 'E')
      (isSign : sign = [] ∨ sign = [some '+'] ∨ sign = [some '-'])
      (digits : Digits text (d :: values)) : IsExponent (some mark :: (sign ++ text))

/-- The text of a number without its sign. -/
def IsSize (text : Input) : Prop :=
  ∃ whole fraction exponent, IsWhole whole ∧ IsFraction fraction ∧ IsExponent exponent ∧
    text = whole ++ (fraction ++ exponent)

/-- The text of a number. -/
def IsNumber (text : Input) : Prop :=
  IsSize text ∨ ∃ size, IsSize size ∧ text = some '-' :: size

end Layout

namespace Reading

open Layout
open Text (Breaks breaks_cons breaks_nil)

variable {text rest exponent fraction : Input} {d : Nat} {values : List Nat}

/-! ## Digits -/

/-- The decimal digits. -/
theorem mem_of_decimalDigit? {c : Char} {d : Nat} (digit : Numeral.decimalDigit? c = some d) :
    c ∈ ['0', '1', '2', '3', '4', '5', '6', '7', '8', '9'] := by
  by_cases range : '0' ≤ c ∧ c ≤ '9'
  · have byCode : ∀ n < 58, 48 ≤ n →
        Char.ofNat n ∈ ['0', '1', '2', '3', '4', '5', '6', '7', '8', '9'] := by decide
    have found := byCode c.toNat (Nat.lt_succ_of_le range.2) range.1
    rwa [Char.ofNat_toNat] at found
  · simp [Numeral.decimalDigit?, range] at digit

/-- A digit can be part of a number. -/
theorem continuesNumber_of_isDigit {next : Option Char} (digit : isDigit next = true) :
    continuesNumber next = true := by
  cases next with
  | none => cases digit
  | some c =>
      by_cases range : '0' ≤ c ∧ c ≤ '9'
      · have isDigit : c.isDigit = true := by
          simp only [Char.isDigit, Bool.and_eq_true, decide_eq_true_eq]
          exact range
        simp [continuesNumber, isOfNumber, isDigit]
      · simp [isDigit, Numeral.decimalDigit?, range] at digit

/-- Where no number goes on there is no digit. -/
theorem breaks_isDigit (breaks : Breaks continuesNumber rest) : Breaks isDigit rest := by
  intro next head
  by_contra digit
  have goesOn := continuesNumber_of_isDigit (by simpa using digit)
  rw [breaks next head] at goesOn
  cases goesOn

/-- Where no number goes on there is no character of a number. -/
theorem startsWith_eq_false {c : Char} (ofNumber : isOfNumber c = true)
    (breaks : Breaks continuesNumber rest) : startsWith c rest = false := by
  cases rest with
  | nil => rfl
  | cons next rest =>
      have other : next ≠ some c := by
        rintro rfl
        have goesOn := breaks_cons.mp breaks
        simp [continuesNumber, ofNumber] at goesOn
      simpa [startsWith] using other

/-- The digits of a text are taken, up to something else. -/
theorem takeDigits_append (digits : Digits text values) (breaks : Breaks isDigit rest) :
    takeDigits (text ++ rest) = (values, rest) := by
  induction digits with
  | nil =>
      cases rest with
      | nil => rfl
      | cons next rest =>
          have other : next.bind Numeral.decimalDigit? = none := by
            simpa [isDigit] using breaks_cons.mp breaks
          simp [takeDigits, other]
  | cons digit _ induction => simp [takeDigits, digit, induction]

/-- What is taken as digits are the first digits of a text. -/
theorem exists_digits_takeDigits (input : Input) :
    ∃ text, Digits text (takeDigits input).1 ∧ input = text ++ (takeDigits input).2 := by
  induction input with
  | nil => exact ⟨[], .nil, rfl⟩
  | cons next rest induction =>
      obtain ⟨text, digits, whole⟩ := induction
      cases digit : next.bind Numeral.decimalDigit? with
      | none => exact ⟨[], by simp [takeDigits, digit, Digits], by simp [takeDigits, digit]⟩
      | some d =>
          refine ⟨next :: text, ?_, ?_⟩
          · simpa [takeDigits, digit, Digits] using digits
          · simpa [takeDigits, digit] using whole

/-- The first digit of a text. -/
theorem digit?_eq (input : Input) : digit? input = (takeDigits input).1.head? := by
  cases input with
  | nil => rfl
  | cons next rest =>
      cases next with
      | none => rfl
      | some c => cases digit : Numeral.decimalDigit? c <;> simp [digit?, takeDigits, digit]

/-- What follows the first digits of a text. -/
theorem skipDigits_eq (input : Input) : skipDigits input = (takeDigits input).2 := by
  induction input with
  | nil => rfl
  | cons next rest induction =>
      rw [skipDigits] at induction ⊢
      cases next with
      | none => rfl
      | some c => cases digit : Numeral.decimalDigit? c <;> simp_all [takeDigits]

/-- A text that starts with a digit. -/
theorem digit?_append (digits : Digits text (d :: values)) (rest : Input) :
    digit? (text ++ rest) = some d := by
  cases digits with
  | @cons next _ following _ digit _ =>
      obtain ⟨c, rfl, digit⟩ := Option.bind_eq_some_iff.mp digit
      exact digit

/-- A text that does not start with a digit. -/
theorem digit?_eq_none (breaks : Breaks isDigit rest) : digit? rest = none := by
  have taken := takeDigits_append .nil breaks
  rw [List.nil_append] at taken
  rw [digit?_eq, taken]
  rfl

/-- An exponent does not start with a digit. -/
theorem breaks_exponent (isExponent : IsExponent exponent) (breaks : Breaks isDigit rest) :
    Breaks isDigit (exponent ++ rest) := by
  cases isExponent with
  | none => exact breaks
  | some isMark =>
      refine breaks_cons.mpr ?_
      rcases isMark with rfl | rfl <;> decide

/-- A fraction does not start with a digit. -/
theorem breaks_fraction (isFraction : IsFraction fraction) (breaks : Breaks isDigit rest) :
    Breaks isDigit (fraction ++ rest) := by
  cases isFraction with
  | none => exact breaks
  | some digits => exact breaks_cons.mpr (by decide)

/-! ## Numbers that are read -/

/-- Whether a reader of numbers makes the same of a text whatever follows, if no number goes on
there. -/
def Uniform {α : Type} (reader : Input → Except ReadError (α × Input)) (text : Input) : Prop :=
  ∃ outcome : Except ReadError α, ∀ rest, Breaks continuesNumber rest →
    reader (text ++ rest) = outcome.map fun value => (value, rest)

/-- The digits of an exponent do not start like its sign. -/
theorem ne_sign_of_digits (digits : Digits text (d :: values)) :
    ∃ c following, text = some c :: following ∧ c ≠ '+' ∧ c ≠ '-' := by
  cases digits with
  | @cons next _ following _ digit _ =>
      obtain ⟨c, rfl, digit⟩ := Option.bind_eq_some_iff.mp digit
      refine ⟨c, following, rfl, ?_, ?_⟩ <;>
      · rintro rfl
        exact absurd digit (by simp [Numeral.decimalDigit?])

variable (negative : Bool) (significand : Nat) (scale : Int)

/-- The digits of an exponent are read in the same way whatever follows. -/
theorem exponentPart_uniform {sign : Input}
    (isSign : sign = [] ∨ sign = [some '+'] ∨ sign = [some '-'])
    (digits : Digits text (d :: values)) :
    Uniform (exponentPart negative significand scale) (sign ++ text) := by
  have taken : ∀ rest, Breaks continuesNumber rest →
      takeDigits (text ++ rest) = (d :: values, rest) :=
    fun rest breaks => takeDigits_append digits (breaks_isDigit breaks)
  let power : Nat := (d :: values).foldl (fun n d => n * 10 + d) 0
  rcases isSign with rfl | rfl | rfl
  · refine ⟨realNumber negative significand (scale + power), fun rest breaks => ?_⟩
    obtain ⟨c, following, rfl, noPlus, noMinus⟩ := ne_sign_of_digits digits
    have taken := taken rest breaks
    rw [List.cons_append] at taken
    simp [exponentPart, taken, noPlus, noMinus, power]
    rfl
  · refine ⟨realNumber negative significand (scale + power), fun rest breaks => ?_⟩
    simp [exponentPart, taken rest breaks, power]
    rfl
  · refine ⟨realNumber negative significand (scale - power), fun rest breaks => ?_⟩
    simp [exponentPart, taken rest breaks, power]
    rfl

/-- What follows the digits of a fraction is read in the same way whatever follows that. -/
theorem afterFraction_uniform (isExponent : IsExponent exponent) :
    Uniform (afterFraction negative significand scale) exponent := by
  cases isExponent with
  | none =>
      refine ⟨realNumber negative significand scale, fun rest breaks => ?_⟩
      have small := startsWith_eq_false (c := 'e') (by decide) breaks
      have large := startsWith_eq_false (c := 'E') (by decide) breaks
      simp [afterFraction, small, large]
      rfl
  | @some mark sign text d values isMark isSign digits =>
      obtain ⟨outcome, reads⟩ := exponentPart_uniform negative significand scale isSign digits
      refine ⟨outcome, fun rest breaks => ?_⟩
      have marked : (startsWith 'e' (some mark :: (sign ++ text) ++ rest) ||
          startsWith 'E' (some mark :: (sign ++ text) ++ rest)) = true := by
        rcases isMark with rfl | rfl <;> rfl
      rw [afterFraction, marked]
      exact reads rest breaks

/-- A fraction is read in the same way whatever follows. -/
theorem fractionPart_uniform (digits : Digits text (d :: values))
    (isExponent : IsExponent exponent) :
    Uniform (fractionPart negative significand scale) (text ++ exponent) := by
  obtain ⟨value, dropped, appended⟩ :
      ∃ value dropped, appendDigits significand (d :: values) = (value, dropped) := ⟨_, _, rfl⟩
  obtain ⟨outcome, reads⟩ := afterFraction_uniform negative value
    (scale - ((d :: values).length - dropped.length : Nat)) isExponent
  refine ⟨outcome, fun rest breaks => ?_⟩
  have taken := takeDigits_append digits (breaks_exponent isExponent (breaks_isDigit breaks))
  rw [List.append_assoc, fractionPart, taken]
  simp only [appended]
  exact reads rest breaks

/-- What follows the digits of a whole number is read in the same way whatever follows that. -/
theorem afterWhole_uniform (dropped : Nat) (isFraction : IsFraction fraction)
    (isExponent : IsExponent exponent) :
    Uniform (afterWhole negative significand dropped) (fraction ++ exponent) := by
  cases isFraction with
  | some digits =>
      obtain ⟨outcome, reads⟩ :=
        fractionPart_uniform negative significand dropped digits isExponent
      exact ⟨outcome, reads⟩
  | none =>
      cases isExponent with
      | none =>
          have noMark : ∀ {rest : Input}, Breaks continuesNumber rest →
              startsWith '.' rest = false ∧ startsWith 'e' rest = false ∧
                startsWith 'E' rest = false :=
            fun breaks => ⟨startsWith_eq_false (by decide) breaks,
              startsWith_eq_false (by decide) breaks, startsWith_eq_false (by decide) breaks⟩
          by_cases held : dropped = 0
          · refine ⟨.ok (wholeNumber negative significand), fun rest breaks => ?_⟩
            obtain ⟨noPoint, small, large⟩ := noMark breaks
            simp [afterWhole, noPoint, small, large, held, Except.map]
          · refine ⟨realNumber negative significand dropped, fun rest breaks => ?_⟩
            obtain ⟨noPoint, small, large⟩ := noMark breaks
            simp [afterWhole, noPoint, small, large, held]
            rfl
      | @some mark sign text d values isMark isSign digits =>
          obtain ⟨outcome, reads⟩ :=
            exponentPart_uniform negative significand dropped isSign digits
          refine ⟨outcome, fun rest breaks => ?_⟩
          have marked : startsWith '.' (some mark :: (sign ++ text) ++ rest) = false ∧
              (startsWith 'e' (some mark :: (sign ++ text) ++ rest) ||
                startsWith 'E' (some mark :: (sign ++ text) ++ rest)) = true := by
            rcases isMark with rfl | rfl <;> exact ⟨rfl, rfl⟩
          rw [List.nil_append, afterWhole, marked.1, marked.2]
          exact reads rest breaks

/-- **A number is read in the same way whatever follows**, if no number goes on there. -/
theorem number_uniform (isSize : IsSize text) : Uniform (number negative) text := by
  obtain ⟨whole, fraction, exponent, isWhole, isFraction, isExponent, rfl⟩ := isSize
  -- The digits end where the fraction, the exponent or the rest starts.
  have breaksOff : ∀ {rest}, Breaks continuesNumber rest →
      Breaks isDigit (fraction ++ exponent ++ rest) := by
    intro rest breaks
    rw [List.append_assoc]
    exact breaks_fraction isFraction (breaks_exponent isExponent (breaks_isDigit breaks))
  cases isWhole with
  | zero digits =>
      obtain ⟨outcome, reads⟩ := afterWhole_uniform negative 0 0 isFraction isExponent
      refine ⟨outcome, fun rest breaks => ?_⟩
      have taken := takeDigits_append digits (breaksOff breaks)
      rw [List.append_assoc, number, taken]
      exact reads rest breaks
  | @positive d values digits positive =>
      obtain ⟨value, dropped, appended⟩ :
          ∃ value dropped, appendDigits 0 (d :: values) = (value, dropped) := ⟨_, _, rfl⟩
      obtain ⟨outcome, reads⟩ :=
        afterWhole_uniform negative value dropped.length isFraction isExponent
      refine ⟨outcome, fun rest breaks => ?_⟩
      have taken := takeDigits_append digits (breaksOff breaks)
      obtain ⟨less, rfl⟩ := Nat.exists_eq_succ_of_ne_zero positive
      rw [List.append_assoc, number, taken]
      simp only [appended]
      exact reads rest breaks

/-! ## What is read as a number -/

variable {negative significand scale} {input : Input} {value : Number}

/-- A text that starts with a character. -/
theorem eq_cons_of_startsWith {c : Char} (starts : startsWith c input = true) :
    input = some c :: input.drop 1 := by
  cases input with
  | nil => cases starts
  | cons next rest =>
      have first : next = some c := by simpa [startsWith] using starts
      rw [first, List.drop_one, List.tail_cons]

/-- A text that starts with one of the letters of exponents. -/
theorem exists_mark_of_startsWith
    (starts : (startsWith 'e' input || startsWith 'E' input) = true) :
    ∃ mark, (mark = 'e' ∨ mark = 'E') ∧ input = some mark :: input.drop 1 := by
  rcases Bool.or_eq_true _ _ ▸ starts with small | large
  · exact ⟨'e', .inl rfl, eq_cons_of_startsWith small⟩
  · exact ⟨'E', .inr rfl, eq_cons_of_startsWith large⟩

/-- The digits that a text starts with. -/
theorem exists_digits_of_takeDigits (taken : takeDigits input = (values, rest)) :
    ∃ text, Digits text values ∧ input = text ++ rest := by
  have digits := exists_digits_takeDigits input
  rwa [taken] at digits

/-- What is read as the rest of an exponent is a sign, which may be left out, and digits. -/
theorem exists_digits_of_exponentPart
    (read : exponentPart negative significand scale input = .ok (value, rest)) :
    ∃ sign text d values, (sign = [] ∨ sign = [some '+'] ∨ sign = [some '-']) ∧
      Digits text (d :: values) ∧ input = sign ++ text ++ rest := by
  rw [exponentPart.eq_def] at read
  split at read
  rename_i down start signed
  -- The digits start after the sign, if there is one.
  obtain ⟨sign, isSign, rfl⟩ : ∃ sign, (sign = [] ∨ sign = [some '+'] ∨ sign = [some '-']) ∧
      input = sign ++ start := by
    split at signed
    · exact ⟨[some '+'], .inr (.inl rfl), by rw [(Prod.mk.inj signed).2]; rfl⟩
    · exact ⟨[some '-'], .inr (.inr rfl), by rw [(Prod.mk.inj signed).2]; rfl⟩
    · exact ⟨[], .inl rfl, (Prod.mk.inj signed).2⟩
  cases taken : takeDigits start with
  | mk digits remaining =>
      simp only [taken] at read
      cases digits with
      | nil => cases remaining <;> cases read
      | cons d values =>
          obtain ⟨_, -, done⟩ := bind_eq_ok_iff.mp read
          cases done
          obtain ⟨text, isDigits, rfl⟩ := exists_digits_of_takeDigits taken
          exact ⟨sign, text, d, values, isSign, isDigits, (List.append_assoc _ _ _).symm⟩

/-- What is read after the digits of a fraction is an exponent, which may be left out. -/
theorem exists_isExponent_of_afterFraction
    (read : afterFraction negative significand scale input = .ok (value, rest)) :
    ∃ exponent, IsExponent exponent ∧ input = exponent ++ rest := by
  rw [afterFraction] at read
  by_cases marked : (startsWith 'e' input || startsWith 'E' input) = true
  · rw [if_pos marked] at read
    obtain ⟨mark, isMark, whole⟩ := exists_mark_of_startsWith marked
    obtain ⟨sign, text, d, values, isSign, digits, following⟩ := exists_digits_of_exponentPart read
    exact ⟨_, .some isMark isSign digits, by rw [whole, following]; rfl⟩
  · rw [if_neg marked] at read
    obtain ⟨_, -, done⟩ := bind_eq_ok_iff.mp read
    cases done
    exact ⟨[], .none, rfl⟩

/-- What is read as the rest of a fraction is digits and an exponent, which may be left out. -/
theorem exists_digits_of_fractionPart
    (read : fractionPart negative significand scale input = .ok (value, rest)) :
    ∃ text exponent d values, Digits text (d :: values) ∧ IsExponent exponent ∧
      input = text ++ (exponent ++ rest) := by
  rw [fractionPart] at read
  cases taken : takeDigits input with
  | mk digits remaining =>
      simp only [taken] at read
      cases digits with
      | nil => cases remaining <;> cases read
      | cons d values =>
          obtain ⟨exponent, isExponent, rfl⟩ := exists_isExponent_of_afterFraction read
          obtain ⟨text, isDigits, rfl⟩ := exists_digits_of_takeDigits taken
          exact ⟨text, exponent, d, values, isDigits, isExponent, rfl⟩

/-- What is read after the digits of a whole number is a fraction and an exponent, each of which may
be left out. -/
theorem exists_of_afterWhole {dropped : Nat}
    (read : afterWhole negative significand dropped input = .ok (value, rest)) :
    ∃ fraction exponent, IsFraction fraction ∧ IsExponent exponent ∧
      input = fraction ++ (exponent ++ rest) := by
  rw [afterWhole] at read
  by_cases point : startsWith '.' input = true
  · rw [if_pos point] at read
    obtain ⟨text, exponent, d, values, digits, isExponent, following⟩ :=
      exists_digits_of_fractionPart read
    refine ⟨_, exponent, .some digits, isExponent, ?_⟩
    rw [eq_cons_of_startsWith point, following]
    rfl
  rw [if_neg point] at read
  by_cases marked : (startsWith 'e' input || startsWith 'E' input) = true
  · rw [if_pos marked] at read
    obtain ⟨mark, isMark, whole⟩ := exists_mark_of_startsWith marked
    obtain ⟨sign, text, d, values, isSign, digits, following⟩ := exists_digits_of_exponentPart read
    exact ⟨[], _, .none, .some isMark isSign digits, by rw [whole, following]; rfl⟩
  rw [if_neg marked] at read
  by_cases held : dropped = 0
  · rw [if_pos held] at read
    cases read
    exact ⟨[], [], .none, .none, rfl⟩
  · rw [if_neg held] at read
    obtain ⟨_, -, done⟩ := bind_eq_ok_iff.mp read
    cases done
    exact ⟨[], [], .none, .none, rfl⟩

/-- **What is read as a number is the text of one.** -/
theorem exists_isSize_of_number (read : number negative input = .ok (value, rest)) :
    ∃ text, IsSize text ∧ input = text ++ rest := by
  rw [number] at read
  cases taken : takeDigits input with
  | mk digits remaining =>
      simp only [taken] at read
      obtain ⟨whole, isDigits, rfl⟩ := exists_digits_of_takeDigits taken
      -- A first zero has to be the only digit.
      obtain ⟨isWhole, further⟩ : IsWhole whole ∧ ∃ significand dropped,
          afterWhole negative significand dropped remaining = .ok (value, rest) := by
        match digits with
        | [] => cases remaining <;> cases read
        | [0] => exact ⟨.zero isDigits, _, _, read⟩
        | 0 :: _ :: _ => cases read
        | (d + 1) :: values => exact ⟨.positive isDigits d.succ_ne_zero, _, _, read⟩
      obtain ⟨significand, dropped, after⟩ := further
      obtain ⟨fraction, exponent, isFraction, isExponent, rfl⟩ := exists_of_afterWhole after
      exact ⟨_, ⟨whole, fraction, exponent, isWhole, isFraction, isExponent, rfl⟩, by simp⟩

end Reading

end TokenGrammar.Json
