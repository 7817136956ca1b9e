import TokenGrammar.Proofs.Json.Numbers

/-! # Numbers that do not matter

A number that is not read is skipped in the same parts: the digits, the fraction and the exponent.

* `Json.Reading.skipNumber_eq`: a number is skipped part by part.
* `Json.Reading.skipNumber_append`: the text of a number is skipped.
* `Json.Reading.exists_isSize_of_skipNumber`: what is skipped as a number is the text of one. -/

namespace TokenGrammar.Json.Reading

open Layout
open Text (Breaks breaks_cons breaks_nil)

variable {text rest exponent fraction input : Input}

/-! ## Parts of numbers -/

/-- Skip the digits of a whole number. -/
def skipWhole (input : Input) : Except ReadError Input :=
  match digit? input with
  | none => throw .invalidNumber
  | some 0 =>
      if (digit? (input.drop 1)).isSome then throw .invalidNumber else pure (input.drop 1)
  | some _ => pure (skipDigits input)

/-- Skip a fraction, if there is one. -/
def skipFraction (input : Input) : Except ReadError Input :=
  if startsWith '.' input then
    if (digit? (input.drop 1)).isSome then pure (skipDigits (input.drop 1))
    else throw .invalidNumber
  else pure input

/-- Skip an exponent with its letter, if there is one. -/
def skipScale (input : Input) : Except ReadError Input :=
  if startsWith 'e' input || startsWith 'E' input then skipExponent (input.drop 1) else pure input

/-- A number is skipped part by part. -/
theorem skipNumber_eq (input : Input) :
    skipNumber input =
      skipWhole input >>= fun following => skipFraction following >>= skipScale := by
  have further : ∀ whole : Input,
      (if startsWith '.' whole then
        if (digit? (whole.drop 1)).isSome then skipScale (skipDigits (whole.drop 1))
        else .error .invalidNumber
      else skipScale whole) = skipFraction whole >>= skipScale := by
    intro whole
    rw [skipFraction]
    split
    · split <;> rfl
    · rfl
  unfold skipNumber skipWhole
  cases digit? input with
  | none => rfl
  | some d =>
      match d with
      | 0 =>
          by_cases more : (digit? (input.drop 1)).isSome = true
          · simp only [more, if_true]
            rfl
          · simp only [more, if_false, Bool.false_eq_true, pure_bind]
            exact further _
      | d + 1 => exact further _

/-- A whole number is skipped. -/
theorem skipWhole_append {whole : Input} (isWhole : IsWhole whole) (breaks : Breaks isDigit rest) :
    skipWhole (whole ++ rest) = .ok rest := by
  cases isWhole with
  | zero digits =>
      have first := digit?_append digits rest
      cases digits with
      | cons _ others =>
          cases others
          rw [skipWhole, first, List.singleton_append]
          simp [digit?_eq_none breaks, pure, Except.pure]
  | @positive d values digits positive =>
      have taken := takeDigits_append digits breaks
      obtain ⟨less, rfl⟩ := Nat.exists_eq_succ_of_ne_zero positive
      rw [skipWhole, digit?_append digits, skipDigits_eq, taken]
      rfl

/-- What is skipped as a whole number is the text of one. -/
theorem exists_isWhole_of_skipWhole (skipped : skipWhole input = .ok rest) :
    ∃ whole, IsWhole whole ∧ input = whole ++ rest := by
  obtain ⟨text, digits, whole⟩ := exists_digits_takeDigits input
  rw [skipWhole, digit?_eq, skipDigits_eq] at skipped
  generalize (takeDigits input).2 = remaining at whole skipped
  match taken : (takeDigits input).1 with
  | [] =>
      rw [taken] at skipped
      cases skipped
  | 0 :: values =>
      rw [taken] at digits skipped
      by_cases more : (digit? (input.drop 1)).isSome = true
      · simp only [List.head?_cons, more, if_true] at skipped
        cases skipped
      -- No digit follows the zero.
      simp only [List.head?_cons, more, Bool.false_eq_true, if_false] at skipped
      cases digits with
      | @cons next _ following _ digit others =>
          obtain rfl : input.drop 1 = rest := Except.ok.inj skipped
          have none : values = [] := by
            cases values with
            | nil => rfl
            | cons d values => simp [whole, digit?_append others] at more
          subst none
          exact ⟨[next], .zero (.cons digit .nil), by cases others; simp [whole]⟩
  | (d + 1) :: values =>
      rw [taken] at digits skipped
      obtain rfl : remaining = rest := Except.ok.inj skipped
      exact ⟨text, .positive digits d.succ_ne_zero, whole⟩

/-- A fraction is skipped. -/
theorem skipFraction_append (isFraction : IsFraction fraction)
    (noPoint : startsWith '.' rest = false) (breaks : Breaks isDigit rest) :
    skipFraction (fraction ++ rest) = .ok rest := by
  cases isFraction with
  | none => simp [skipFraction, noPoint, pure, Except.pure]
  | @some text d values digits =>
      have taken := takeDigits_append digits breaks
      have first := digit?_append digits rest
      have point : startsWith '.' (some '.' :: text ++ rest) = true := rfl
      rw [skipFraction, if_pos point, List.cons_append, List.drop_one, List.tail_cons, first,
        skipDigits_eq, taken]
      rfl

/-- What is skipped as a fraction is the text of one. -/
theorem exists_isFraction_of_skipFraction (skipped : skipFraction input = .ok rest) :
    ∃ fraction, IsFraction fraction ∧ input = fraction ++ rest := by
  rw [skipFraction] at skipped
  by_cases point : startsWith '.' input = true
  · obtain ⟨text, digits, whole⟩ := exists_digits_takeDigits (input.drop 1)
    rw [if_pos point, digit?_eq, skipDigits_eq] at skipped
    generalize (takeDigits (input.drop 1)).2 = remaining at whole skipped
    match taken : (takeDigits (input.drop 1)).1 with
    | [] =>
        rw [taken] at skipped
        cases skipped
    | d :: values =>
        rw [taken] at digits skipped
        obtain rfl : remaining = rest := Except.ok.inj skipped
        exact ⟨_, .some digits, by rw [eq_cons_of_startsWith point, whole]; rfl⟩
  · rw [if_neg point] at skipped
    obtain rfl : input = rest := Except.ok.inj skipped
    exact ⟨[], .none, rfl⟩

/-- An exponent is skipped. -/
theorem skipScale_append (isExponent : IsExponent exponent)
    (breaks : Breaks continuesNumber rest) : skipScale (exponent ++ rest) = .ok rest := by
  cases isExponent with
  | none =>
      have small := startsWith_eq_false (c := 'e') (by decide) breaks
      have large := startsWith_eq_false (c := 'E') (by decide) breaks
      simp [skipScale, small, large, pure, Except.pure]
  | @some mark sign text d values isMark isSign digits =>
      have marked : (startsWith 'e' (some mark :: (sign ++ text) ++ rest) ||
          startsWith 'E' (some mark :: (sign ++ text) ++ rest)) = true := by
        rcases isMark with rfl | rfl <;> rfl
      have taken := takeDigits_append digits (breaks_isDigit breaks)
      have first := digit?_append digits rest
      rw [skipScale, if_pos marked, List.cons_append, List.drop_one, List.tail_cons, skipExponent]
      rcases isSign with rfl | rfl | rfl
      · obtain ⟨c, following, rfl, noPlus, noMinus⟩ := ne_sign_of_digits digits
        rw [List.cons_append] at taken first
        simp [startsWith, noPlus, noMinus, first, skipDigits_eq, taken]
      · simp [startsWith, first, skipDigits_eq, taken]
      · simp [startsWith, first, skipDigits_eq, taken]

/-- What is skipped as an exponent is the text of one. -/
theorem exists_isExponent_of_skipScale (skipped : skipScale input = .ok rest) :
    ∃ exponent, IsExponent exponent ∧ input = exponent ++ rest := by
  rw [skipScale] at skipped
  by_cases marked : (startsWith 'e' input || startsWith 'E' input) = true
  · rw [if_pos marked, skipExponent] at skipped
    obtain ⟨mark, isMark, whole⟩ := exists_mark_of_startsWith marked
    generalize input.drop 1 = following at whole skipped
    obtain ⟨sign, start, isSign, rfl, done⟩ : ∃ sign start,
        (sign = [] ∨ sign = [some '+'] ∨ sign = [some '-']) ∧ following = sign ++ start ∧
          (if (digit? start).isSome then .ok (skipDigits start) else .error .invalidNumber) =
            (.ok rest : Except ReadError Input) := by
      by_cases plus : startsWith '+' following = true
      · simp only [plus, Bool.true_or, if_true] at skipped
        exact ⟨_, _, .inr (.inl rfl), eq_cons_of_startsWith plus, skipped⟩
      by_cases minus : startsWith '-' following = true
      · simp only [minus, Bool.or_true, if_true] at skipped
        exact ⟨_, _, .inr (.inr rfl), eq_cons_of_startsWith minus, skipped⟩
      · simp only [plus, minus, Bool.or_false, Bool.false_eq_true, if_false] at skipped
        exact ⟨[], following, .inl rfl, rfl, skipped⟩
    obtain ⟨text, digits, startWhole⟩ := exists_digits_takeDigits start
    rw [digit?_eq, skipDigits_eq] at done
    generalize (takeDigits start).2 = remaining at startWhole done
    match taken : (takeDigits start).1 with
    | [] =>
        rw [taken] at done
        cases done
    | d :: values =>
        rw [taken] at digits done
        obtain rfl : remaining = rest := Except.ok.inj done
        exact ⟨_, .some isMark isSign digits, by rw [whole, startWhole]; simp⟩
  · rw [if_neg marked] at skipped
    obtain rfl : input = rest := Except.ok.inj skipped
    exact ⟨[], .none, rfl⟩

/-- **A number is skipped**, if no number goes on behind it. -/
theorem skipNumber_append (isSize : IsSize text) (breaks : Breaks continuesNumber rest) :
    skipNumber (text ++ rest) = .ok rest := by
  obtain ⟨whole, fraction, exponent, isWhole, isFraction, isExponent, rfl⟩ := isSize
  have noPoint : startsWith '.' (exponent ++ rest) = false := by
    cases isExponent with
    | none => exact startsWith_eq_false (by decide) breaks
    | some isMark => rcases isMark with rfl | rfl <;> rfl
  have afterFraction := breaks_exponent isExponent (breaks_isDigit breaks)
  have afterWhole := breaks_fraction isFraction afterFraction
  rw [List.append_assoc, List.append_assoc, skipNumber_eq, skipWhole_append isWhole afterWhole]
  change skipFraction (fraction ++ (exponent ++ rest)) >>= skipScale = _
  rw [skipFraction_append isFraction noPoint afterFraction]
  exact skipScale_append isExponent breaks

/-- **What is skipped as a number is the text of one.** -/
theorem exists_isSize_of_skipNumber (skipped : skipNumber input = .ok rest) :
    ∃ text, IsSize text ∧ input = text ++ rest := by
  rw [skipNumber_eq] at skipped
  obtain ⟨_, skippedWhole, further⟩ := bind_eq_ok_iff.mp skipped
  obtain ⟨_, skippedFraction, skippedScale⟩ := bind_eq_ok_iff.mp further
  obtain ⟨whole, isWhole, rfl⟩ := exists_isWhole_of_skipWhole skippedWhole
  obtain ⟨fraction, isFraction, rfl⟩ := exists_isFraction_of_skipFraction skippedFraction
  obtain ⟨exponent, isExponent, rfl⟩ := exists_isExponent_of_skipScale skippedScale
  exact ⟨_, ⟨whole, fraction, exponent, isWhole, isFraction, isExponent, rfl⟩, by simp⟩

end TokenGrammar.Json.Reading
