import TokenGrammar.Json.Reader

/-! # Strings in quotes

A string that is written in quotes is read back as it was, whatever characters it has and whatever
follows the closing quote.

* `Json.quoteChar_cases`: a character is written as an escape by letter, as one by code, or as it
  is.
* `Json.Reading.stringBodyUpTo_quoteChar`: each of these is read as one step.
* `Json.Reading.stringBody_quoted`: a string is read back. -/

namespace TokenGrammar.Json

/-- How a character is written within quotes. -/
theorem quoteChar_cases (c : Char) :
    (∃ letter, quoteChar c = ['\\', letter] ∧ letter ≠ 'u' ∧
        Reading.letterEscape? letter = some c) ∨
      (c.toNat < 32 ∧ quoteChar c =
        ['\\', 'u', '0', '0', hexDigit (c.toNat / 16), hexDigit (c.toNat % 16)]) ∨
      (quoteChar c = [c] ∧ c ≠ '"' ∧ c ≠ '\\' ∧ 32 ≤ c.toNat) := by
  have byCode : ∀ n, c.toNat = n → c = Char.ofNat n := by
    intro n same
    rw [← same, Char.ofNat_toNat]
  by_cases quote : c = '"'
  · subst quote
    exact .inl ⟨'"', by decide⟩
  by_cases backslash : c = '\\'
  · subst backslash
    exact .inl ⟨'\\', by decide⟩
  by_cases backspace : c.toNat = 8
  · rw [byCode 8 backspace]
    exact .inl ⟨'b', by decide⟩
  by_cases tab : c.toNat = 9
  · rw [byCode 9 tab]
    exact .inl ⟨'t', by decide⟩
  by_cases lineFeed : c.toNat = 10
  · rw [byCode 10 lineFeed]
    exact .inl ⟨'n', by decide⟩
  by_cases formFeed : c.toNat = 12
  · rw [byCode 12 formFeed]
    exact .inl ⟨'f', by decide⟩
  by_cases return' : c.toNat = 13
  · rw [byCode 13 return']
    exact .inl ⟨'r', by decide⟩
  have others : quoteChar c = if c.toNat < 32 then
      ['\\', 'u', '0', '0', hexDigit (c.toNat / 16), hexDigit (c.toNat % 16)] else [c] := by
    rw [quoteChar, if_neg quote, if_neg backslash, if_neg backspace, if_neg tab, if_neg lineFeed,
      if_neg formFeed, if_neg return']
  by_cases control : c.toNat < 32
  · rw [if_pos control] at others
    exact .inr (.inl ⟨control, others⟩)
  · rw [if_neg control] at others
    exact .inr (.inr ⟨others, quote, backslash, Nat.not_lt.mp control⟩)

/-- A character is written with at least one character. -/
theorem length_quoteChar_pos (c : Char) : 0 < (quoteChar c).length := by
  rcases quoteChar_cases c with ⟨letter, written, -⟩ | ⟨-, written⟩ | ⟨written, -⟩ <;>
    simp [written]

namespace Reading

/-- The characters of a string as they are written within quotes. -/
def quoted (text : List Char) : Input :=
  (text.flatMap quoteChar).map some

@[simp] theorem quoted_nil : quoted [] = [] := rfl

@[simp] theorem quoted_cons (c : Char) (text : List Char) :
    quoted (c :: text) = (quoteChar c).map some ++ quoted text := by
  simp [quoted]

/-- A string is written with at least as many characters as it has. -/
theorem length_le_length_quoted (text : List Char) : text.length ≤ (quoted text).length := by
  induction text with
  | nil => exact Nat.le_refl 0
  | cons c text induction =>
      have positive := length_quoteChar_pos c
      simp only [quoted_cons, List.length_cons, List.length_append, List.length_map]
      omega

/-- The last two digits of the code of a control character give the code. -/
theorem hex?_of_control :
    ∀ n < 32, Numeral.hex? ['0', '0', hexDigit (n / 16), hexDigit (n % 16)] = some n := by
  decide

/-- The escape of a control character by its code is read as that character. -/
theorem escape_of_control {c : Char} (control : c.toNat < 32) (rest : Input) :
    escape (some 'u' :: some '0' :: some '0' :: some (hexDigit (c.toNat / 16)) ::
      some (hexDigit (c.toNat % 16)) :: rest) = .ok (c, rest) := by
  have digits := hex?_of_control c.toNat control
  have notLow : isLowSurrogate c.toNat = false := by
    simp only [isLowSurrogate, Bool.and_eq_false_iff, decide_eq_false_iff_not]
    omega
  have notHigh : isHighSurrogate c.toNat = false := by
    simp only [isHighSurrogate, Bool.and_eq_false_iff, decide_eq_false_iff_not]
    omega
  simp [escape, codeEscape, fourHexDigits, digits, notLow, notHigh, bind, Except.bind, pure,
    Except.pure]

/-- The escape of a character by its letter is read as that character. -/
theorem escape_of_letter {letter c : Char} (named : letterEscape? letter = some c)
    (byLetter : letter ≠ 'u') (rest : Input) : escape (some letter :: rest) = .ok (c, rest) := by
  simp [escape, named, byLetter]

/-- A character as it is written within quotes is read in one step. -/
theorem stringBodyUpTo_quoteChar (bound : Nat) (before : List (Option Char)) (c : Char)
    (rest : Input) :
    stringBodyUpTo (bound + 1) before ((quoteChar c).map some ++ rest) =
      stringBodyUpTo bound (some c :: before) rest := by
  have backslash : (some '\\' : Option Char) ≠ some '"' := by decide
  rcases quoteChar_cases c with
    ⟨letter, written, byLetter, named⟩ | ⟨control, written⟩ | ⟨written, quote, slash, visible⟩
  · have read := escape_of_letter named byLetter rest
    simp [written, stringBodyUpTo, backslash, read, bind, Except.bind]
  · have read := escape_of_control control rest
    simp [written, stringBodyUpTo, backslash, read, bind, Except.bind]
  · have plain : isControl (some c) = false := by simpa [isControl] using visible
    simp [written, stringBodyUpTo, quote, slash, plain]

/-- The rest of a string in quotes is read as it was written, after what was read before. -/
theorem stringBodyUpTo_quoted {bound : Nat} {text : List Char} (enough : text.length < bound)
    (before : List Char) (rest : Input) :
    stringBodyUpTo bound (before.map some).reverse (quoted text ++ some '"' :: rest) =
      .ok (.ofList (before ++ text), rest) := by
  induction text generalizing bound before with
  | nil =>
      obtain ⟨bound, rfl⟩ := Nat.exists_eq_add_one.mpr enough
      have whole : before.mapM some = some before := by
        simpa using List.mapM_pure (m := Option) (f := id) (l := before)
      simp [stringBodyUpTo, whole]
  | cons c text induction =>
      rw [List.length_cons] at enough
      obtain ⟨bound, rfl⟩ := Nat.exists_eq_add_one.mpr (Nat.zero_lt_of_lt enough)
      have further := induction (Nat.lt_of_succ_lt_succ enough) (before ++ [c])
      rw [List.map_append, List.reverse_append, List.append_assoc] at further
      rw [quoted_cons, List.append_assoc, stringBodyUpTo_quoteChar]
      exact further

/-- **A string in quotes is read back.** -/
theorem stringBody_quoted (text : String) (rest : Input) :
    stringBody (quoted text.toList ++ some '"' :: rest) = .ok (text, rest) := by
  have short := length_le_length_quoted text.toList
  have enough : text.toList.length < (quoted text.toList ++ some '"' :: rest).length + 1 := by
    simp only [List.length_append, List.length_cons]
    omega
  have read := stringBodyUpTo_quoted enough [] rest
  rwa [List.nil_append, String.ofList_toList] at read

end Reading

end TokenGrammar.Json
