import TokenGrammar.Proofs.Json.Strings
import TokenGrammar.Proofs.Success

/-! # Spellings of strings

The same string can be spelled in many ways, as every character may be escaped. A text between
quotes may also spell no string at all and still be of the right form: an escape by code may name
half of a surrogate pair. A reader that does not need the characters checks the form only.

* `Json.Layout.IsBody`: a text of the right form to stand between quotes.
* `Json.Layout.Spells`: the characters that such a text spells.
* `Json.Reading.stringBody_append`, `Json.Reading.spells_of_stringBody`: a string is read just where
  its text spells one.
* `Json.Reading.skipString_append`, `Json.Reading.exists_isBody_of_skipString`: a string is skipped
  just where its text is of the right form. -/

namespace TokenGrammar.Json

namespace Layout

open Json.Reading (Input isControl isHighSurrogate isLowSurrogate letterEscape?)

/-- Four digits with their value. -/
def IsCode (digits : List Char) (code : Nat) : Prop :=
  digits.length = 4 ∧ Numeral.hex? digits = some code

/-- The rest of an escape after the backslash, by its form. -/
inductive IsEscape : Input → Prop where
  /-- An escape by letter. -/
  | letter {letter c : Char} (named : letterEscape? letter = some c) : IsEscape [some letter]
  /-- An escape by code. -/
  | code {digits : List Char} {code : Nat} (isCode : IsCode digits code) :
      IsEscape (some 'u' :: digits.map some)

/-- The rest of an escape after the backslash, with the character it stands for. -/
inductive SpellsEscape : Input → Char → Prop where
  /-- An escape by letter. -/
  | letter {letter c : Char} (named : letterEscape? letter = some c) : SpellsEscape [some letter] c
  /-- An escape by code. -/
  | code {digits : List Char} {code : Nat} (isCode : IsCode digits code)
      (notLow : isLowSurrogate code = false) (notHigh : isHighSurrogate code = false) :
      SpellsEscape (some 'u' :: digits.map some) (Char.ofNat code)
  /-- An escape by the two codes of a surrogate pair. -/
  | pair {digits digits' : List Char} {high low : Nat} (isCode : IsCode digits high)
      (isCode' : IsCode digits' low) (notLow : isLowSurrogate high = false)
      (isHigh : isHighSurrogate high = true) (isLow : isLowSurrogate low = true) :
      SpellsEscape
        (some 'u' :: (digits.map some ++ some '\\' :: some 'u' :: digits'.map some))
        (Char.ofNat ((high - 0xD800) * 0x400 + (low - 0xDC00) + 0x10000))

/-- A text that may stand between the quotes of a string, by its form. -/
inductive IsBody : Input → Prop where
  /-- Nothing. -/
  | nil : IsBody []
  /-- A character as it is, and more. -/
  | plain {next : Option Char} {rest : Input} (quote : next ≠ some '"')
      (backslash : next ≠ some '\\') (visible : isControl next = false) (further : IsBody rest) :
      IsBody (next :: rest)
  /-- An escape, and more. -/
  | escape {unit rest : Input} (isEscape : IsEscape unit) (further : IsBody rest) :
      IsBody (some '\\' :: (unit ++ rest))

/-- A text that may stand between the quotes of a string, with the characters it spells. -/
inductive Spells : Input → List Char → Prop where
  /-- Nothing. -/
  | nil : Spells [] []
  /-- A character as it is, and more. -/
  | plain {c : Char} {rest : Input} {text : List Char} (quote : c ≠ '"') (backslash : c ≠ '\\')
      (visible : isControl (some c) = false) (further : Spells rest text) :
      Spells (some c :: rest) (c :: text)
  /-- An escape, and more. -/
  | escape {unit rest : Input} {c : Char} {text : List Char} (spells : SpellsEscape unit c)
      (further : Spells rest text) : Spells (some '\\' :: (unit ++ rest)) (c :: text)

/-- What spells a string is of the right form. -/
theorem Spells.isBody {body : Input} {text : List Char} (spells : Spells body text) :
    IsBody body := by
  induction spells with
  | nil => exact .nil
  | plain quote backslash visible _ induction =>
      exact .plain (by simpa using quote) (by simpa using backslash) visible induction
  | @escape unit rest c text spells _ induction =>
      cases spells with
      | letter named => exact .escape (.letter named) induction
      | code isCode => exact .escape (.code isCode) induction
      | @pair digits digits' high low isCode isCode' =>
          -- The two halves of a pair are two escapes by their form.
          have second : IsBody (some '\\' :: (some 'u' :: digits'.map some ++ rest)) :=
            .escape (.code isCode') induction
          have first := IsBody.escape (.code isCode) second
          simpa using first

end Layout

namespace Reading

open Layout

variable {digits : List Char} {code : Nat} {unit body rest : Input} {c : Char} {text : List Char}

/-! ## Escapes -/

/-- Four digits are read with their value. -/
theorem fourHexDigits_append (isCode : IsCode digits code) (rest : Input) :
    fourHexDigits (digits.map some ++ rest) = .ok (code, rest) := by
  obtain ⟨four, value⟩ := isCode
  match digits, four with
  | [a, b, c, d], _ => simp [fourHexDigits, value]

/-- What is read as four digits has four digits. -/
theorem exists_isCode_of_fourHexDigits {input : Input}
    (read : fourHexDigits input = .ok (code, rest)) :
    ∃ digits, IsCode digits code ∧ input = digits.map some ++ rest := by
  rw [fourHexDigits.eq_def] at read
  split at read
  · rename_i a b c d following
    split at read
    · rename_i value isValue
      simp only [Except.ok.injEq, Prod.mk.injEq] at read
      obtain ⟨rfl, rfl⟩ := read
      exact ⟨[a, b, c, d], ⟨rfl, isValue⟩, rfl⟩
    · cases read
  · split at read <;> cases read

/-- No letter is the sign of an escape by code. -/
theorem ne_of_letterEscape? {letter : Char} (named : letterEscape? letter = some c) :
    letter ≠ 'u' := by
  rintro rfl
  have noLetter : letterEscape? 'u' = none := by decide
  simp [noLetter] at named

/-- An escape is read as the character it stands for. -/
theorem escape_append (spells : SpellsEscape unit c) (rest : Input) :
    escape (unit ++ rest) = .ok (c, rest) := by
  cases spells with
  | letter named => exact escape_of_letter named (ne_of_letterEscape? named) rest
  | code isCode notLow notHigh =>
      have digits := fourHexDigits_append isCode rest
      simp [escape, codeEscape, digits, notLow, notHigh, bind, Except.bind, pure, Except.pure]
  | @pair digits digits' high low isCode isCode' notLow isHigh isLow =>
      have first :=
        fourHexDigits_append isCode (some '\\' :: some 'u' :: (digits'.map some ++ rest))
      have second := fourHexDigits_append isCode' rest
      simp [escape, codeEscape, first, second, notLow, isHigh, isLow, pairSign, bind, Except.bind,
        pure, Except.pure]

/-- What is read as the sign of a second half is that sign. -/
theorem eq_cons_of_pairSign {sign : Char} {input : Input}
    (read : pairSign sign input = .ok rest) : input = some sign :: rest := by
  cases input with
  | nil => cases read
  | cons next following =>
      by_cases same : next = some sign
      · simp only [pairSign, same, if_true, Except.ok.injEq] at read
        rw [same, read]
      · simp [pairSign, same] at read

/-- What is read as an escape by code has one code or two. -/
theorem exists_spells_of_codeEscape {input : Input} (read : codeEscape input = .ok (c, rest)) :
    ∃ unit, SpellsEscape (some 'u' :: unit) c ∧ input = unit ++ rest := by
  obtain ⟨⟨high, afterHigh⟩, first, further⟩ := bind_eq_ok_iff.mp read
  obtain ⟨digits, isCode, rfl⟩ := exists_isCode_of_fourHexDigits first
  by_cases isLow : isLowSurrogate high = true
  · simp [isLow, throw, throwThe, MonadExceptOf.throw, bind, Except.bind] at further
  by_cases isHigh : isHighSurrogate high = true
  · simp only [isLow, isHigh, Bool.not_true, Bool.false_eq_true, if_false] at further
    obtain ⟨afterBackslash, backslash, pastBackslash⟩ := bind_eq_ok_iff.mp further
    obtain ⟨afterLetter, letter, pastLetter⟩ := bind_eq_ok_iff.mp pastBackslash
    obtain ⟨⟨low, remaining⟩, second, checked⟩ := bind_eq_ok_iff.mp pastLetter
    obtain rfl := eq_cons_of_pairSign backslash
    obtain rfl := eq_cons_of_pairSign letter
    obtain ⟨digits', isCode', rfl⟩ := exists_isCode_of_fourHexDigits second
    by_cases isLow' : isLowSurrogate low = true
    · simp only [isLow', Bool.not_true, Bool.false_eq_true, if_false, pure, Except.pure,
        Except.ok.injEq, Prod.mk.injEq] at checked
      obtain ⟨rfl, rfl⟩ := checked
      refine ⟨_, .pair isCode isCode' (by simpa using isLow) isHigh isLow', ?_⟩
      simp
    · simp [isLow', throw, throwThe, MonadExceptOf.throw, bind, Except.bind] at checked
  · simp only [isLow, isHigh, Bool.not_false, if_true, if_false, Bool.false_eq_true, pure,
      Except.pure, Except.ok.injEq, Prod.mk.injEq] at further
    obtain ⟨rfl, rfl⟩ := further
    exact ⟨_, .code isCode (by simpa using isLow) (by simpa using isHigh), rfl⟩

/-- What is read as an escape stands for the character that is read. -/
theorem exists_spells_of_escape {input : Input} (read : escape input = .ok (c, rest)) :
    ∃ unit, SpellsEscape unit c ∧ input = unit ++ rest := by
  rw [escape.eq_def] at read
  split at read
  · cases read
  · obtain ⟨unit, spells, rfl⟩ := exists_spells_of_codeEscape read
    exact ⟨_, spells, rfl⟩
  · rename_i next following _
    split at read
    · rename_i c' named
      simp only [Except.ok.injEq, Prod.mk.injEq] at read
      obtain ⟨rfl, rfl⟩ := read
      obtain ⟨letter, rfl, named⟩ := Option.bind_eq_some_iff.mp named
      exact ⟨_, .letter named, rfl⟩
    · cases read

/-- An escape is skipped. -/
theorem skipEscape_append (isEscape : IsEscape unit) (rest : Input) :
    skipEscape (unit ++ rest) = .ok rest := by
  cases isEscape with
  | letter named =>
      have noCode := ne_of_letterEscape? named
      simp [skipEscape, named, noCode]
  | code isCode =>
      have digits := fourHexDigits_append isCode rest
      simp [skipEscape, digits, bind, Except.bind, pure, Except.pure]

/-- What is skipped as an escape has the form of one. -/
theorem exists_isEscape_of_skipEscape {input : Input} (skipped : skipEscape input = .ok rest) :
    ∃ unit, IsEscape unit ∧ input = unit ++ rest := by
  rw [skipEscape.eq_def] at skipped
  split at skipped
  · cases skipped
  · obtain ⟨⟨code, after⟩, read, done⟩ := bind_eq_ok_iff.mp skipped
    obtain ⟨digits, isCode, rfl⟩ := exists_isCode_of_fourHexDigits read
    obtain rfl : after = rest := Except.ok.inj done
    exact ⟨_, .code isCode, rfl⟩
  · rename_i next following _
    split at skipped
    · rename_i named
      obtain ⟨c, named⟩ := Option.isSome_iff_exists.mp named
      obtain ⟨letter, rfl, named⟩ := Option.bind_eq_some_iff.mp named
      obtain rfl : following = rest := Except.ok.inj skipped
      exact ⟨_, .letter named, rfl⟩
    · cases skipped

/-! ## Strings that are read -/

/-- What spells a string is read as that string, after what was read before. -/
theorem stringBodyUpTo_append {bound : Nat} (spells : Spells body text)
    (enough : body.length < bound) (before : List Char) (rest : Input) :
    stringBodyUpTo bound (before.map some).reverse (body ++ some '"' :: rest) =
      .ok (.ofList (before ++ text), rest) := by
  -- The characters before are kept in reverse, with the latest one in front.
  induction spells generalizing bound before with
  | nil =>
      obtain ⟨bound, rfl⟩ := Nat.exists_eq_add_one.mpr enough
      have whole : before.mapM some = some before := by
        simpa using List.mapM_pure (m := Option) (f := id) (l := before)
      simp [stringBodyUpTo, whole]
  | @plain c following text quote backslash visible _ induction =>
      rw [List.length_cons] at enough
      obtain ⟨bound, rfl⟩ := Nat.exists_eq_add_one.mpr (Nat.zero_lt_of_lt enough)
      have further := induction (Nat.lt_of_succ_lt_succ enough) (before ++ [c])
      rw [List.map_append, List.reverse_append, List.append_assoc] at further
      rw [List.cons_append, stringBodyUpTo, if_neg (by simpa using quote),
        if_neg (by simpa using backslash), visible]
      exact further
  | @escape unit following c text spells _ induction =>
      rw [List.length_cons, List.length_append] at enough
      obtain ⟨bound, rfl⟩ := Nat.exists_eq_add_one.mpr (Nat.zero_lt_of_lt enough)
      have shorter : following.length < bound := by omega
      have further := induction shorter (before ++ [c])
      rw [List.map_append, List.reverse_append, List.append_assoc] at further
      have noQuote : (some '\\' : Option Char) ≠ some '"' := by decide
      have escaped := escape_append spells (following ++ some '"' :: rest)
      rw [List.cons_append, stringBodyUpTo, if_neg noQuote, if_pos rfl, List.append_assoc, escaped]
      exact further

/-- Characters without gaps. -/
theorem eq_map_of_mapM {characters : List (Option Char)} (whole : characters.mapM id = some text) :
    characters = text.map some := by
  induction characters generalizing text with
  | nil => simp_all
  | cons next characters induction =>
      simp only [List.mapM_cons, id_eq, Option.bind_eq_bind, Option.bind_eq_some_iff,
        Option.pure_def, Option.some.injEq] at whole
      obtain ⟨c, rfl, others, further, rfl⟩ := whole
      simp [induction further]

/-- The latest character of a text without gaps, and those before it. -/
theorem exists_concat_of_cons_eq {next : Option Char} {characters : List (Option Char)}
    (same : next :: characters = (text.map some).reverse) :
    ∃ before c, next = some c ∧ text = before ++ [c] ∧ characters = (before.map some).reverse := by
  rw [← List.map_reverse] at same
  obtain ⟨c, others, reversed, rfl, rfl⟩ := List.map_eq_cons_iff.mp same.symm
  exact ⟨others.reverse, c, rfl, by simpa using congrArg List.reverse reversed, by simp⟩

/-- What is read as a string spells it. -/
theorem exists_spells_of_stringBodyUpTo {bound : Nat} {characters : List (Option Char)}
    {input : Input} {string : String}
    (read : stringBodyUpTo bound characters input = .ok (string, rest)) :
    ∃ before body text, characters = (before.map some).reverse ∧ Spells body text ∧
      input = body ++ some '"' :: rest ∧ string = .ofList (before ++ text) := by
  induction bound generalizing characters input with
  | zero => cases read
  | succ bound induction =>
      cases input with
      | nil => cases read
      | cons next following =>
          rw [stringBodyUpTo] at read
          by_cases quote : next = some '"'
          · rw [if_pos quote] at read
            split at read
            · rename_i before whole
              simp only [Except.ok.injEq, Prod.mk.injEq] at read
              obtain ⟨rfl, rfl⟩ := read
              have plain := congrArg List.reverse (eq_map_of_mapM whole)
              rw [List.reverse_reverse] at plain
              exact ⟨before, [], [], plain, .nil, by simp [quote], by simp⟩
            · cases read
          rw [if_neg quote] at read
          by_cases backslash : next = some '\\'
          · rw [if_pos backslash] at read
            obtain ⟨⟨c, remaining⟩, escaped, later⟩ := bind_eq_ok_iff.mp read
            obtain ⟨unit, spellsUnit, rfl⟩ := exists_spells_of_escape escaped
            obtain ⟨_, body, text, same, spells, rfl, rfl⟩ := induction later
            obtain ⟨before, c', found, rfl, plain⟩ := exists_concat_of_cons_eq same
            cases found
            exact ⟨before, _, _, plain, .escape spellsUnit spells, by simp [backslash], by simp⟩
          rw [if_neg backslash] at read
          by_cases control : isControl next = true
          · rw [if_pos control] at read
            cases read
          · rw [if_neg control] at read
            obtain ⟨_, body, text, same, spells, rfl, rfl⟩ := induction read
            obtain ⟨before, c, rfl, rfl, plain⟩ := exists_concat_of_cons_eq same
            refine ⟨before, _, _, plain, .plain ?_ ?_ (by simpa using control) spells, by simp,
              by simp⟩
            · simpa using quote
            · simpa using backslash

/-- **What spells a string is read as that string.** -/
theorem stringBody_append (spells : Spells body text) (rest : Input) :
    stringBody (body ++ some '"' :: rest) = .ok (.ofList text, rest) := by
  have enough : body.length < (body ++ some '"' :: rest).length + 1 := by
    simp only [List.length_append, List.length_cons]
    omega
  exact stringBodyUpTo_append spells enough [] rest

/-- **What is read as a string spells it.** -/
theorem exists_spells_of_stringBody {input : Input} {string : String}
    (read : stringBody input = .ok (string, rest)) :
    ∃ body, Spells body string.toList ∧ input = body ++ some '"' :: rest := by
  obtain ⟨before, body, text, same, spells, rfl, rfl⟩ := exists_spells_of_stringBodyUpTo read
  have first : before = [] := by simpa using same
  subst first
  exact ⟨body, by simpa using spells, rfl⟩

/-! ## Strings that are skipped -/

/-- What has the form of a string is skipped. -/
theorem skipStringUpTo_append {bound : Nat} (isBody : IsBody body) (enough : body.length < bound)
    (rest : Input) : skipStringUpTo bound (body ++ some '"' :: rest) = .ok rest := by
  induction isBody generalizing bound with
  | nil =>
      obtain ⟨bound, rfl⟩ := Nat.exists_eq_add_one.mpr enough
      simp [skipStringUpTo]
  | @plain next following quote backslash visible _ induction =>
      rw [List.length_cons] at enough
      obtain ⟨bound, rfl⟩ := Nat.exists_eq_add_one.mpr (Nat.zero_lt_of_lt enough)
      have further := induction (Nat.lt_of_succ_lt_succ enough)
      simp [skipStringUpTo, quote, backslash, visible, further]
  | @escape unit following isEscape _ induction =>
      rw [List.length_cons, List.length_append] at enough
      obtain ⟨bound, rfl⟩ := Nat.exists_eq_add_one.mpr (Nat.zero_lt_of_lt enough)
      have shorter : following.length < bound := by omega
      have further := induction shorter
      have noQuote : (some '\\' : Option Char) ≠ some '"' := by decide
      have skipped := skipEscape_append isEscape (following ++ some '"' :: rest)
      simp [skipStringUpTo, skipped, further, bind, Except.bind]

/-- What is skipped as a string has the form of one. -/
theorem exists_isBody_of_skipStringUpTo {bound : Nat} {input : Input}
    (skipped : skipStringUpTo bound input = .ok rest) :
    ∃ body, IsBody body ∧ input = body ++ some '"' :: rest := by
  induction bound generalizing input with
  | zero => cases skipped
  | succ bound induction =>
      cases input with
      | nil => cases skipped
      | cons next following =>
          rw [skipStringUpTo] at skipped
          by_cases quote : next = some '"'
          · rw [if_pos quote] at skipped
            cases skipped
            exact ⟨[], .nil, by simp [quote]⟩
          rw [if_neg quote] at skipped
          by_cases backslash : next = some '\\'
          · rw [if_pos backslash] at skipped
            obtain ⟨remaining, escaped, later⟩ := bind_eq_ok_iff.mp skipped
            obtain ⟨unit, isEscape, rfl⟩ := exists_isEscape_of_skipEscape escaped
            obtain ⟨body, isBody, rfl⟩ := induction later
            exact ⟨_, .escape isEscape isBody, by simp [backslash]⟩
          rw [if_neg backslash] at skipped
          by_cases control : isControl next = true
          · rw [if_pos control] at skipped
            cases skipped
          · rw [if_neg control] at skipped
            obtain ⟨body, isBody, rfl⟩ := induction skipped
            exact ⟨_, .plain quote backslash (by simpa using control) isBody, rfl⟩

/-- **What has the form of a string is skipped.** -/
theorem skipString_append (isBody : IsBody body) (rest : Input) :
    skipString (body ++ some '"' :: rest) = .ok rest := by
  refine skipStringUpTo_append isBody ?_ rest
  simp only [List.length_append, List.length_cons]
  omega

/-- **What is skipped as a string has the form of one.** -/
theorem exists_isBody_of_skipString {input : Input} (skipped : skipString input = .ok rest) :
    ∃ body, IsBody body ∧ input = body ++ some '"' :: rest :=
  exists_isBody_of_skipStringUpTo skipped

/-- A text in the form of a string that is read is read up to the quote, and spells what is read. -/
theorem spells_of_stringBody {string : String} {after : Input} (isBody : IsBody body)
    (read : stringBody (body ++ some '"' :: rest) = .ok (string, after)) :
    after = rest ∧ Spells body string.toList := by
  obtain ⟨body', spells, same⟩ := exists_spells_of_stringBody read
  -- Both end at the same quote, as both are skipped up to it.
  have skipped := skipString_append isBody rest
  rw [same, skipString_append spells.isBody] at skipped
  obtain rfl : after = rest := Except.ok.inj skipped
  obtain rfl : body = body' := List.append_cancel_right same
  exact ⟨rfl, spells⟩

end Reading

end TokenGrammar.Json
