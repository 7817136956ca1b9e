import TokenGrammar.Proofs.Regex.Outlasting.Spacing
import TokenGrammar.Regex.Parser.Escape

/-! # Escapes before a closing parenthesis

* `Regex.parseEscape_outlasts`: an escape is read in the same way before a closing parenthesis. -/

namespace TokenGrammar.Regex

variable {verbose : Bool} {text rest : List Char} {primitive : Primitive}

/-- A word boundary. -/
theorem parseBoundary_append (parsed : parseBoundary verbose text = .ok (primitive, rest))
    (more : List Char) :
    parseBoundary verbose (text ++ ')' :: more) = .ok (primitive, rest ++ ')' :: more) := by
  unfold parseBoundary at parsed
  split at parsed
  · rename_i following
    rw [List.cons_append, parseBoundary]
    split at parsed
    · cases parsed
    · rename_i c remaining skipped
      simp only [skipSpacing_append_cons skipped]
      split at parsed
      · rename_i named
        rw [if_pos named]
        split at parsed
        · rename_i name after taken
          have takenFurther := takeSpaced_append taken (List.cons_ne_nil _ _) (')' :: more)
          rw [List.cons_append, List.cons_append] at takenFurther
          simp only [takenFurther]
          split at parsed
          · rename_i anchor found
            cases parsed
            rfl
          · cases parsed
        · cases parsed
      · rename_i named
        rw [if_neg named]
        cases parsed
        rfl
  · rename_i unbraced
    cases parsed
    unfold parseBoundary
    split
    · rename_i following braced
      cases text with
      | nil => cases braced
      | cons c remaining =>
          rw [List.cons_append] at braced
          cases braced
          exact absurd rfl (unbraced remaining)
    · rfl

/-- A number of hexadecimal digits. -/
theorem parseHexDigits_outlasts {count : Nat} {digits all : List Char}
    (parsed : parseHexDigits verbose count digits text = .ok (all, rest)) :
    Outlasts (parseHexDigits verbose count digits) text all rest := by
  induction count generalizing digits text with
  | zero =>
      cases parsed
      exact .inl fun _ => rfl
  | succ count induction =>
      cases text with
      | nil => cases parsed
      | cons c following =>
          rw [parseHexDigits] at parsed
          split at parsed
          · rename_i digit
            -- Without a text only the last digit can have been read.
            have exhausted : parseHexDigits verbose count (digits ++ [c]) [] = .ok (all, rest) →
                rest = [] := by
              intro done
              cases count with
              | zero =>
                  cases done
                  rfl
              | succ count => cases done
            refine ((induction parsed).skip parsed exhausted).of_eq fun more => ?_
            rw [List.cons_append, parseHexDigits, if_pos digit]
          · cases parsed

/-- A code point in hexadecimal digits. -/
theorem parseHex_outlasts {width : Nat}
    (parsed : parseHex verbose width text = .ok (primitive, rest)) :
    Outlasts (parseHex verbose width) text primitive rest := by
  unfold parseHex at parsed
  split at parsed
  · cases parsed
  · rename_i following skipped
    split at parsed
    · cases parsed
    · rename_i digits c after taken
      have solid : skipSpacing verbose following ≠ [] := by
        intro blank
        rw [blank] at taken
        cases taken
      have takenFurther (more : List Char) :=
        takeSpaced_append taken (List.cons_ne_nil c after) (')' :: more)
      split at parsed
      · cases parsed
      · rename_i braced
        split at parsed
        · cases parsed
        · rename_i some
          obtain ⟨literal, made, result⟩ := bind_eq_ok_iff.mp parsed
          cases result
          refine (Outlasts.spacing verbose primitive after).of_eq fun more => ?_
          rw [parseHex, skipSpacing_append_cons skipped]
          simp only [skipSpacing_append solid, takenFurther, List.cons_append, if_neg braced,
            if_neg some, made]
          rfl
  · rename_i solid unbraced
    obtain ⟨⟨digits, left⟩, read, done⟩ := bind_eq_ok_iff.mp parsed
    obtain ⟨literal, made, result⟩ := bind_eq_ok_iff.mp done
    cases result
    refine ((parseHexDigits_outlasts read).bind (literalOfHex · (width == 2)) made).of_eq fun more => ?_
    rw [parseHex, skipSpacing_append solid]
    split
    · exact absurd ‹_› (List.append_ne_nil_of_left_ne_nil solid _)
    · exact absurd ‹_› (append_ne_cons solid unbraced _ _)
    · rfl

/-- A property. -/
theorem parseProperty_outlasts {negated : Bool}
    (parsed : parseProperty verbose negated text = .ok (primitive, rest)) :
    Outlasts (parseProperty verbose negated) text primitive rest := by
  unfold parseProperty at parsed
  split at parsed
  · cases parsed
  · rename_i following skipped
    split at parsed
    · cases parsed
    · rename_i asked c after taken
      have solid : skipSpacing verbose following ≠ [] := by
        intro blank
        rw [blank] at taken
        cases taken
      have takenFurther (more : List Char) :=
        takeSpaced_append taken (List.cons_ne_nil c after) (')' :: more)
      cases parsed
      left
      intro more
      rw [parseProperty, skipSpacing_append_cons skipped]
      simp only [skipSpacing_append solid, takenFurther, List.cons_append]
      rfl
  · rename_i c following unbraced skipped
    split at parsed
    · cases parsed
    · rename_i plain
      cases parsed
      refine (Outlasts.spacing verbose _ following).of_eq fun more => ?_
      rw [parseProperty, skipSpacing_append_cons skipped]
      split
      · rename_i empty
        cases empty
      · rename_i braced
        cases braced
        exact (unbraced rfl).elim
      · rename_i again
        cases again
        rw [if_neg plain]

/-- An escape. -/
theorem parseEscape_outlasts (parsed : parseEscape verbose text = .ok (primitive, rest)) :
    Outlasts (parseEscape verbose) text primitive rest := by
  unfold parseEscape at parsed
  split at parsed
  · cases parsed
  · rename_i c following
    split at parsed
    · cases parsed
    · rename_i digitless
      split at parsed
      · rename_i escapable
        cases parsed
        left
        intro more
        unfold parseEscape
        simp only [List.cons_append, if_neg digitless, if_pos escapable]
      · split at parsed
        case h_1 | h_2 | h_3 => exact (parseHex_outlasts parsed).of_eq fun _ => rfl
        case h_4 | h_5 => exact (parseProperty_outlasts parsed).of_eq fun _ => rfl
        case h_20 => exact .inl (parseBoundary_append parsed)
        case h_24 => cases parsed
        all_goals
          cases parsed
          exact .inl fun _ => rfl

end TokenGrammar.Regex
