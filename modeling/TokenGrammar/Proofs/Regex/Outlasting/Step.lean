import TokenGrammar.Proofs.Regex.Outlasting.Brackets
import TokenGrammar.Regex.Parser

/-! # Pieces of a pattern before a closing parenthesis

* `Regex.parseGroupOpening_outlasts`: what an opening parenthesis introduces.
* `Regex.parseCount_outlasts`: a count in braces.
* `Regex.PatternReader.step_outlasts`: every piece of a pattern is read in the same way before a
  closing parenthesis, unless the text ends within a comment. -/

namespace TokenGrammar.Regex

open Unicode (isWhiteSpace)

variable {verbose : Bool} {text rest : List Char}

/-- Where spacing is followed by no question mark, the parenthesis after it is none. -/
theorem Outlasts.of_unmarked {α : Type} {value : α}
    {parse : List Char → Except PatternError (α × List Char)}
    (same : ∀ text, (skipSpacing verbose text).head? ≠ some '?' →
      parse text = .ok (value, skipSpacing verbose text))
    (unmarked : (skipSpacing verbose text).head? ≠ some '?') :
    Outlasts parse text value (skipSpacing verbose text) := by
  rcases skipSpacing_outlasts verbose text with goesOn | ⟨blank, inComment⟩
  · left
    intro more
    rw [← goesOn]
    refine same _ ?_
    rw [goesOn]
    cases found : skipSpacing verbose text with
    | nil =>
        intro parenthesis
        cases parenthesis
    | cons c following =>
        rw [found] at unmarked
        exact unmarked
  · refine .inr ⟨blank, fun more line => ?_⟩
    have blankToo := inComment more line
    rw [same _ (by rw [blankToo]; exact fun nothing => by cases nothing), blankToo]

/-! ## Openings of groups -/

section Openings

variable {opening : GroupOpening}

/-- Flags are read in the same way whatever comes later. -/
theorem parseFlags_append {run : FlagRun} (parsed : parseFlags run text = .ok (opening, rest))
    (more : List Char) : parseFlags run (text ++ more) = .ok (opening, rest ++ more) := by
  induction text generalizing run with
  | nil => cases parsed
  | cons c following induction =>
      rw [List.cons_append]
      unfold parseFlags at parsed ⊢
      split
      · rename_i ends
        rw [if_pos ends] at parsed
        split at parsed
        · cases parsed
        · rename_i settled
          rw [if_neg settled]
          split at parsed
          · rename_i colon
            cases parsed
            rw [if_pos colon]
          · rename_i colonless
            rw [if_neg colonless]
            split at parsed
            · cases parsed
            · rename_i some
              cases parsed
              rw [if_neg some]
      · rename_i goesOn
        rw [if_neg goesOn] at parsed
        split at parsed
        · rename_i minus
          rw [if_pos minus]
          split at parsed
          · cases parsed
          · rename_i first
            rw [if_neg first]
            exact induction parsed
        · rename_i letter
          rw [if_neg letter]
          split at parsed
          · cases parsed
          · rename_i flag known
            split at parsed
            · cases parsed
            · rename_i new
              simp only [if_neg new]
              exact induction parsed

/-- The rest of a name is read in the same way whatever comes later. -/
theorem parseNameFrom_append_of_ok {name all : List Char}
    (parsed : parseNameFrom name text = .ok (all, rest)) (more : List Char) :
    parseNameFrom name (text ++ more) = .ok (all, rest ++ more) := by
  induction text generalizing name with
  | nil => cases parsed
  | cons c following induction =>
      rw [List.cons_append]
      unfold parseNameFrom at parsed ⊢
      split
      · rename_i bracket
        rw [if_pos bracket] at parsed
        cases parsed
        rfl
      · rename_i inside
        rw [if_neg inside] at parsed
        by_cases accepted : (if name = [] then isNameStart c else isNamePart c) = true
        · rw [if_pos accepted] at parsed ⊢
          exact induction parsed
        · rw [if_neg accepted] at parsed
          cases parsed

/-- A name is read in the same way whatever comes later. -/
theorem parseGroupName_append (parsed : parseGroupName text = .ok (opening, rest))
    (more : List Char) : parseGroupName (text ++ more) = .ok (opening, rest ++ more) := by
  unfold parseGroupName at parsed
  obtain ⟨⟨name, after⟩, read, parsed⟩ := bind_eq_ok_iff.mp parsed
  refine bind_eq_ok_iff.mpr ⟨_, parseNameFrom_append_of_ok read more, ?_⟩
  simp only at parsed ⊢
  split at parsed
  · cases parsed
  · rename_i named
    cases parsed
    rw [if_neg named]
    rfl

/-- What a question mark introduces is read in the same way before a closing parenthesis. -/
theorem parseMarkedGroup_append (parsed : parseMarkedGroup text = .ok (opening, rest))
    (more : List Char) :
    parseMarkedGroup (text ++ ')' :: more) = .ok (opening, rest ++ ')' :: more) := by
  unfold parseMarkedGroup at parsed
  split at parsed
  case h_6 =>
    rename_i name notBehind notBehindToo
    have solid : name ≠ [] := by
      rintro rfl
      cases parsed
    rw [List.cons_append, parseMarkedGroup]
    · exact parseGroupName_append parsed _
    · exact append_ne_cons solid notBehind _
    · exact append_ne_cons solid notBehindToo _
  case h_7 => exact parseGroupName_append parsed _
  case h_8 =>
    rename_i solid ahead notAhead _ _ unnamed unnamedToo
    unfold parseMarkedGroup
    split
    · exact absurd ‹_› (List.append_ne_nil_of_left_ne_nil solid _)
    · exact absurd ‹_› (append_ne_cons solid ahead _ _)
    · exact absurd ‹_› (append_ne_cons solid notAhead _ _)
    -- A look behind begins as a name does.
    · exact absurd ‹_› (append_ne_cons solid unnamed _ _)
    · exact absurd ‹_› (append_ne_cons solid unnamed _ _)
    · exact absurd ‹_› (append_ne_cons solid unnamed _ _)
    · exact absurd ‹_› (append_ne_cons_cons solid unnamedToo (by decide) _ _)
    · exact parseFlags_append parsed _
  all_goals cases parsed

/-- A parenthesis without a question mark opens a numbered group. -/
theorem parseGroupOpening_of_unmarked (unmarked : (skipSpacing verbose text).head? ≠ some '?') :
    parseGroupOpening verbose text = .ok (.capture none, skipSpacing verbose text) := by
  unfold parseGroupOpening
  split
  · rename_i marked
    rw [marked] at unmarked
    exact absurd rfl unmarked
  · rfl

/-- What an opening parenthesis introduces. -/
theorem parseGroupOpening_outlasts
    (parsed : parseGroupOpening verbose text = .ok (opening, rest)) :
    Outlasts (parseGroupOpening verbose) text opening rest := by
  unfold parseGroupOpening at parsed
  split at parsed
  · rename_i following marked
    left
    intro more
    rw [parseGroupOpening, skipSpacing_append_cons marked]
    exact parseMarkedGroup_append parsed more
  · rename_i unmarked
    cases parsed
    refine .of_unmarked (fun _ => parseGroupOpening_of_unmarked) ?_
    intro marked
    obtain ⟨following, marked⟩ := List.head?_eq_some_iff.mp marked
    exact unmarked following marked

end Openings

/-! ## Counts -/

section Counts

variable {count : RepetitionCount}

/-- White space at the start ends where something else begins, whatever comes later. -/
theorem dropWhile_isWhiteSpace_append (solid : text.dropWhile isWhiteSpace ≠ [])
    (more : List Char) :
    (text ++ more).dropWhile isWhiteSpace = text.dropWhile isWhiteSpace ++ more := by
  rw [List.dropWhile_append, if_neg (by rwa [List.isEmpty_iff])]

/-- A number is read in the same way whatever comes later. -/
theorem parseDecimal_append {number : Except PatternError Nat}
    (parsed : parseDecimal verbose text = (number, rest)) (solid : rest ≠ []) (more : List Char) :
    parseDecimal verbose (text ++ more) = (number, rest ++ more) := by
  unfold parseDecimal at parsed ⊢
  rcases taken : takeSpaced verbose Char.isDigit (text.dropWhile isWhiteSpace) with ⟨digits, after⟩
  rcases spaced : takeSpaced verbose isWhiteSpace after with ⟨blanks, remaining⟩
  simp only [taken, spaced] at parsed
  cases parsed
  have goesOn : after ≠ [] := by
    rintro rfl
    cases spaced
    exact solid rfl
  have start : text.dropWhile isWhiteSpace ≠ [] := by
    intro empty
    rw [empty] at taken
    cases taken
    exact goesOn rfl
  rw [dropWhile_isWhiteSpace_append start, takeSpaced_append taken goesOn]
  simp only [takeSpaced_append spaced solid]

/-- Without a question mark there is nothing to read after a count. -/
theorem parseLazyMark_of_unmarked (unmarked : (skipSpacing verbose text).head? ≠ some '?') :
    parseLazyMark verbose text = (false, skipSpacing verbose text) := by
  unfold parseLazyMark
  split
  · rename_i marked
    rw [marked] at unmarked
    exact absurd rfl unmarked
  · rfl

/-- The question mark after a count. -/
theorem parseLazyMark_outlasts (verbose : Bool) (text : List Char) :
    Outlasts (fun text => .ok (parseLazyMark verbose text)) text (parseLazyMark verbose text).1
      (parseLazyMark verbose text).2 := by
  by_cases marked : (skipSpacing verbose text).head? = some '?'
  · obtain ⟨following, marked⟩ := List.head?_eq_some_iff.mp marked
    left
    intro more
    simp only [parseLazyMark, marked, skipSpacing_append_cons marked]
  · rw [parseLazyMark_of_unmarked marked]
    exact .of_unmarked (fun _ found => congrArg _ (parseLazyMark_of_unmarked found)) marked

/-- The end of a count. -/
theorem parseCountEnd_outlasts {min : Nat} {max : Option Nat}
    (parsed : parseCountEnd verbose min max text = .ok (count, rest)) :
    Outlasts (parseCountEnd verbose min max) text count rest := by
  unfold parseCountEnd at parsed
  split at parsed
  · rename_i following
    obtain ⟨_, checked, done⟩ := bind_eq_ok_iff.mp parsed
    cases done
    exact ((parseLazyMark_outlasts verbose following).bind
      (fun lazy => RepetitionCount.check ⟨min, max, lazy⟩) checked).of_eq fun _ => rfl
  · cases parsed

/-- A count does not end with the text. -/
theorem ne_nil_of_parseCountEnd {min : Nat} {max : Option Nat}
    (parsed : parseCountEnd verbose min max text = .ok (count, rest)) : text ≠ [] := by
  rintro rfl
  cases parsed

/-- The rest of a count after its comma. -/
theorem parseCountMax_outlasts {first : Except PatternError Nat}
    (parsed : parseCountMax verbose first text = .ok (count, rest)) :
    Outlasts (parseCountMax verbose first) text count rest := by
  unfold parseCountMax at parsed
  split at parsed
  · cases parsed
  · rename_i following unlimited
    obtain ⟨min, known, parsed⟩ := bind_eq_ok_iff.mp parsed
    refine (parseCountEnd_outlasts parsed).of_eq fun more => ?_
    rw [parseCountMax, skipSpacing_append_cons unlimited, known]
    rfl
  · rename_i solid limited
    obtain ⟨min, known, parsed⟩ := bind_eq_ok_iff.mp parsed
    rcases number : parseDecimal verbose (skipSpacing verbose text) with ⟨last, remaining⟩
    rw [number] at parsed
    obtain ⟨max, limit, parsed⟩ := bind_eq_ok_iff.mp parsed
    refine (parseCountEnd_outlasts parsed).of_eq fun more => ?_
    have again := parseDecimal_append number (ne_nil_of_parseCountEnd parsed) (')' :: more)
    rw [parseCountMax, skipSpacing_append solid]
    split
    · exact absurd ‹_› (List.append_ne_nil_of_left_ne_nil solid _)
    · exact absurd ‹_› (append_ne_cons solid limited _ _)
    · simp only [known, again, limit, bind, Except.bind]

/-- The rest of a count after its first number. -/
theorem parseCountAfter_outlasts {first : Except PatternError Nat}
    (parsed : parseCountAfter verbose first text = .ok (count, rest)) :
    Outlasts (parseCountAfter verbose first) text count rest := by
  unfold parseCountAfter at parsed
  split at parsed
  · cases parsed
  · exact (parseCountMax_outlasts parsed).of_eq fun _ => rfl
  · rename_i solid unlimited
    obtain ⟨min, known, parsed⟩ := bind_eq_ok_iff.mp parsed
    refine (parseCountEnd_outlasts parsed).of_eq fun more => ?_
    unfold parseCountAfter
    split
    · exact absurd ‹_› (List.append_ne_nil_of_left_ne_nil solid _)
    · exact absurd ‹_› (append_ne_cons solid unlimited _ _)
    · rw [known]
      rfl

/-- A count in braces. -/
theorem parseCount_outlasts (parsed : parseCount verbose text = .ok (count, rest)) :
    Outlasts (parseCount verbose) text count rest := by
  unfold parseCount at parsed
  split at parsed
  · cases parsed
  · rename_i solid
    rcases number : parseDecimal verbose (skipSpacing verbose text) with ⟨first, after⟩
    rw [number] at parsed
    have goesOn : after ≠ [] := by
      rintro rfl
      cases parsed
    refine (parseCountAfter_outlasts parsed).of_eq fun more => ?_
    rw [parseCount, skipSpacing_append solid]
    have again := parseDecimal_append number goesOn (')' :: more)
    split
    · rename_i empty
      exact absurd (List.append_eq_nil_iff.mp empty).1 solid
    · simp only [again]

end Counts

/-! ## Pieces -/

/-- The mark of a repetition is read in the same way before a closing parenthesis. -/
theorem parseMark_append (min : Nat) (max : Option Nat) (text more : List Char) :
    parseMark min max (text ++ ')' :: more) =
      ((parseMark min max text).1, (parseMark min max text).2 ++ ')' :: more) := by
  unfold parseMark
  split
  · rename_i marked
    cases text with
    | nil => cases marked
    | cons c following =>
        cases marked
        rfl
  · rename_i unmarked
    split
    · exact (unmarked _ rfl).elim
    · rfl

/-- A piece of a pattern. -/
theorem parseMove_outlasts {c : Char} {move : PatternMove}
    (parsed : parseMove verbose c text = .ok (move, rest)) :
    Outlasts (parseMove verbose c) text move rest := by
  unfold parseMove at parsed
  split at parsed
  case h_1 =>
    obtain ⟨⟨opening, remaining⟩, opened, done⟩ := bind_eq_ok_iff.mp parsed
    cases done
    exact ((parseGroupOpening_outlasts opened).map PatternMove.enter).of_eq fun _ => rfl
  case h_4 =>
    obtain ⟨⟨part, remaining⟩, bracketed, done⟩ := bind_eq_ok_iff.mp parsed
    cases done
    left
    intro more
    rw [parseMove, parseClass_append bracketed]
    rfl
  case h_5 | h_6 | h_7 =>
    left
    intro more
    rw [parseMove, parseMark_append, Except.ok.inj parsed]
  case h_8 =>
    obtain ⟨⟨count, remaining⟩, counted, done⟩ := bind_eq_ok_iff.mp parsed
    cases done
    exact ((parseCount_outlasts counted).map PatternMove.repeatLast).of_eq fun _ => rfl
  case h_9 =>
    obtain ⟨⟨primitive, remaining⟩, escaped, done⟩ := bind_eq_ok_iff.mp parsed
    cases done
    refine ((parseEscape_outlasts escaped).map fun primitive =>
      PatternMove.add primitive.toPattern).of_eq fun more => ?_
    rw [parseMove]
  case h_13 =>
    cases parsed
    left
    intro more
    unfold parseMove
    split
    case h_13 => rfl
    all_goals contradiction
  all_goals
    cases parsed
    exact .inl fun _ => rfl

/-- **A piece of a pattern is read in the same way before a closing parenthesis**, unless the text
ends within a comment. -/
theorem PatternReader.step_outlasts {reader next : PatternReader} {c : Char}
    (stepped : reader.step c text = .ok (next, rest)) : Outlasts (reader.step c) text next rest := by
  unfold step at stepped
  obtain ⟨_, checked, stepped⟩ := bind_eq_ok_iff.mp stepped
  obtain ⟨⟨move, remaining⟩, parsed, stepped⟩ := bind_eq_ok_iff.mp stepped
  obtain ⟨_, moved, done⟩ := bind_eq_ok_iff.mp stepped
  cases done
  refine ((parseMove_outlasts parsed).bind reader.move moved).of_eq fun more => ?_
  rw [step, checked]
  rfl

end TokenGrammar.Regex
