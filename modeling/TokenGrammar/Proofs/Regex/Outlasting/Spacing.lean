import TokenGrammar.Proofs.Success
import TokenGrammar.Regex.Parser.Spacing
import TokenGrammar.Regex.PatternError

/-! # What is read before a closing parenthesis

What is read at the end of a text is read in the same way where the text stands in parentheses:
the closing one belongs to nothing before it. There is one exception. Under the flag `x` a comment
goes on to the end of the line, and a text that ends within a comment takes in the parenthesis and
what comes after.

* `Regex.Outlasts`: something is read in the same way before a closing parenthesis, or the text ends
  within a comment.
* `Regex.skipSpacing_outlasts`: spacing, and so the exception.
* `Regex.takeSpaced_append`: runs of characters. -/

namespace TokenGrammar.Regex

/-- What a text does not begin with, it does not begin with either when it goes on. -/
theorem append_ne_cons {c : Char} {text : List Char} (solid : text ≠ [])
    (other : ∀ after, text ≠ c :: after) (more after : List Char) : text ++ more ≠ c :: after := by
  intro same
  cases text with
  | nil => exact solid rfl
  | cons d following =>
      obtain ⟨rfl, -⟩ := List.cons.inj same
      exact other following rfl

/-- What a text does not begin with, it does not begin with either before a closing parenthesis that
is no part of it. -/
theorem append_ne_cons_cons {c d : Char} {text : List Char} (solid : text ≠ [])
    (other : ∀ after, text ≠ c :: d :: after) (sign : d ≠ ')') (more after : List Char) :
    text ++ ')' :: more ≠ c :: d :: after := by
  intro same
  cases text with
  | nil => exact solid rfl
  | cons first following =>
      obtain ⟨rfl, later⟩ := List.cons.inj same
      cases following with
      | nil => exact sign (List.cons.inj later).1.symm
      | cons second rest =>
          obtain ⟨rfl, -⟩ := List.cons.inj later
          exact other rest rfl

/-! ## Spacing -/

section Spacing

variable {verbose : Bool} {text rest more : List Char}

/-- Spacing ends where something else begins, whatever comes later. -/
theorem dropSpacing_append {inComment : Bool} (solid : dropSpacing inComment text ≠ [])
    (more : List Char) :
    dropSpacing inComment (text ++ more) = dropSpacing inComment text ++ more := by
  induction text generalizing inComment with
  | nil => cases inComment <;> exact absurd rfl solid
  | cons c rest induction =>
      cases inComment with
      | true => exact induction solid
      | false =>
          rw [List.cons_append]
          simp only [dropSpacing] at solid ⊢
          split
          · rename_i blank
            rw [if_pos blank] at solid
            exact induction solid
          · rename_i blank
            rw [if_neg blank] at solid
            split
            · rename_i sign
              rw [if_pos sign] at solid
              exact induction solid
            · rfl

/-- Spacing ends where something else begins, whatever comes later. -/
theorem skipSpacing_append (solid : skipSpacing verbose text ≠ []) (more : List Char) :
    skipSpacing verbose (text ++ more) = skipSpacing verbose text ++ more := by
  cases verbose with
  | false => rfl
  | true => exact dropSpacing_append solid more

/-- Spacing ends where something else begins, whatever comes later. -/
theorem skipSpacing_append_cons {c : Char} (skipped : skipSpacing verbose text = c :: rest)
    (more : List Char) : skipSpacing verbose (text ++ more) = c :: (rest ++ more) := by
  have solid : skipSpacing verbose text ≠ [] := by
    rw [skipped]
    exact List.cons_ne_nil c rest
  rw [skipSpacing_append solid, skipped, List.cons_append]

/-- A text of spacing alone goes on as spacing, or ends within a comment. -/
theorem dropSpacing_append_of_nil {inComment : Bool} (blank : dropSpacing inComment text = []) :
    (∀ more, dropSpacing inComment (text ++ more) = dropSpacing false more) ∨
      ∀ more, dropSpacing inComment (text ++ more) = dropSpacing true more := by
  induction text generalizing inComment with
  | nil =>
      cases inComment with
      | true => exact .inr fun _ => rfl
      | false => exact .inl fun _ => rfl
  | cons c rest induction =>
      cases inComment with
      | true => exact induction blank
      | false =>
          simp only [List.cons_append, dropSpacing] at blank ⊢
          split
          · rename_i isBlank
            rw [if_pos isBlank] at blank
            exact induction blank
          · rename_i isBlank
            rw [if_neg isBlank] at blank
            split
            · rename_i sign
              rw [if_pos sign] at blank
              exact induction blank
            · rename_i sign
              rw [if_neg sign] at blank
              cases blank

/-- A comment takes in the rest of the line. -/
theorem dropSpacing_of_line (line : '\n' ∉ text) : dropSpacing true text = [] := by
  induction text with
  | nil => rfl
  | cons c rest induction =>
      rw [List.mem_cons, not_or] at line
      have other : (c != '\n') = true := bne_iff_ne.mpr (Ne.symm line.1)
      rw [dropSpacing, other]
      exact induction line.2

/-- What is left of a text after spacing is left of it before a closing parenthesis, unless the text
ends within a comment. -/
theorem skipSpacing_outlasts (verbose : Bool) (text : List Char) :
    (∀ more, skipSpacing verbose (text ++ ')' :: more) =
        skipSpacing verbose text ++ ')' :: more) ∨
      skipSpacing verbose text = [] ∧
        ∀ more, '\n' ∉ more → skipSpacing verbose (text ++ ')' :: more) = [] := by
  -- Only spacing up to the end of the text can be a comment that goes on.
  by_cases blank : skipSpacing verbose text = []
  · cases verbose with
    | false =>
        left
        exact fun _ => rfl
    | true =>
        rw [blank]
        rcases dropSpacing_append_of_nil blank with goesOn | inComment
        · exact .inl fun more => goesOn (')' :: more)
        · refine .inr ⟨rfl, fun more line => (inComment _).trans (dropSpacing_of_line ?_)⟩
          exact List.not_mem_cons_of_ne_of_not_mem (by decide) line
  · exact .inl fun more => skipSpacing_append blank _

end Spacing

/-! ## Runs of characters -/

section Runs

variable {verbose : Bool} {accept : Char → Bool} {text : List Char}

/-- Nothing is taken of nothing. -/
theorem takeSpacedUpTo_nil (verbose : Bool) (accept : Char → Bool) (bound : Nat) :
    takeSpacedUpTo verbose accept bound [] = ([], []) := by
  cases bound <;> rfl

/-- A run ends where something else begins, whatever comes later. -/
theorem takeSpacedUpTo_append {bound larger : Nat} (enough : text.length ≤ bound)
    (more : List Char) (enoughLarger : (text ++ more).length ≤ larger)
    (solid : (takeSpacedUpTo verbose accept bound text).2 ≠ []) :
    takeSpacedUpTo verbose accept larger (text ++ more) =
      ((takeSpacedUpTo verbose accept bound text).1,
        (takeSpacedUpTo verbose accept bound text).2 ++ more) := by
  induction bound generalizing larger text with
  | zero =>
      cases List.length_eq_zero_iff.mp (Nat.le_zero.mp enough)
      exact absurd rfl solid
  | succ bound induction =>
      cases text with
      | nil => exact absurd rfl solid
      | cons c rest =>
          obtain ⟨larger, rfl⟩ : ∃ less, larger = less + 1 :=
            ⟨larger - 1, by rw [List.cons_append, List.length_cons] at enoughLarger; omega⟩
          rw [List.cons_append]
          simp only [takeSpacedUpTo] at solid ⊢
          split
          · rename_i accepted
            rw [if_pos accepted] at solid
            have further : skipSpacing verbose rest ≠ [] := by
              intro blank
              rw [blank, takeSpacedUpTo_nil] at solid
              exact solid rfl
            have short := Nat.le_trans (length_skipSpacing_le verbose rest)
              (Nat.le_of_succ_le_succ enough)
            have shortLarger : (skipSpacing verbose rest ++ more).length ≤ larger := by
              have le := length_skipSpacing_le verbose rest
              simp only [List.cons_append, List.length_cons, List.length_append] at *
              omega
            rw [skipSpacing_append further, induction short shortLarger solid]
          · rfl

/-- A run ends where something else begins, whatever comes later. -/
theorem takeSpaced_append {run rest : List Char}
    (taken : takeSpaced verbose accept text = (run, rest)) (solid : rest ≠ []) (more : List Char) :
    takeSpaced verbose accept (text ++ more) = (run, rest ++ more) := by
  have left : (takeSpacedUpTo verbose accept text.length text).2 ≠ [] := by
    rw [← takeSpaced, taken]
    exact solid
  rw [takeSpaced, takeSpacedUpTo_append (Nat.le_refl _) more (Nat.le_refl _) left, ← takeSpaced,
    taken]

end Runs

/-- Something is read at the end of a text in the same way before a closing parenthesis, or the text
ends within a comment, and then what comes after on the line goes unread. -/
def Outlasts {α : Type} (parse : List Char → Except PatternError (α × List Char))
    (text : List Char) (value : α) (rest : List Char) : Prop :=
  (∀ more, parse (text ++ ')' :: more) = .ok (value, rest ++ ')' :: more)) ∨
    rest = [] ∧ ∀ more, '\n' ∉ more → parse (text ++ ')' :: more) = .ok (value, [])

namespace Outlasts

variable {α β : Type} {verbose : Bool} {text rest : List Char} {value : α}
  {parse parse' : List Char → Except PatternError (α × List Char)}

/-- What is left unread outlasts. -/
theorem pure (value : α) (text : List Char) :
    Outlasts (fun text => .ok (value, text)) text value text :=
  .inl fun _ => rfl

/-- What leaves a text to read does not end within a comment. -/
theorem append (outlasts : Outlasts parse text value rest) (solid : rest ≠ []) (more : List Char) :
    parse (text ++ ')' :: more) = .ok (value, rest ++ ')' :: more) := by
  rcases outlasts with goesOn | ⟨none, -⟩
  · exact goesOn more
  · exact absurd none solid

/-- Two ways to read that do not differ there. -/
theorem of_eq {text' : List Char} (outlasts : Outlasts parse text value rest)
    (same : ∀ more, parse' (text' ++ ')' :: more) = parse (text ++ ')' :: more)) :
    Outlasts parse' text' value rest := by
  rcases outlasts with goesOn | ⟨none, inComment⟩
  · exact .inl fun more => (same more).trans (goesOn more)
  · exact .inr ⟨none, fun more line => (same more).trans (inComment more line)⟩

/-- Spacing may be skipped before. -/
theorem skip (outlasts : Outlasts parse (skipSpacing verbose text) value rest)
    (parsed : parse (skipSpacing verbose text) = .ok (value, rest))
    (exhausted : parse [] = .ok (value, rest) → rest = []) :
    Outlasts (fun text => parse (skipSpacing verbose text)) text value rest := by
  rcases skipSpacing_outlasts verbose text with goesOn | ⟨blank, inComment⟩
  · exact outlasts.of_eq fun more => congrArg parse (goesOn more)
  · rw [blank] at parsed
    cases exhausted parsed
    exact .inr ⟨rfl, fun more line => (congrArg parse (inComment more line)).trans parsed⟩

/-- What is left unread after spacing outlasts. -/
theorem spacing (verbose : Bool) (value : α) (text : List Char) :
    Outlasts (fun text => .ok (value, skipSpacing verbose text)) text value
      (skipSpacing verbose text) :=
  (pure value _).skip rfl fun blank => (Prod.mk.inj (Except.ok.inj blank)).2.symm

/-- Something may be made of what was read. -/
theorem bind (make : α → Except PatternError β) {made : β}
    (outlasts : Outlasts parse text value rest) (done : make value = .ok made) :
    Outlasts (fun text => parse text >>= fun (value, rest) => do
      let made ← make value
      return (made, rest)) text made rest := by
  rcases outlasts with goesOn | ⟨none, inComment⟩
  · left
    intro more
    simp only [goesOn, Bind.bind, Except.bind, done]
    rfl
  · refine .inr ⟨none, fun more line => ?_⟩
    simp only [inComment more line, Bind.bind, Except.bind, done]
    rfl

/-- What was read may be seen as something else. -/
theorem map (make : α → β) (outlasts : Outlasts parse text value rest) :
    Outlasts (fun text => parse text >>= fun (value, rest) => return (make value, rest)) text
      (make value) rest :=
  outlasts.bind (fun value => .ok (make value)) rfl

end Outlasts

end TokenGrammar.Regex
