/-! # Where a word ends

A word of characters of one kind goes on up to the first character of another kind. So there is one
way only to cut such a word off the start of a text.

* `Text.Breaks`: a text that does not go on with a character of some kind.
* `Text.append_inj_of_breaks`: two texts that are the same start with the same word. -/

namespace TokenGrammar.Text

variable {α : Type} {ofKind : α → Bool}

/-- Whether a text does not start with a character of some kind. -/
def Breaks (ofKind : α → Bool) (text : List α) : Prop :=
  ∀ c ∈ text.head?, ofKind c = false

@[simp] theorem breaks_nil : Breaks ofKind [] := nofun

@[simp] theorem breaks_cons {c : α} {text : List α} :
    Breaks ofKind (c :: text) ↔ ofKind c = false := by
  simp [Breaks]

/-- Of a text that starts with a word the word is what comes first of its kind. -/
theorem takeWhile_append_of_breaks {word rest : List α} (isWord : ∀ c ∈ word, ofKind c = true)
    (breaks : Breaks ofKind rest) : (word ++ rest).takeWhile ofKind = word := by
  have nothing : rest.takeWhile ofKind = [] := by
    cases rest with
    | nil => rfl
    | cons c rest => simp [breaks_cons.mp breaks]
  rw [List.takeWhile_append_of_pos isWord, nothing, List.append_nil]

/-- **Two texts that are the same start with the same word.** -/
theorem append_inj_of_breaks {left right rest other : List α}
    (isWord : ∀ c ∈ left, ofKind c = true) (isWordToo : ∀ c ∈ right, ofKind c = true)
    (breaks : Breaks ofKind rest) (breaksToo : Breaks ofKind other)
    (same : left ++ rest = right ++ other) : left = right ∧ rest = other := by
  have words : left = right := by
    have taken := congrArg (List.takeWhile ofKind) same
    rwa [takeWhile_append_of_breaks isWord breaks,
      takeWhile_append_of_breaks isWordToo breaksToo] at taken
  subst words
  exact ⟨rfl, List.append_cancel_left same⟩

end TokenGrammar.Text
