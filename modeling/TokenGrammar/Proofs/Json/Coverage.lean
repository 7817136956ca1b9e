import TokenGrammar.Proofs.Json.Locality

/-! # What is read is well-formed

Every text that a reader accepts starts with blanks and the text of a value. So an accepted text can
be taken apart by the rules of the format.

* `Json.Reading.covers_value`: any value.
* `Json.Reading.covers_boolean`, `Json.Reading.covers_text`: values of a given shape. -/

namespace TokenGrammar.Json.Reading

open Layout

variable {bound depth : Nat}

/-- What is read as a truth value is one. -/
theorem covers_boolean : Covers boolean := by
  intro input truth rest read
  rw [boolean] at read
  split at read
  · cases read
  · rename_i following visible
    obtain ⟨blanks, blank, rfl⟩ := exists_blank_of_skipSpace visible
    obtain ⟨_, isWord, done⟩ := bind_eq_ok_iff.mp read
    cases done
    exact ⟨blanks, written (.bool true), blank, .bool true, by rw [eq_append_of_word isWord]; rfl⟩
  · rename_i following visible
    obtain ⟨blanks, blank, rfl⟩ := exists_blank_of_skipSpace visible
    obtain ⟨_, isWord, done⟩ := bind_eq_ok_iff.mp read
    cases done
    exact ⟨blanks, written (.bool false), blank, .bool false, by rw [eq_append_of_word isWord]; rfl⟩
  · cases read

/-- What is read as a string is one. -/
theorem covers_text : Covers text := by
  intro input string rest read
  rw [text] at read
  split at read
  · cases read
  · rename_i following visible
    obtain ⟨blanks, blank, rfl⟩ := exists_blank_of_skipSpace visible
    obtain ⟨body, spells, rfl⟩ := exists_spells_of_stringBody read
    exact ⟨blanks, quotes body, blank, .string ⟨body, spells.isBody, rfl⟩, by rw [quotes_append]⟩
  · cases read

/-- What is read as a member is a colon and a value, if what is read as its value is one. -/
theorem coversMember_appendMember {reader : Input → Except ReadError (Json × Input)}
    (covers : Covers reader) : CoversMember (appendMember reader) := by
  intro before name input next rest read
  obtain ⟨following, colonRead, read⟩ := bind_eq_ok_iff.mp read
  obtain ⟨⟨json, after⟩, readValue, done⟩ := bind_eq_ok_iff.mp read
  cases done
  obtain ⟨blanks, blank, rfl⟩ := exists_blank_of_colon colonRead
  obtain ⟨blanks', text, blank', isValue, rfl⟩ := covers _ _ _ readValue
  exact ⟨blanks, blanks', text, blank, blank', isValue, rfl⟩

/-- What is read as a value is one, whatever the bound. -/
theorem covers_valueUpTo (bound depth : Nat) : Covers (valueUpTo bound depth) := by
  induction bound generalizing depth with
  | zero => exact nofun
  | succ bound induction =>
      intro input json rest read
      obtain ⟨blanks, blank, whole⟩ := exists_blank_skipSpace input
      have found : ∀ text, skipSpace input = text ++ rest → IsValue text →
          ∃ blanks text, Blank blanks ∧ IsValue text ∧ input = blanks ++ (text ++ rest) :=
        fun text isText isValue => ⟨blanks, text, blank, isValue, by rw [← isText, ← whole]⟩
      rw [valueUpTo] at read
      split at read
      · cases read
      · rename_i following visible
        obtain ⟨_, isWord, done⟩ := bind_eq_ok_iff.mp read
        cases done
        exact found (written .null) (by rw [visible, eq_append_of_word isWord]; rfl) .null
      · rename_i following visible
        obtain ⟨_, isWord, done⟩ := bind_eq_ok_iff.mp read
        cases done
        exact found (written (.bool true)) (by rw [visible, eq_append_of_word isWord]; rfl)
          (.bool true)
      · rename_i following visible
        obtain ⟨_, isWord, done⟩ := bind_eq_ok_iff.mp read
        cases done
        exact found (written (.bool false)) (by rw [visible, eq_append_of_word isWord]; rfl)
          (.bool false)
      · rename_i following visible
        obtain ⟨_, readString, done⟩ := bind_eq_ok_iff.mp read
        cases done
        obtain ⟨body, spells, rfl⟩ := exists_spells_of_stringBody readString
        exact found (quotes body) (by rw [visible, quotes_append])
          (.string ⟨body, spells.isBody, rfl⟩)
      · rename_i following visible
        obtain ⟨_, readNumber, done⟩ := bind_eq_ok_iff.mp read
        cases done
        obtain ⟨size, isSize, rfl⟩ := exists_isSize_of_number readNumber
        exact found (some '-' :: size) visible (.number (.inr ⟨size, isSize, rfl⟩))
      · rename_i following visible
        change valueUpTo (bound + 1) depth (some '[' :: following) = _ at read
        by_cases room : 1 < depth
        · rw [valueUpTo_openList room] at read
          obtain ⟨_, readItems, done⟩ := map_eq_ok_iff.mp read
          cases done
          obtain ⟨items, closing, wellFormed, blankClosing, isText⟩ :=
            exists_listText_of_readList (induction _) readItems
          exact found _ (visible.trans isText) (isValue_listText wellFormed blankClosing)
        · rw [valueUpTo_full (Nat.not_lt.mp room) bound _ (.inl rfl)] at read
          cases read
      · rename_i following visible
        change valueUpTo (bound + 1) depth (some '\x7b' :: following) = _ at read
        by_cases room : 1 < depth
        · rw [valueUpTo_openObject room] at read
          obtain ⟨_, readMembers, done⟩ := map_eq_ok_iff.mp read
          cases done
          obtain ⟨members, closing, wellFormed, blankClosing, isText⟩ :=
            exists_objectText_of_readObject (coversMember_appendMember (induction _)) readMembers
          exact found _ (visible.trans isText) (isValue_objectText wellFormed blankClosing)
        · rw [valueUpTo_full (Nat.not_lt.mp room) bound _ (.inr rfl)] at read
          cases read
      · by_cases digit : (digit? (skipSpace input)).isSome
        · rw [if_pos digit] at read
          obtain ⟨_, readNumber, done⟩ := bind_eq_ok_iff.mp read
          cases done
          obtain ⟨size, isSize, isText⟩ := exists_isSize_of_number readNumber
          exact found size isText (.number (.inl isSize))
        · rw [if_neg digit] at read
          cases read

/-- **What is read as a value is one.** -/
theorem covers_value (depth : Nat) : Covers (value depth) :=
  fun input json rest => covers_valueUpTo (input.length + 1) depth input json rest

end TokenGrammar.Json.Reading
