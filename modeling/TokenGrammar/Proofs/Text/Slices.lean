import TokenGrammar.Tokenizer.Scan

/-! # Slices of a text

Two byte offsets cut a slice out of a text if both lie between characters and in order.

* `Text.Boundary`: an offset between two characters, or at an end of the text.
* `Text.IsSlice`: what lies between two offsets.
* `Text.IsSlice.of_boundaries`: two offsets between characters have something between them.
* `Text.IsSlice.append`: slices that touch are one slice. -/

namespace TokenGrammar

namespace Text

/-- An offset between two characters of a text, or at one of its ends. -/
def Boundary (text : List Char) (offset : Nat) : Prop :=
  ∃ before after, text = before ++ after ∧ byteLength before = offset

/-- A part of a text from one offset to another. -/
def IsSlice (text : List Char) (start stop : Nat) (part : List Char) : Prop :=
  ∃ before after, text = before ++ part ++ after ∧ byteLength before = start ∧
    byteLength (before ++ part) = stop

/-- A text without bytes is empty. -/
theorem eq_nil_of_byteLength_eq_zero {text : List Char} (none : byteLength text = 0) :
    text = [] := by
  have short := length_le_byteLength text
  rw [none] at short
  exact List.eq_nil_of_length_eq_zero (Nat.le_zero.mp short)

/-- Of two first parts of a text the one with fewer bytes is a first part of the other. -/
theorem exists_append_of_byteLength_le {left left' right right' : List Char}
    (same : left ++ right = left' ++ right') (le : byteLength left ≤ byteLength left') :
    ∃ between, left' = left ++ between ∧ right = between ++ right' := by
  rcases List.append_eq_append_iff.mp same with ⟨between, whole, rest⟩ | ⟨between, whole, rest⟩
  · exact ⟨between, whole, rest⟩
  · rw [whole, byteLength_append] at le
    have nothing : between = [] := eq_nil_of_byteLength_eq_zero (by omega)
    subst nothing
    refine ⟨[], ?_, ?_⟩
    · rw [whole, List.append_nil, List.append_nil]
    · exact rest.symm

namespace Boundary

/-- The start of a text. -/
theorem zero (text : List Char) : Boundary text 0 :=
  ⟨[], text, rfl, rfl⟩

/-- The end of a text. -/
theorem last (text : List Char) : Boundary text (byteLength text) :=
  ⟨text, [], (List.append_nil text).symm, rfl⟩

/-- An offset between characters does not lie past the end. -/
theorem le {text : List Char} {offset : Nat} (boundary : Boundary text offset) :
    offset ≤ byteLength text := by
  obtain ⟨before, after, rfl, rfl⟩ := boundary
  rw [byteLength_append]
  exact Nat.le_add_right _ _

/-- An offset between characters is how many bytes the characters before it have. -/
theorem iff_exists_take {text : List Char} {offset : Nat} :
    Boundary text offset ↔
      ∃ count ∈ List.range (text.length + 1), byteLength (text.take count) = offset := by
  constructor
  · rintro ⟨before, after, rfl, rfl⟩
    refine ⟨before.length, ?_, by rw [List.take_left]⟩
    rw [List.mem_range, List.length_append]
    omega
  · rintro ⟨count, -, rfl⟩
    exact ⟨text.take count, text.drop count, (List.take_append_drop count text).symm, rfl⟩

end Boundary

instance (text : List Char) (offset : Nat) : Decidable (Boundary text offset) :=
  decidable_of_iff' _ Boundary.iff_exists_take

namespace IsSlice

variable {text part : List Char} {start stop : Nat}

/-- Two offsets between characters have something between them. -/
theorem of_boundaries (first : Boundary text start) (last : Boundary text stop)
    (le : start ≤ stop) : ∃ part, IsSlice text start stop part := by
  obtain ⟨before, after, whole, rfl⟩ := first
  obtain ⟨before', after', whole', rfl⟩ := last
  obtain ⟨part, rfl, -⟩ := exists_append_of_byteLength_le (whole.symm.trans whole') le
  exact ⟨part, before, after', whole', rfl, rfl⟩

/-- The part is what cutting at its offsets gives. -/
theorem slice_eq (part_of : IsSlice text start stop part) : slice start stop text = part := by
  obtain ⟨before, after, rfl, rfl, rfl⟩ := part_of
  rw [byteLength_append]
  exact slice_append before part after

/-- The part has as many bytes as lie between its offsets. -/
theorem add_byteLength (part_of : IsSlice text start stop part) :
    start + byteLength part = stop := by
  obtain ⟨before, after, -, rfl, rfl⟩ := part_of
  rw [byteLength_append]

/-- Parts that touch are one part. -/
theorem append {middle : Nat} {part' : List Char} (left : IsSlice text start middle part)
    (right : IsSlice text middle stop part') : IsSlice text start stop (part ++ part') := by
  obtain ⟨before, after, whole, rfl, meet⟩ := left
  obtain ⟨before', after', whole', meet', rfl⟩ := right
  have same : before ++ part ++ after = before' ++ (part' ++ after') := by
    rw [← whole, whole', List.append_assoc]
  obtain ⟨between, join, -⟩ :=
    exists_append_of_byteLength_le same (Nat.le_of_eq (meet.trans meet'.symm))
  have nothing : between = [] := by
    apply eq_nil_of_byteLength_eq_zero
    rw [join, byteLength_append, meet] at meet'
    omega
  rw [nothing, List.append_nil] at join
  rw [join] at whole'
  refine ⟨before, after', ?_, rfl, ?_⟩
  · rw [whole', List.append_assoc before part part']
  · rw [join, List.append_assoc before part part']

/-- Nothing lies between an offset and itself. -/
theorem nil (boundary : Boundary text start) : IsSlice text start start [] := by
  obtain ⟨before, after, whole, rfl⟩ := boundary
  refine ⟨before, after, ?_, rfl, ?_⟩
  · rw [List.append_nil, whole]
  · rw [List.append_nil]

/-- From end to end lies the whole text. -/
theorem eq_of_whole (part_of : IsSlice text 0 (byteLength text) part) : part = text := by
  obtain ⟨before, after, whole, first, last⟩ := part_of
  have nothing : before = [] := eq_nil_of_byteLength_eq_zero first
  have length := congrArg byteLength whole
  rw [byteLength_append, last] at length
  have nothing' : after = [] := eq_nil_of_byteLength_eq_zero (by omega)
  rw [whole, nothing, nothing', List.nil_append, List.append_nil]

end IsSlice

end Text

/-- The text between the offsets of a slice is that slice. -/
theorem sliceText_eq {input part : List Char} {start stop : Nat}
    (part_of : Text.IsSlice input start stop part) :
    sliceText input start stop = .ofList part := by
  rw [sliceText, part_of.slice_eq]

end TokenGrammar
