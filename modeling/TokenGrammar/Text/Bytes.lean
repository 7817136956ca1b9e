/-! # Text in bytes

Positions in a text count the bytes of its UTF-8 form.

* `Text.byteLength`: the length of a text in bytes.
* `Text.slice`: the characters between two byte offsets. -/

namespace TokenGrammar.Text

/-- Length of a text in bytes. -/
def byteLength : List Char → Nat
  | [] => 0
  | c :: rest => c.utf8Size + byteLength rest

/-- A text without its first bytes, character by character. -/
def dropBytes : Nat → List Char → List Char
  | 0, text => text
  | _, [] => []
  | count, c :: rest => dropBytes (count - c.utf8Size) rest

/-- The first bytes of a text, character by character. -/
def takeBytes : Nat → List Char → List Char
  | 0, _ => []
  | _, [] => []
  | count, c :: rest => c :: takeBytes (count - c.utf8Size) rest

/-- The characters between two byte offsets. -/
def slice (start stop : Nat) (text : List Char) : List Char :=
  takeBytes (stop - start) (dropBytes start text)

@[simp] theorem byteLength_nil : byteLength [] = 0 := rfl

@[simp] theorem byteLength_cons (c : Char) (rest : List Char) :
    byteLength (c :: rest) = c.utf8Size + byteLength rest := rfl

@[simp] theorem byteLength_append (left right : List Char) :
    byteLength (left ++ right) = byteLength left + byteLength right := by
  induction left with
  | nil => simp
  | cons c rest induction => simp [induction, Nat.add_assoc]

/-- A character takes at least one byte, so a text has at least as many bytes as characters. -/
theorem length_le_byteLength (text : List Char) : text.length ≤ byteLength text := by
  induction text with
  | nil => exact Nat.le_refl 0
  | cons c rest induction =>
      have positive := c.utf8Size_pos
      rw [List.length_cons, byteLength_cons]
      omega

/-- Characters made into a string take the bytes of that string. -/
theorem utf8ByteSize_ofList (text : List Char) :
    (String.ofList text).utf8ByteSize = byteLength text := by
  induction text with
  | nil => rfl
  | cons c rest induction =>
      have split : String.ofList (c :: rest) = String.singleton c ++ String.ofList rest := by
        rw [String.singleton_eq_ofList, ← String.ofList_append]
        rfl
      rw [split, String.utf8ByteSize_append, String.utf8ByteSize_singleton, induction,
        byteLength_cons]

/-- The characters of a string take the bytes of that string. -/
@[simp] theorem byteLength_toList (text : String) : byteLength text.toList = text.utf8ByteSize := by
  rw [← utf8ByteSize_ofList, String.ofList_toList]

@[simp] theorem dropBytes_zero (text : List Char) : dropBytes 0 text = text := by
  cases text <;> rfl

@[simp] theorem takeBytes_zero (text : List Char) : takeBytes 0 text = [] := by
  cases text <;> rfl

/-- Dropping the bytes of a first part leaves the second part. -/
@[simp] theorem dropBytes_append (left right : List Char) :
    dropBytes (byteLength left) (left ++ right) = right := by
  induction left with
  | nil => simp
  | cons c rest induction =>
      have positive := c.utf8Size_pos
      obtain ⟨n, size⟩ : ∃ n, c.utf8Size + byteLength rest = n + 1 :=
        ⟨c.utf8Size + byteLength rest - 1, by omega⟩
      have less : n + 1 - c.utf8Size = byteLength rest := by omega
      simp only [byteLength_cons, size, List.cons_append, dropBytes, less, induction]

/-- Taking the bytes of a first part gives that part. -/
@[simp] theorem takeBytes_append (left right : List Char) :
    takeBytes (byteLength left) (left ++ right) = left := by
  induction left with
  | nil => simp
  | cons c rest induction =>
      have positive := c.utf8Size_pos
      obtain ⟨n, size⟩ : ∃ n, c.utf8Size + byteLength rest = n + 1 :=
        ⟨c.utf8Size + byteLength rest - 1, by omega⟩
      have less : n + 1 - c.utf8Size = byteLength rest := by omega
      simp only [byteLength_cons, size, List.cons_append, takeBytes, less, induction]

/-- The slice between the ends of two parts is what lies between them. -/
theorem slice_append (before middle after : List Char) :
    slice (byteLength before) (byteLength before + byteLength middle)
      (before ++ middle ++ after) = middle := by
  simp [slice, List.append_assoc]

end TokenGrammar.Text
