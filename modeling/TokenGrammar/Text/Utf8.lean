import TokenGrammar.Text.Numeral

/-! # Characters from bytes

* `Text.decodeUtf8`: the characters of a sequence of bytes, with a gap for every byte that belongs
  to no character. -/

namespace TokenGrammar.Text

/-- How many bytes the form of a character has, by its first byte; zero if no form starts so. -/
def formLength (first : UInt8) : Nat :=
  if first < 0x80 then 1
  else if 0xC0 ≤ first && first < 0xE0 then 2
  else if 0xE0 ≤ first && first < 0xF0 then 3
  else if 0xF0 ≤ first && first < 0xF8 then 4
  else 0

/-- The bits of a first byte that belong to the code point. -/
def leadingBits (first : UInt8) : Nat :=
  match formLength first with
  | 1 => first.toNat
  | 2 => first.toNat - 0xC0
  | 3 => first.toNat - 0xE0
  | _ => first.toNat - 0xF0

/-- Whether a byte can follow the first one of a form. -/
def isContinuation (byte : UInt8) : Bool :=
  0x80 ≤ byte && byte < 0xC0

/-- The character at the start of a sequence of bytes with the length of its form. The form must
be the shortest one. -/
def firstChar? : List UInt8 → Option (Char × Nat)
  | [] => none
  | first :: rest =>
      let length := formLength first
      let tail := rest.take (length - 1)
      if length = 0 ∨ tail.length + 1 ≠ length ∨ !tail.all isContinuation then none
      else
        let code := tail.foldl (fun n byte => n * 64 + (byte.toNat - 0x80)) (leadingBits first)
        match Numeral.charOfCode? code with
        -- A form longer than the character needs is refused.
        | some c => if c.utf8Size = length then some (c, length) else none
        | none => none

/-- The characters of a sequence of bytes after its first `skip` bytes. -/
def decodeUtf8From : (skip : Nat) → List UInt8 → List (Option Char)
  | _, [] => []
  | skip + 1, _ :: rest => decodeUtf8From skip rest
  | 0, first :: rest =>
      match firstChar? (first :: rest) with
      | some (c, length) => some c :: decodeUtf8From (length - 1) rest
      | none => none :: decodeUtf8From 0 rest

/-- The characters of a sequence of bytes, with a gap for every byte that belongs to none. -/
def decodeUtf8 (bytes : List UInt8) : List (Option Char) :=
  decodeUtf8From 0 bytes

end TokenGrammar.Text
