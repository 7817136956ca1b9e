/-! # Tokens

A token is a named slice of the text it was cut from. Positions count bytes of the UTF-8 form of
the text, so a token ends at its position plus the byte length of its own text.

* `Token`: name, text and position.
* `Token.stop`: the byte offset just past the token. -/

namespace TokenGrammar

/-- A named slice of a text, at the byte offset `position`. -/
structure Token where
  /-- Name of the definition that recognised the slice. -/
  name : String
  /-- The slice itself. -/
  text : String
  /-- Byte offset of the first character of the slice. -/
  position : Nat
  deriving DecidableEq, Inhabited

namespace Token

/-- Byte offset just past the token. -/
def stop (token : Token) : Nat :=
  token.position + token.text.utf8ByteSize

/-- Give a token another name, keeping its text and place. -/
def rename (token : Token) (name : String) : Token :=
  { token with name := name }

@[simp] theorem stop_mk (name text : String) (position : Nat) :
    stop ⟨name, text, position⟩ = position + text.utf8ByteSize := rfl

end Token

end TokenGrammar
