import TokenGrammar.Regex.Thread
import TokenGrammar.Text.Bytes
import TokenGrammar.Token
import TokenGrammar.Tokenizer.Definition

/-! # From matches to tokens

The matches of a text become tokens in order. What lies between them goes to a handler, and so does
the end of the text after the last one. A match of white space that is empty is passed over; any
other empty match is an error.

* `Hit`: a match with the name of its definition.
* `UnknownHandler`: what becomes of a span without a match.
* `scanHits`: the tokens of a text, given its matches. -/

namespace TokenGrammar

/-- A match with the name of its definition. -/
structure Hit where
  /-- Name of the definition. -/
  name : String
  /-- The stretch of the text that matched. -/
  span : Regex.Span
  deriving DecidableEq

namespace Hit

/-- Whether the match is of the empty text. -/
def isEmpty (hit : Hit) : Bool :=
  hit.span.start == hit.span.stop

/-- Whether the match is of white space. -/
def isWhitespace (hit : Hit) : Bool :=
  hit.name == whitespaceName

end Hit

/-- What becomes of a span without a match, given the name for such spans, its text and its
position: a token, or an error that ends the scan. -/
abbrev UnknownHandler := (name text : String) → (position : Nat) → Except TokenizerError Token

/-- The handler that refuses every span. -/
def rejectUnknown : UnknownHandler := fun _ text position =>
  .error (.unknownSpan text position)

/-- The handler that makes every span a token as it stands. -/
def keepUnknown : UnknownHandler := fun name text position =>
  .ok ⟨name, text, position⟩

/-- The handler that makes every span a token of another name, with its text in angle brackets and
at the start of the text. -/
def bracketUnknown (newName : String) : UnknownHandler := fun _ text _ =>
  .ok ⟨newName, "<" ++ text ++ ">", 0⟩

/-- The handler that refuses spans beyond a position, as a matter of settings. -/
def limitUnknown (limit : Nat) : UnknownHandler := fun name text position =>
  if limit < position then
    .error (.config (name ++ " past " ++ toString limit ++ ": " ++ text))
  else .ok ⟨name, text, position⟩

/-- The text between two byte offsets. -/
def sliceText (input : List Char) (start stop : Nat) : String :=
  .ofList (Text.slice start stop input)

section

-- The handler may have effects of its own, so the loop runs wherever errors can be reported.
variable {m : Type → Type} [Monad m]

/-- What the handler makes of the span between two offsets, if there is one. -/
def handleGap (handler : String → String → Nat → m Token) (input : List Char)
    (start stop : Nat) : m (List Token) :=
  if start < stop then do
    pure [← handler unknownName (sliceText input start stop) start]
  else pure []

/-- Between two offsets that are the same nothing is handed over. -/
@[simp] theorem handleGap_self (handler : String → String → Nat → m Token) (input : List Char)
    (offset : Nat) : handleGap handler input offset offset = pure [] := by
  rw [handleGap, if_neg (Nat.lt_irrefl offset)]

/-- A span between two offsets is handed over once. -/
theorem handleGap_of_lt {start stop : Nat} (less : start < stop)
    (handler : String → String → Nat → m Token) (input : List Char) :
    handleGap handler input start stop =
      handler unknownName (sliceText input start stop) start >>= fun token => pure [token] := by
  rw [handleGap, if_pos less]

end

/-- The token of a match, unless it is white space that is not kept. -/
def hitTokens (keepWhitespace : Bool) (input : List Char) (hit : Hit) : List Token :=
  if hit.isWhitespace && !keepWhitespace then []
  else [⟨hit.name, sliceText input hit.span.start hit.span.stop, hit.span.start⟩]

section

variable {m : Type → Type} [Monad m] [MonadExceptOf TokenizerError m]

/-- The tokens of a text from an offset on, given its matches from there on. -/
def scanHitsFrom (keepWhitespace : Bool) (handler : String → String → Nat → m Token)
    (input : List Char) : (lastStop : Nat) → List Hit → m (List Token)
  | lastStop, [] => handleGap handler input lastStop (Text.byteLength input)
  | lastStop, hit :: hits =>
      if hit.isEmpty && hit.isWhitespace then
        scanHitsFrom keepWhitespace handler input lastStop hits
      else do
        -- The handler sees what comes before an empty match, and its error counts first.
        let gap ← handleGap handler input lastStop hit.span.start
        if hit.isEmpty then throw (.emptyMatch hit.name hit.span.start)
        else do
          let following ← scanHitsFrom keepWhitespace handler input hit.span.stop hits
          pure (gap ++ hitTokens keepWhitespace input hit ++ following)

/-- An empty match of white space is as if it were not there. -/
theorem scanHitsFrom_cons_of_blank {hit : Hit} (empty : hit.isEmpty = true)
    (blank : hit.isWhitespace = true) (keepWhitespace : Bool)
    (handler : String → String → Nat → m Token) (input : List Char) (lastStop : Nat)
    (hits : List Hit) :
    scanHitsFrom keepWhitespace handler input lastStop (hit :: hits) =
      scanHitsFrom keepWhitespace handler input lastStop hits := by
  rw [scanHitsFrom, empty, blank]
  rfl

/-- The tokens of a text, given its matches. -/
def scanHits (keepWhitespace : Bool) (handler : String → String → Nat → m Token)
    (input : List Char) (hits : List Hit) : m (List Token) :=
  scanHitsFrom keepWhitespace handler input 0 hits

end

end TokenGrammar
