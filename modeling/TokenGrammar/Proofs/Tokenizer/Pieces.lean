import TokenGrammar.Tokenizer.Scan

/-! # Pieces of a text

A scan first finds out which pieces a text falls into, and then makes tokens of them from left to
right, whatever effects the handler may have.

* `Piece`: a match, or a gap that no match covers.
* `piecesFrom`: the pieces of a text, given its matches.
* `emptyMatch?`: the error after the last piece.
* `scanHitsFrom_eq`: a scan makes tokens of the pieces in order. -/

namespace TokenGrammar

/-- Whether a match ends the scan: it is of the empty text and not of white space. -/
def Hit.isFatal (hit : Hit) : Bool :=
  hit.isEmpty && !hit.isWhitespace

/-- A piece of a text. -/
inductive Piece where
  /-- A stretch without a match. -/
  | gap (span : Regex.Span)
  /-- A match of a definition. -/
  | hit (hit : Hit)
  deriving DecidableEq

/-- What lies between two offsets, if anything does. -/
def Piece.between (start stop : Nat) : List Piece :=
  if start < stop then [.gap ⟨start, stop⟩] else []

/-- The pieces of a text of the given length from an offset on, up to a match that ends the scan,
given the matches from there on. -/
def piecesFrom (length : Nat) : (lastStop : Nat) → List Hit → List Piece
  | lastStop, [] => Piece.between lastStop length
  | lastStop, hit :: hits =>
      if hit.isEmpty then
        if hit.isWhitespace then piecesFrom length lastStop hits
        else Piece.between lastStop hit.span.start
      else
        Piece.between lastStop hit.span.start ++ .hit hit :: piecesFrom length hit.span.stop hits

/-- The error that ends a scan after the last piece, if there is one. -/
def emptyMatch? (hits : List Hit) : Option TokenizerError :=
  (hits.find? Hit.isFatal).map fun hit => .emptyMatch hit.name hit.span.start

section

variable {hit : Hit}

/-- An empty match of white space is no piece and has no part in one. -/
theorem piecesFrom_cons_of_blank (empty : hit.isEmpty = true) (blank : hit.isWhitespace = true)
    (length lastStop : Nat) (hits : List Hit) :
    piecesFrom length lastStop (hit :: hits) = piecesFrom length lastStop hits := by
  rw [piecesFrom, if_pos empty, if_pos blank]

/-- Another empty match ends the last piece. -/
theorem piecesFrom_cons_of_fatal (fatal : hit.isFatal = true) (length lastStop : Nat)
    (hits : List Hit) :
    piecesFrom length lastStop (hit :: hits) = Piece.between lastStop hit.span.start := by
  obtain ⟨empty, visible⟩ := Bool.and_eq_true_iff.mp fatal
  rw [Bool.not_eq_true'] at visible
  rw [piecesFrom, if_pos empty, visible]
  rfl

/-- A match that is not empty is a piece. -/
theorem piecesFrom_cons_of_solid (solid : hit.isEmpty = false) (length lastStop : Nat)
    (hits : List Hit) :
    piecesFrom length lastStop (hit :: hits) =
      Piece.between lastStop hit.span.start ++
        .hit hit :: piecesFrom length hit.span.stop hits := by
  rw [piecesFrom, solid]
  rfl

/-- The scan ends at a match that ends it. -/
theorem emptyMatch?_cons_of_fatal (fatal : hit.isFatal = true) (hits : List Hit) :
    emptyMatch? (hit :: hits) = some (.emptyMatch hit.name hit.span.start) := by
  rw [emptyMatch?, List.find?_cons_of_pos fatal]
  rfl

/-- The scan goes on past any other match. -/
theorem emptyMatch?_cons_of_not_fatal (harmless : hit.isFatal = false) (hits : List Hit) :
    emptyMatch? (hit :: hits) = emptyMatch? hits := by
  rw [emptyMatch?, List.find?_cons_of_neg (by rw [harmless]; exact Bool.false_ne_true)]
  rfl

end

/-- What to do with a match that comes next: pass over it, end the scan there, or make a piece of
it. -/
theorem Hit.cases (hit : Hit) :
    (hit.isEmpty = true ∧ hit.isWhitespace = true ∧ hit.isFatal = false) ∨
      (hit.isFatal = true ∧ hit.isEmpty = true ∧ hit.isWhitespace = false) ∨
      (hit.isEmpty = false ∧ hit.isFatal = false) := by
  rw [isFatal]
  cases hit.isEmpty <;> cases hit.isWhitespace <;> decide

section

variable {m : Type → Type} [Monad m]

/-- The tokens of a piece. -/
def Piece.tokens (keepWhitespace : Bool) (handler : String → String → Nat → m Token)
    (input : List Char) : Piece → m (List Token)
  | .gap span => do
      pure [← handler unknownName (sliceText input span.start span.stop) span.start]
  | .hit found => pure (hitTokens keepWhitespace input found)

/-- A gap is handed over as the piece that it is. -/
theorem handleGap_eq [LawfulMonad m] (keepWhitespace : Bool)
    (handler : String → String → Nat → m Token) (input : List Char) (start stop : Nat) :
    handleGap handler input start stop =
      (Piece.between start stop).mapM (Piece.tokens keepWhitespace handler input) >>= fun parts =>
        pure parts.flatten := by
  by_cases less : start < stop
  · rw [handleGap_of_lt less, Piece.between, if_pos less]
    simp [Piece.tokens]
  · rw [handleGap, Piece.between, if_neg less, if_neg less]
    simp

variable [MonadExceptOf TokenizerError m]

/-- Report an error, or tokens if there is none. -/
def conclude (error? : Option TokenizerError) (tokens : List Token) : m (List Token) :=
  match error? with
  | some error => throw error
  | none => pure tokens

/-- A scan makes tokens of the pieces in order, and then reports the match that ends it. All that
this asks of the effects is that nothing happens after an error. -/
theorem scanHitsFrom_eq [LawfulMonad m]
    (throw_bind : ∀ (error : TokenizerError) (next : List Token → m (List Token)),
      (throw error >>= next) = throw error)
    (keepWhitespace : Bool) (handler : String → String → Nat → m Token) (input : List Char)
    (lastStop : Nat) (hits : List Hit) :
    scanHitsFrom keepWhitespace handler input lastStop hits =
      (piecesFrom (Text.byteLength input) lastStop hits).mapM
          (Piece.tokens keepWhitespace handler input) >>= fun parts =>
        conclude (emptyMatch? hits) parts.flatten := by
  induction hits generalizing lastStop with
  | nil =>
      rw [scanHitsFrom, handleGap_eq keepWhitespace]
      rfl
  | cons hit hits induction =>
      rcases hit.cases with ⟨empty, blank, harmless⟩ | ⟨fatal, empty, visible⟩ | ⟨solid, harmless⟩
      · rw [scanHitsFrom_cons_of_blank empty blank, piecesFrom_cons_of_blank empty blank,
          emptyMatch?_cons_of_not_fatal harmless]
        exact induction lastStop
      · rw [scanHitsFrom, piecesFrom_cons_of_fatal fatal, emptyMatch?_cons_of_fatal fatal,
          handleGap_eq keepWhitespace]
        simp [empty, visible, conclude]
      · have later : ∀ front tokens, conclude (emptyMatch? hits) (front ++ tokens) =
            (conclude (emptyMatch? hits) tokens >>= fun following =>
              pure (front ++ following) : m (List Token)) := by
          intro front tokens
          cases emptyMatch? hits with
          | none => simp [conclude]
          | some error => exact (throw_bind error _).symm
        rw [scanHitsFrom, piecesFrom_cons_of_solid solid, emptyMatch?_cons_of_not_fatal harmless,
          handleGap_eq keepWhitespace]
        simp [solid, induction, Piece.tokens, later]

end

/-- Without an error at the end the tokens come out. -/
theorem conclude_eq_ok_iff {error? : Option TokenizerError} {tokens others : List Token} :
    (conclude error? tokens : Except TokenizerError (List Token)) = .ok others ↔
      error? = none ∧ tokens = others := by
  cases error? with
  | none => simp [conclude, pure, Except.pure]
  | some error => simp [conclude, throw, throwThe, MonadExceptOf.throw]

/-- With an error at the end that error comes out. -/
theorem conclude_eq_error_iff {error? : Option TokenizerError} {tokens : List Token}
    {error : TokenizerError} :
    (conclude error? tokens : Except TokenizerError (List Token)) = .error error ↔
      error? = some error := by
  cases error? with
  | none => simp [conclude, pure, Except.pure]
  | some other => simp [conclude, throw, throwThe, MonadExceptOf.throw]

end TokenGrammar
