import TokenGrammar.Proofs.Tokenizer.Cache
import TokenGrammar.Proofs.Tokenizer.Lossless

/-! # White space that is kept or left out

Whether white space is kept is asked only once the token of a piece has been made. So it decides
which of the tokens come out, and nothing else.

* `Scanner.pieces`, `Tokenizer.pieces`: the pieces that a text falls into.
* `Scanner.calls`, `Tokenizer.calls`: the calls of the handler in a scan.
* `Asked.unique`, `Scanner.asked_calls`: what decides which calls are made.
* `labelled`, `retained`: tokens with their pieces, and those of them that come out.
* `Tokenizer.scan_withWhitespaceKept`: a scan without white space is a filtered scan with it. -/

namespace TokenGrammar

/-! ## What a scan goes through -/

namespace Scanner

/-- The matches of definitions in a text. -/
def hits (scanner : Scanner) (input : String) : List Hit :=
  winners scanner.slots (Regex.matchesIn scanner.expr.find? input.toList)

/-- The pieces that a scan makes tokens of. -/
def pieces (scanner : Scanner) (input : String) : List Piece :=
  piecesFrom (Text.byteLength input.toList) 0 (scanner.hits input)

/-- The calls that the handler gets in a scan. -/
def calls (scanner : Scanner) (keepWhitespace : Bool) (handler : UnknownHandler)
    (input : String) : List UnknownCall :=
  ((scanner.scanFound keepWhitespace (recorded handler) input
    (Regex.matchesIn scanner.expr.find? input.toList)).run.run []).2

/-- The calls for the gaps among the pieces. -/
def gapCalls (scanner : Scanner) (input : String) : List UnknownCall :=
  (Piece.gaps (scanner.pieces input)).map (·.call input.toList)

end Scanner

namespace Tokenizer

/-- The pieces that a scan makes tokens of, if there is a scanner. -/
def pieces (tokenizer : Tokenizer) (input : String) : List Piece :=
  match tokenizer.prepare with
  | .error _ => []
  | .ok scanner => scanner.pieces input

/-- The calls that the handler gets in a scan. Without a scanner it gets none. -/
def calls (tokenizer : Tokenizer) (input : String) : List UnknownCall :=
  match tokenizer.prepare with
  | .error _ => []
  | .ok scanner => scanner.calls tokenizer.keepWhitespace tokenizer.onUnknown input

end Tokenizer

/-- Which calls are made, and how that ends, depends on the calls and on the handler only. -/
theorem Asked.unique {handler : UnknownHandler} {calls asked other : List UnknownCall}
    {error? other? : Option TokenizerError} (asks : Asked handler calls asked error?)
    (asksOther : Asked handler calls other other?) : asked = other ∧ error? = other? := by
  induction asks generalizing other with
  | done =>
      cases asksOther
      exact ⟨rfl, rfl⟩
  | accepted answer further induction =>
      cases asksOther with
      | accepted answer' further' =>
          obtain ⟨rfl, same⟩ := induction further'
          exact ⟨rfl, same⟩
      | refused calls answer' => cases answer.symm.trans answer'
  | refused calls answer =>
      cases asksOther with
      | accepted answer' further' => cases answer.symm.trans answer'
      | refused calls answer' =>
          cases answer.symm.trans answer'
          exact ⟨rfl, rfl⟩

/-- The handler is called for the gaps among the pieces, up to the first that it refuses. -/
theorem Scanner.asked_calls (scanner : Scanner) (keepWhitespace : Bool)
    (handler : UnknownHandler) (input : String) :
    ∃ error?,
      Asked handler (scanner.gapCalls input) (scanner.calls keepWhitespace handler input)
        error? := by
  obtain ⟨asked, error?, asks, shows, -⟩ :=
    shows_mapM_tokens keepWhitespace handler input.toList (scanner.pieces input)
  have recording := shows.bind fun parts =>
    Recording.shows_conclude (emptyMatch? (scanner.hits input)) parts.flatten
  have called : scanner.calls keepWhitespace handler input = asked := by
    rw [Scanner.calls, scanner.scanFound_eq (fun _ _ => rfl)]
    exact congrArg Prod.snd (recording [])
  exact ⟨error?, called ▸ asks⟩

/-- A scan makes tokens of the pieces, and ends as the matches say. -/
theorem Scanner.scan_eq (scanner : Scanner) (keepWhitespace : Bool) (handler : UnknownHandler)
    (input : String) :
    scanner.scan keepWhitespace handler input =
      List.flatten <$> (scanner.pieces input).mapM
          (Piece.tokens keepWhitespace handler input.toList) >>=
        conclude (emptyMatch? (scanner.hits input)) := by
  rw [Scanner.scan, scanner.scanFound_eq (fun _ _ => rfl), bind_map_left]
  rfl

/-! ## Tokens with their pieces -/

section

variable {m : Type → Type} [Monad m]

/-- The token of a piece, whether it comes out or not. -/
def Piece.token (handler : String → String → Nat → m Token) (input : List Char) : Piece → m Token
  | .gap span => handler unknownName (sliceText input span.start span.stop) span.start
  | .hit found =>
      pure ⟨found.name, sliceText input found.span.start found.span.stop, found.span.start⟩

/-- Whether a piece is a match of white space. -/
def Piece.isWhitespace : Piece → Bool
  | .gap _ => false
  | .hit found => found.isWhitespace

/-- The tokens of pieces, each with its piece. -/
def labelled (handler : String → String → Nat → m Token) (input : List Char)
    (pieces : List Piece) : m (List (Piece × Token)) :=
  pieces.mapM fun piece => (piece, ·) <$> piece.token handler input

/-- The tokens that come out. -/
def retained (keepWhitespace : Bool) (made : List (Piece × Token)) : List Token :=
  (made.filter fun one => keepWhitespace || !one.1.isWhitespace).map Prod.snd

/-- The token of a first piece comes first, if it comes out. -/
theorem retained_cons (keepWhitespace : Bool) (piece : Piece) (token : Token)
    (made : List (Piece × Token)) :
    retained keepWhitespace ((piece, token) :: made) =
      (if keepWhitespace || !piece.isWhitespace then [token] else []) ++
        retained keepWhitespace made := by
  rw [retained, List.filter_cons]
  split <;> rfl

/-- With white space kept all tokens come out. -/
theorem retained_true (made : List (Piece × Token)) : retained true made = made.map Prod.snd := by
  have all : (made.filter fun one => true || !one.1.isWhitespace) = made :=
    List.filter_eq_self.mpr fun _ _ => rfl
  rw [retained, all]

/-- Of a piece comes one token or none. -/
theorem Piece.tokens_eq [LawfulMonad m] (keepWhitespace : Bool)
    (handler : String → String → Nat → m Token) (input : List Char) (piece : Piece) :
    piece.tokens keepWhitespace handler input =
      (fun token => if keepWhitespace || !piece.isWhitespace then [token] else []) <$>
        piece.token handler input := by
  cases piece with
  | gap span => simp [Piece.tokens, Piece.token, Piece.isWhitespace]
  | hit found =>
      cases blank : found.isWhitespace <;> cases keepWhitespace <;>
        simp [Piece.tokens, Piece.token, Piece.isWhitespace, hitTokens, blank]

/-- The tokens of pieces are those that come out of the tokens of all of them. -/
theorem flatten_mapM_tokens [LawfulMonad m] (keepWhitespace : Bool)
    (handler : String → String → Nat → m Token) (input : List Char) (pieces : List Piece) :
    List.flatten <$> pieces.mapM (Piece.tokens keepWhitespace handler input) =
      retained keepWhitespace <$> labelled handler input pieces := by
  induction pieces with
  | nil => simp [labelled, retained]
  | cons piece pieces induction =>
      -- The handler is called for the first piece before the others, and its token stands in front.
      have following : ∀ front : List Token,
          (fun parts => front ++ parts.flatten) <$>
              pieces.mapM (Piece.tokens keepWhitespace handler input) =
            (fun made => front ++ retained keepWhitespace made) <$>
              labelled handler input pieces := by
        intro front
        have mapped := congrArg (fun tokens => (front ++ ·) <$> tokens) induction
        simpa only [Functor.map_map] using mapped
      rw [labelled] at following ⊢
      simp [List.mapM_cons, Piece.tokens_eq, retained_cons, following]

end

section

variable {handler : UnknownHandler} {input : List Char} {pieces : List Piece}
  {made : List (Piece × Token)}

/-- Each piece has the token that is made of it. -/
theorem token_of_labelled (isMade : labelled handler input pieces = .ok made) :
    made.map Prod.fst = pieces ∧ ∀ one ∈ made, one.1.token handler input = .ok one.2 := by
  induction pieces generalizing made with
  | nil =>
      cases Except.ok.inj isMade
      exact ⟨rfl, nofun⟩
  | cons piece pieces induction =>
      rw [labelled, List.mapM_cons] at isMade
      cases first : piece.token handler input with
      | error error =>
          rw [first] at isMade
          cases isMade
      | ok token =>
          cases rest : labelled handler input pieces with
          | error error =>
              rw [labelled] at rest
              rw [first, rest] at isMade
              cases isMade
          | ok others =>
              obtain ⟨whole, tokens⟩ := induction rest
              rw [labelled] at rest
              rw [first, rest] at isMade
              cases Except.ok.inj isMade
              exact ⟨congrArg (piece :: ·) whole, List.forall_mem_cons.mpr ⟨first, tokens⟩⟩

/-- If no gap is given the name of white space, only tokens of white space have it. -/
theorem name_of_token
    (visible : ∀ text position token,
      handler unknownName text position = .ok token → token.name ≠ whitespaceName)
    {piece : Piece} {token : Token} (isMade : piece.token handler input = .ok token) :
    (token.name != whitespaceName) = !piece.isWhitespace := by
  cases piece with
  | gap span => exact bne_iff_ne.mpr (visible _ _ _ isMade)
  | hit found =>
      cases Except.ok.inj isMade
      rfl

/-- The tokens without white space are those of other names. -/
theorem retained_false
    (visible : ∀ text position token,
      handler unknownName text position = .ok token → token.name ≠ whitespaceName)
    (tokens : ∀ one ∈ made, one.1.token handler input = .ok one.2) :
    retained false made = (retained true made).filter (·.name != whitespaceName) := by
  have same : ∀ one ∈ made,
      (false || !one.1.isWhitespace) = (one.2.name != whitespaceName) := by
    intro one member
    rw [name_of_token visible (tokens one member), Bool.false_or]
  rw [retained_true, List.filter_map, retained, List.filter_congr same]
  rfl

/-- A scan makes the tokens of all pieces, and lets those out that are asked for. -/
theorem Scanner.scan_eq_labelled (scanner : Scanner) (keepWhitespace : Bool)
    (handler : UnknownHandler) (input : String) :
    scanner.scan keepWhitespace handler input =
      labelled handler input.toList (scanner.pieces input) >>= fun made =>
        conclude (emptyMatch? (scanner.hits input)) (retained keepWhitespace made) := by
  rw [scanner.scan_eq, flatten_mapM_tokens, bind_map_left]

/-- Whether white space is kept is of no account to the calls of the handler. -/
theorem Scanner.calls_true (scanner : Scanner) (handler : UnknownHandler) (input : String) :
    scanner.calls true handler input = scanner.calls false handler input := by
  obtain ⟨_, asks⟩ := scanner.asked_calls true handler input
  obtain ⟨_, asksToo⟩ := scanner.asked_calls false handler input
  exact (asks.unique asksToo).1

/-- Nor is it to the error of a scan, or to the tokens that are made of the pieces. -/
theorem Scanner.scan_cases (scanner : Scanner) (handler : UnknownHandler) (input : String) :
    (∃ error, ∀ keepWhitespace, scanner.scan keepWhitespace handler input = .error error) ∨
      ∃ made : List (Piece × Token),
        made.map Prod.fst = scanner.pieces input ∧
          (∀ one ∈ made, one.1.token handler input.toList = .ok one.2) ∧
          ∀ keepWhitespace,
            scanner.scan keepWhitespace handler input = .ok (retained keepWhitespace made) := by
  have scanned := fun keepWhitespace => scanner.scan_eq_labelled keepWhitespace handler input
  cases isMade : labelled handler input.toList (scanner.pieces input) with
  | error error =>
      simp only [isMade] at scanned
      exact .inl ⟨error, scanned⟩
  | ok made =>
      simp only [isMade] at scanned
      -- The error at the end depends on the matches alone.
      cases ending : emptyMatch? (scanner.hits input) with
      | some error =>
          simp only [ending] at scanned
          exact .inl ⟨error, scanned⟩
      | none =>
          simp only [ending] at scanned
          obtain ⟨whole, tokens⟩ := token_of_labelled isMade
          exact .inr ⟨made, whole, tokens, scanned⟩

end

namespace Tokenizer

/-- **White space is filtered out of what a scan makes, and decides nothing else.** Kept or not, the
handler gets the same calls and an error is the same one. Without an error the tokens are those of
the same pieces of the text, without the tokens of matches of white space if it is not kept. If no
gap is given the name of white space, these are the tokens of other names. -/
theorem scan_withWhitespaceKept (tokenizer : Tokenizer) (input : String) :
    let kept := ((tokenizer.withWhitespaceKept true).scan input).1
    let bare := ((tokenizer.withWhitespaceKept false).scan input).1
    ((∃ error, kept = .error error ∧ bare = .error error) ∨
        ∃ made : List (Piece × Token),
          made.map Prod.fst = tokenizer.pieces input ∧
            (∀ one ∈ made, one.1.token tokenizer.onUnknown input.toList = .ok one.2) ∧
            kept = .ok (made.map Prod.snd) ∧
            bare = .ok ((made.filter fun one => !one.1.isWhitespace).map Prod.snd)) ∧
      (tokenizer.withWhitespaceKept true).calls input =
        (tokenizer.withWhitespaceKept false).calls input ∧
      ((∀ text position token,
          tokenizer.onUnknown unknownName text position = .ok token →
            token.name ≠ whitespaceName) →
        bare = kept.map (List.filter (·.name != whitespaceName))) := by
  intro kept bare
  cases prepared : tokenizer.prepare with
  | error error =>
      have refused : ∀ keep, (tokenizer.withWhitespaceKept keep).prepare = .error error :=
        fun _ => prepared
      have isKept : kept = .error error :=
        congrArg Prod.fst (scan_of_prepare_error (refused true) input)
      have isBare : bare = .error error :=
        congrArg Prod.fst (scan_of_prepare_error (refused false) input)
      refine ⟨.inl ⟨error, isKept, isBare⟩, ?_, fun _ => ?_⟩
      · rw [calls, calls, refused, refused]
      · rw [isKept, isBare]
        rfl
  | ok scanner =>
      have ready : ∀ keep, (tokenizer.withWhitespaceKept keep).prepare = .ok scanner :=
        fun _ => prepared
      have isKept : kept = scanner.scan true tokenizer.onUnknown input :=
        congrArg Prod.fst (scan_of_prepare (ready true) input)
      have isBare : bare = scanner.scan false tokenizer.onUnknown input :=
        congrArg Prod.fst (scan_of_prepare (ready false) input)
      have sameCalls : (tokenizer.withWhitespaceKept true).calls input =
          (tokenizer.withWhitespaceKept false).calls input := by
        rw [calls, calls, ready, ready]
        exact scanner.calls_true tokenizer.onUnknown input
      rcases scanner.scan_cases tokenizer.onUnknown input with
        ⟨error, failed⟩ | ⟨made, whole, tokens, scanned⟩
      · rw [failed] at isKept isBare
        refine ⟨.inl ⟨error, isKept, isBare⟩, sameCalls, fun _ => ?_⟩
        rw [isKept, isBare]
        rfl
      · have ofPieces : made.map Prod.fst = tokenizer.pieces input := by
          rw [pieces, prepared, whole]
        rw [scanned] at isKept isBare
        refine ⟨.inr ⟨made, ofPieces, tokens, ?_, isBare⟩, sameCalls, fun visible => ?_⟩
        · rw [isKept, retained_true]
        · rw [isKept, isBare, retained_false visible tokens]
          rfl

/-- A gap on either side of white space, and an empty match of white space within the second. -/
theorem scan_withWhitespaceKept_gaps :
    let tokenizer : Tokenizer :=
      ⟨[.keyword "a", .whitespace " *"], defaultWhitespace, false, keepUnknown, none⟩
    let kept : List Token := [⟨"a", "a", 0⟩, ⟨"unknown", "é", 1⟩, ⟨"whitespace", " ", 3⟩,
      ⟨"unknown", "?!", 4⟩, ⟨"a", "a", 6⟩]
    (∀ text position token, keepUnknown unknownName text position = .ok token →
        token.name ≠ whitespaceName) ∧
      ((tokenizer.withWhitespaceKept true).scan "aé ?!a").1 = .ok kept ∧
      ((tokenizer.withWhitespaceKept false).scan "aé ?!a").1 =
        .ok (kept.filter (·.name != whitespaceName)) := by
  intro tokenizer kept
  have visible : ∀ text position token, keepUnknown unknownName text position = .ok token →
      token.name ≠ whitespaceName := by
    have other : unknownName ≠ whitespaceName := by decide
    intro text position token isMade
    cases Except.ok.inj isMade
    exact other
  obtain ⟨-, -, filtered⟩ := tokenizer.scan_withWhitespaceKept "aé ?!a"
  have scanned : ((tokenizer.withWhitespaceKept true).scan "aé ?!a").1.toOption = some kept := by
    decide
  have isKept : ((tokenizer.withWhitespaceKept true).scan "aé ?!a").1 = .ok kept := by
    cases result : ((tokenizer.withWhitespaceKept true).scan "aé ?!a").1 with
    | error error =>
        rw [result] at scanned
        cases scanned
    | ok tokens =>
        rw [result] at scanned
        exact congrArg _ (Option.some.inj scanned)
  have isBare := filtered visible
  rw [isKept] at isBare
  exact ⟨visible, isKept, isBare⟩

end Tokenizer

end TokenGrammar
