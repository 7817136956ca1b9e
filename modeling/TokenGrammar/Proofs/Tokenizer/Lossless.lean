import TokenGrammar.Proofs.Tokenizer.Winners

/-! # Scans lose nothing and invent nothing

A handler that keeps a record of its calls shows which spans a scan hands over.

* `Asked`: which of several calls are made, up to the first that is refused.
* `recorded`, `Recording.Shows`: a handler with a record of its calls, and what the record says.
* `shows_mapM_tokens`: the record shows the calls for the gaps.
* `Token.Tile`: tokens that lie side by side.
* `Scanner.scanFound_lossless`: the handler is called on the longest gaps, and tokens cover the
  text. -/

namespace TokenGrammar

/-- A call of a handler. -/
structure UnknownCall where
  /-- The name for spans without a match. -/
  name : String
  /-- The text of the span. -/
  text : String
  /-- The position of the span. -/
  position : Nat
  deriving DecidableEq

/-- The answer of a handler to a call. -/
def UnknownCall.answer (call : UnknownCall) (handler : UnknownHandler) :
    Except TokenizerError Token :=
  handler call.name call.text call.position

/-- The call for a gap in a text. -/
def Regex.Span.call (gap : Span) (input : List Char) : UnknownCall :=
  ⟨unknownName, sliceText input gap.start gap.stop, gap.start⟩

/-- Calls that are made in order, up to the first that is refused, with the error of that one. -/
inductive Asked (handler : UnknownHandler) :
    (calls asked : List UnknownCall) → Option TokenizerError → Prop where
  /-- No calls are left. -/
  | done : Asked handler [] [] none
  /-- A call gets a token. -/
  | accepted {call : UnknownCall} {token : Token} {calls asked : List UnknownCall}
      {error? : Option TokenizerError} (answer : call.answer handler = .ok token)
      (further : Asked handler calls asked error?) :
      Asked handler (call :: calls) (call :: asked) error?
  /-- A call is refused. -/
  | refused {call : UnknownCall} {error : TokenizerError} (calls : List UnknownCall)
      (answer : call.answer handler = .error error) :
      Asked handler (call :: calls) [call] (some error)

/-- Without a refusal all calls are made. -/
theorem Asked.eq_of_none {handler : UnknownHandler} {calls asked : List UnknownCall}
    (asks : Asked handler calls asked none) : asked = calls := by
  generalize none' : (none : Option TokenizerError) = error? at asks
  induction asks with
  | done => rfl
  | accepted answer further induction => rw [induction none']
  | refused calls answer => cases none'

/-- Whether a result is the given error, or no error if none is given. -/
def EndsIn {α : Type} (result : Except TokenizerError α) : Option TokenizerError → Prop
  | some error => result = .error error
  | none => ∃ value, result = .ok value

/-- A result that is no error ends as the next step does. -/
theorem EndsIn.bind {α β : Type} {result : Except TokenizerError α}
    {error? next? : Option TokenizerError} (ends : EndsIn result error?)
    {next : α → Except TokenizerError β} (nextEnds : ∀ value, EndsIn (next value) next?) :
    EndsIn (result >>= next) (error?.or next?) := by
  cases error? with
  | some error =>
      have refused : result = .error error := ends
      rw [refused]
      rfl
  | none =>
      obtain ⟨value, rfl⟩ := ends
      exact nextEnds value

/-- A value is no error. -/
theorem endsIn_pure {α : Type} (value : α) : EndsIn (pure value) none :=
  ⟨value, rfl⟩

/-- The end of a scan is the error given. -/
theorem endsIn_conclude (error? : Option TokenizerError) (tokens : List Token) :
    EndsIn (conclude error? tokens) error? := by
  cases error? with
  | some error => rfl
  | none => exact endsIn_pure tokens

/-- Results with a record of calls. -/
abbrev Recording := ExceptT TokenizerError (StateM (List UnknownCall))

/-- A handler that answers as another one does, and keeps a record of its calls. -/
def recorded (handler : UnknownHandler) (name text : String) (position : Nat) : Recording Token :=
  ExceptT.mk fun calls => (handler name text position, calls ++ [⟨name, text, position⟩])

namespace Recording

variable {α β : Type}

/-- A recording comes to a result and adds calls to the record. -/
def Shows (recording : Recording α) (result : Except TokenizerError α)
    (asked : List UnknownCall) : Prop :=
  ∀ calls, recording.run.run calls = (result, calls ++ asked)

/-- A value needs no calls. -/
theorem Shows.pure (value : α) : Shows (pure value) (.ok value) [] := by
  intro calls
  rw [List.append_nil]
  rfl

/-- A handler is called once. -/
theorem shows_recorded (handler : UnknownHandler) (call : UnknownCall) :
    Shows (recorded handler call.name call.text call.position) (call.answer handler) [call] :=
  fun _ => rfl

/-- After a value the calls of the next step follow. -/
theorem Shows.bind_of_ok {first : Recording α} {value : α} {asked later : List UnknownCall}
    (shows : first.Shows (.ok value) asked) {next : α → Recording β}
    {result : Except TokenizerError β} (following : (next value).Shows result later) :
    Shows (first >>= next) result (asked ++ later) := by
  intro calls
  rw [ExceptT.run_bind, StateT.run_bind, shows calls, ← List.append_assoc]
  exact following _

/-- After an error no calls follow. -/
theorem Shows.bind_of_error {first : Recording α} {error : TokenizerError}
    {asked : List UnknownCall} (shows : first.Shows (.error error) asked)
    (next : α → Recording β) : Shows (first >>= next) (.error error) asked := by
  intro calls
  rw [ExceptT.run_bind, StateT.run_bind, shows calls]
  rfl

/-- A next step that makes no calls keeps the record. -/
theorem Shows.bind {first : Recording α} {result : Except TokenizerError α}
    {asked : List UnknownCall} (shows : first.Shows result asked) {next : α → Recording β}
    {following : α → Except TokenizerError β}
    (quiet : ∀ value, (next value).Shows (following value) []) :
    Shows (first >>= next) (result >>= following) asked := by
  cases result with
  | ok value =>
      have shown : Shows (first >>= next) (following value) (asked ++ []) :=
        shows.bind_of_ok (quiet value)
      rwa [List.append_nil] at shown
  | error error => exact shows.bind_of_error next

/-- The end of a scan makes no calls. -/
theorem shows_conclude (error? : Option TokenizerError) (tokens : List Token) :
    Shows (conclude error? tokens) (conclude error? tokens) [] := by
  cases error? with
  | none => exact .pure tokens
  | some error =>
      intro calls
      rw [List.append_nil]
      rfl

end Recording

section

variable (keepWhitespace : Bool) (handler : UnknownHandler) (input : List Char)

/-- For a match no call is made. -/
theorem shows_tokens_hit (found : Hit) :
    Recording.Shows (Piece.tokens keepWhitespace (recorded handler) input (.hit found))
      (.ok (hitTokens keepWhitespace input found)) [] :=
  .pure _

/-- For a gap the handler is called once. -/
theorem shows_tokens_gap (gap : Regex.Span) :
    Recording.Shows (Piece.tokens keepWhitespace (recorded handler) input (.gap gap))
      ((gap.call input).answer handler >>= fun token => pure [token]) [gap.call input] :=
  (Recording.shows_recorded handler (gap.call input)).bind fun token => .pure [token]

/-- Tokens of a first piece come before the tokens of the others. -/
theorem shows_mapM_tokens_cons {piece : Piece} {pieces : List Piece} {front : List Token}
    {made asked : List UnknownCall} {error? : Option TokenizerError}
    (first : Piece.tokens keepWhitespace handler input piece = .ok front)
    (firstShows : Recording.Shows (Piece.tokens keepWhitespace (recorded handler) input piece)
      (.ok front) made)
    (shows : Recording.Shows (pieces.mapM (Piece.tokens keepWhitespace (recorded handler) input))
      (pieces.mapM (Piece.tokens keepWhitespace handler input)) asked)
    (ends : EndsIn (pieces.mapM (Piece.tokens keepWhitespace handler input)) error?) :
    Recording.Shows ((piece :: pieces).mapM (Piece.tokens keepWhitespace (recorded handler) input))
        ((piece :: pieces).mapM (Piece.tokens keepWhitespace handler input)) (made ++ asked) ∧
      EndsIn ((piece :: pieces).mapM (Piece.tokens keepWhitespace handler input)) error? := by
  have whole : (piece :: pieces).mapM (Piece.tokens keepWhitespace handler input) =
      pieces.mapM (Piece.tokens keepWhitespace handler input) >>= fun rest =>
        pure (front :: rest) := by
    rw [List.mapM_cons, first]
    rfl
  rw [whole]
  refine ⟨?_, ?_⟩
  · rw [List.mapM_cons]
    exact firstShows.bind_of_ok (shows.bind fun rest => .pure (front :: rest))
  · have same := ends.bind fun rest => endsIn_pure (front :: rest)
    rwa [Option.or_none] at same

/-- Tokens are made of pieces with the calls for the gaps among them in order, up to the first that
is refused. -/
theorem shows_mapM_tokens (pieces : List Piece) :
    ∃ asked error?,
      Asked handler ((Piece.gaps pieces).map (·.call input)) asked error? ∧
        Recording.Shows (pieces.mapM (Piece.tokens keepWhitespace (recorded handler) input))
          (pieces.mapM (Piece.tokens keepWhitespace handler input)) asked ∧
        EndsIn (pieces.mapM (Piece.tokens keepWhitespace handler input)) error? := by
  induction pieces with
  | nil => exact ⟨[], none, .done, .pure [], [], rfl⟩
  | cons piece pieces induction =>
      obtain ⟨asked, error?, further, shows, ends⟩ := induction
      cases piece with
      | hit found =>
          exact ⟨asked, error?, further, shows_mapM_tokens_cons keepWhitespace handler input rfl
            (shows_tokens_hit keepWhitespace handler input found) shows ends⟩
      | gap gap =>
          have gapShows := shows_tokens_gap keepWhitespace handler input gap
          have made : Piece.tokens keepWhitespace handler input (.gap gap) =
              (gap.call input).answer handler >>= fun token => pure [token] := rfl
          cases answer : (gap.call input).answer handler with
          | ok token =>
              rw [answer] at gapShows made
              exact ⟨gap.call input :: asked, error?, .accepted answer further,
                shows_mapM_tokens_cons keepWhitespace handler input made gapShows shows ends⟩
          | error error =>
              rw [answer] at gapShows made
              -- What comes after a refusal is not looked at.
              refine ⟨[gap.call input], some error, .refused _ answer, ?_, ?_⟩
              · rw [List.mapM_cons, List.mapM_cons, made]
                exact gapShows.bind_of_error _
              · rw [List.mapM_cons, made]
                rfl

end

/-- Tokens that are not empty and lie side by side between two offsets. -/
def Token.Tile : (start : Nat) → List Token → (stop : Nat) → Prop
  | start, [], stop => start = stop
  | start, token :: tokens, stop =>
      token.position = start ∧ start < token.stop ∧ Tile token.stop tokens stop

/-- Where white space and gaps are kept every piece becomes one token with its text. -/
theorem tokens_of_kept (input : List Char) (piece : Piece) :
    ∃ name, Piece.tokens true keepUnknown input piece =
      .ok [⟨name, sliceText input piece.span.start piece.span.stop, piece.span.start⟩] := by
  cases piece with
  | gap span => exact ⟨unknownName, rfl⟩
  | hit found =>
      refine ⟨found.name, ?_⟩
      rw [Piece.tokens, hitTokens, Bool.not_true, Bool.and_false]
      rfl

/-- Where white space and gaps are kept the tokens of pieces lie side by side as the pieces do, and
together have the text that the pieces have. -/
theorem tile_tokens_of_kept {input : List Char} {pieces : List Piece} {start stop : Nat}
    (tile : Piece.Tile start pieces stop) (boundary : Text.Boundary input start)
    (boundaries : ∀ piece ∈ pieces, Text.Boundary input piece.span.stop)
    {parts : List (List Token)}
    (made : pieces.mapM (Piece.tokens true keepUnknown input) = .ok parts) :
    Token.Tile start parts.flatten stop ∧
      Text.IsSlice input start stop (parts.flatten.flatMap (·.text.toList)) := by
  induction pieces generalizing start parts with
  | nil =>
      cases Except.ok.inj made
      cases (tile : start = stop)
      exact ⟨rfl, .nil boundary⟩
  | cons piece pieces induction =>
      obtain ⟨rfl, less, rest⟩ := tile
      obtain ⟨atStop, others⟩ := List.forall_mem_cons.mp boundaries
      obtain ⟨name, first⟩ := tokens_of_kept input piece
      rw [List.mapM_cons, first] at made
      cases following : pieces.mapM (Piece.tokens true keepUnknown input) with
      | error error =>
          rw [following] at made
          cases made
      | ok parts' =>
          rw [following] at made
          cases Except.ok.inj made
          obtain ⟨part, slice⟩ :=
            Text.IsSlice.of_boundaries boundary atStop (Nat.le_of_lt less)
          obtain ⟨tileRest, sliceRest⟩ := induction rest atStop others following
          have ends : piece.span.start + (String.ofList part).utf8ByteSize = piece.span.stop := by
            rw [Text.utf8ByteSize_ofList]
            exact slice.add_byteLength
          rw [sliceText_eq slice, List.flatten_cons, List.singleton_append]
          refine ⟨⟨rfl, ?_, ?_⟩, ?_⟩
          · rw [Token.stop_mk, ends]
            exact less
          · rw [Token.stop_mk, ends]
            exact tileRest
          · rw [List.flatMap_cons, String.toList_ofList]
            exact slice.append sliceRest

namespace Scanner

section

variable {m : Type → Type} [Monad m] [MonadExceptOf TokenizerError m] [LawfulMonad m]

/-- A scan makes tokens of the pieces, whatever effects the handler has. -/
theorem scanFound_eq
    (throw_bind : ∀ (error : TokenizerError) (next : List Token → m (List Token)),
      (throw error >>= next) = throw error)
    (scanner : Scanner) (keepWhitespace : Bool) (handler : String → String → Nat → m Token)
    (input : String) (found : List Regex.Found) :
    scanner.scanFound keepWhitespace handler input found =
      (piecesFrom (Text.byteLength input.toList) 0 (winners scanner.slots found)).mapM
          (Piece.tokens keepWhitespace handler input.toList) >>= fun parts =>
        conclude (emptyMatch? (winners scanner.slots found)) parts.flatten :=
  scanHitsFrom_eq throw_bind keepWhitespace handler input.toList 0 _

end

section

variable {scanner : Scanner} {input : String} {found : List Regex.Found}

/-- Pieces start and end between characters. -/
theorem boundary_pieces (successive : Regex.Successive input.toList found)
    (spanned : ∀ one ∈ found, Spanned scanner.slots one) {piece : Piece}
    (member : piece ∈ piecesFrom (Text.byteLength input.toList) 0 (winners scanner.slots found)) :
    Text.Boundary input.toList piece.span.start ∧ Text.Boundary input.toList piece.span.stop :=
  span_of_mem_piecesFrom (.zero _) (.last _)
    (fun _ among => boundary_winners successive spanned among) member

/-- Pieces are slices of the text. -/
theorem isSlice_pieces (successive : Regex.Successive input.toList found)
    (spanned : ∀ one ∈ found, Spanned scanner.slots one) {piece : Piece}
    (member : piece ∈ piecesFrom (Text.byteLength input.toList) 0 (winners scanner.slots found)) :
    ∃ part, Text.IsSlice input.toList piece.span.start piece.span.stop part := by
  have tile := tile_piecesFrom (inOrder_winners successive spanned)
  obtain ⟨atStart, atStop⟩ := boundary_pieces successive spanned member
  have less : piece.span.start < piece.span.stop := (tile.start_le_of_mem member).2
  exact Text.IsSlice.of_boundaries atStart atStop (Nat.le_of_lt less)

/-- So are gaps. -/
theorem isSlice_gaps (successive : Regex.Successive input.toList found)
    (spanned : ∀ one ∈ found, Spanned scanner.slots one) {gap : Regex.Span}
    (member : gap ∈
      Piece.gaps (piecesFrom (Text.byteLength input.toList) 0 (winners scanner.slots found))) :
    ∃ part, Text.IsSlice input.toList gap.start gap.stop part :=
  isSlice_pieces successive spanned (Piece.mem_gaps_iff.mp member)

/-- A scan that keeps white space and gaps, and comes to its end, covers the text with tokens. -/
theorem tile_of_scanFound (successive : Regex.Successive input.toList found)
    (spanned : ∀ one ∈ found, Spanned scanner.slots one) {tokens : List Token}
    (made : scanner.scanFound true keepUnknown input found = .ok tokens) :
    Token.Tile 0 tokens input.utf8ByteSize ∧
      tokens.flatMap (·.text.toList) = input.toList := by
  rw [scanner.scanFound_eq (fun _ _ => rfl)] at made
  cases parted : (piecesFrom (Text.byteLength input.toList) 0 (winners scanner.slots found)).mapM
      (Piece.tokens true keepUnknown input.toList) with
  | error error =>
      rw [parted] at made
      cases made
  | ok parts =>
      rw [parted] at made
      cases ending : emptyMatch? (winners scanner.slots found) with
      | some error =>
          rw [ending] at made
          cases made
      | none =>
          rw [ending] at made
          cases Except.ok.inj made
          -- Nothing ended the scan early, so the pieces reach the end of the text.
          have tile := tile_piecesFrom (inOrder_winners successive spanned)
          rw [Hit.horizon_of_emptyMatch? ending] at tile
          obtain ⟨tiled, whole⟩ := tile_tokens_of_kept tile (.zero _)
            (fun _ member => (boundary_pieces successive spanned member).2) parted
          rw [← Text.byteLength_toList]
          exact ⟨tiled, whole.eq_of_whole⟩

end

/-- **Scanning loses nothing and invents nothing.** Up to the first call that is refused, the
handler is called on the longest stretches that no match covers, once each and in order, with the
text and the offset of each. Without a refusal the error is that of an empty match that is not of
white space, if there is one. Tokens with the gaps and the white space among them cover the text
from end to end. -/
theorem scanFound_lossless (scanner : Scanner) (keepWhitespace : Bool) (handler : UnknownHandler)
    {input : String} {found : List Regex.Found}
    (successive : Regex.Successive input.toList found)
    (spanned : ∀ one ∈ found, Spanned scanner.slots one) :
    let hits := winners scanner.slots found
    let result := scanner.scanFound keepWhitespace handler input found
    ∃ (gaps : List Regex.Span) (asked : List UnknownCall) (error? : Option TokenizerError),
      gaps.Pairwise (fun gap later => gap.stop ≤ later.start) ∧
        (∀ gap, gap ∈ gaps ↔
          MaximalGap (Hit.Covered hits) 0 (Hit.horizon input.utf8ByteSize hits) gap) ∧
        (∀ span ∈ gaps ++ hits.map Hit.span,
          ∃ part, Text.IsSlice input.toList span.start span.stop part ∧
            sliceText input.toList span.start span.stop = .ofList part) ∧
        Asked handler (gaps.map (·.call input.toList)) asked error? ∧
        (scanner.scanFound keepWhitespace (recorded handler) input found).Shows result asked ∧
        EndsIn result (error?.or (emptyMatch? hits)) ∧
        ∀ tokens, keepWhitespace = true → handler = keepUnknown → result = .ok tokens →
          Token.Tile 0 tokens input.utf8ByteSize ∧
            tokens.flatMap (·.text.toList) = input.toList := by
  intro hits result
  let pieces := piecesFrom (Text.byteLength input.toList) 0 hits
  have inOrder := inOrder_winners successive spanned
  have resultEq : result = pieces.mapM (Piece.tokens keepWhitespace handler input.toList) >>=
      fun parts => conclude (emptyMatch? hits) parts.flatten :=
    scanner.scanFound_eq (fun _ _ => rfl) keepWhitespace handler input found
  obtain ⟨asked, error?, asks, shows, ends⟩ :=
    shows_mapM_tokens keepWhitespace handler input.toList pieces
  refine ⟨Piece.gaps pieces, asked, error?, (tile_piecesFrom inOrder).pairwise_gaps, ?_, ?_, asks,
    ?_, ?_, ?_⟩
  · intro gap
    rw [Piece.mem_gaps_iff, ← Text.byteLength_toList]
    exact gap_mem_piecesFrom_iff inOrder
  · intro span member
    have slice : ∃ part, Text.IsSlice input.toList span.start span.stop part := by
      rcases List.mem_append.mp member with isGap | isHit
      · exact isSlice_gaps successive spanned isGap
      · obtain ⟨hit, among, rfl⟩ := List.mem_map.mp isHit
        exact isSlice_winners successive spanned among
    obtain ⟨part, slice⟩ := slice
    exact ⟨part, slice, sliceText_eq slice⟩
  · rw [resultEq, scanner.scanFound_eq (fun _ _ => rfl) keepWhitespace (recorded handler)]
    exact shows.bind fun parts => Recording.shows_conclude _ _
  · rw [resultEq]
    exact ends.bind fun parts => endsIn_conclude _ _
  · rintro tokens rfl rfl made
    exact tile_of_scanFound successive spanned made

/-- Two gaps, one before white space and one at the end after white space that is empty. -/
theorem scanFound_lossless_blank :
    let scanner : Scanner :=
      ⟨.alternative (.capture 1 (some "descent_d0") (.set (.single 'a')))
          (.capture 2 (some "descent_d1") (.repetition 0 none true (.set (.single ' ')))),
        [(1, .keyword "a"), (2, .whitespace " *")]⟩
    let input := "aé a?"
    let found := Regex.matchesIn scanner.expr.find? input.toList
    let tokens : List Token := [⟨"a", "a", 0⟩, ⟨"unknown", "é", 1⟩, ⟨"whitespace", " ", 3⟩,
      ⟨"a", "a", 4⟩, ⟨"unknown", "?", 5⟩]
    (Scanner.compile [.keyword "a", .whitespace " *"]).toOption = some scanner ∧
      (scanner.scanFound true (recorded keepUnknown) input found).Shows (.ok tokens)
        [⟨"unknown", "é", 1⟩, ⟨"unknown", "?", 5⟩] ∧
      (∃ gaps : List Regex.Span, gaps.map (·.call input.toList) =
          [⟨"unknown", "é", 1⟩, ⟨"unknown", "?", 5⟩] ∧
        ∀ gap, gap ∈ gaps ↔ MaximalGap (Hit.Covered (winners scanner.slots found)) 0 6 gap) ∧
      Token.Tile 0 tokens 6 ∧ tokens.flatMap (·.text.toList) = input.toList := by
  intro scanner input found tokens
  have successive : Regex.Successive input.toList found := {
    start_le_stop := by decide
    boundary_start := by decide
    boundary_stop := by decide
    in_order := by decide }
  have spanned : ∀ one ∈ found, Spanned scanner.slots one := by decide
  obtain ⟨gaps, asked, error?, -, maximal, -, asks, shows, ends, tiles⟩ :=
    scanner.scanFound_lossless true keepUnknown successive spanned
  have compiled : (Scanner.compile [.keyword "a", .whitespace " *"]).toOption = some scanner := by
    decide +kernel
  have made : (scanner.scanFound true keepUnknown input found).toOption = some tokens := by decide
  have record : ((scanner.scanFound true (recorded keepUnknown) input found).run.run []).2 =
      [⟨"unknown", "é", 1⟩, ⟨"unknown", "?", 5⟩] := by decide +kernel
  have unharmed : emptyMatch? (winners scanner.slots found) = none := by decide
  have length : input.utf8ByteSize = 6 := by decide
  rw [shows []] at record
  rw [length] at maximal tiles
  rw [Hit.horizon_of_emptyMatch? unharmed] at maximal
  rw [unharmed, Option.or_none] at ends
  cases error? with
  | some error =>
      have refused : scanner.scanFound true keepUnknown input found = .error error := ends
      rw [refused] at made
      cases made
  | none =>
      obtain ⟨value, result⟩ := ends
      rw [result] at made shows
      cases Option.some.inj made
      rw [← record]
      exact ⟨compiled, shows, ⟨gaps, asks.eq_of_none.symm, maximal⟩, tiles tokens rfl rfl result⟩

end Scanner

end TokenGrammar
