import Mathlib.Data.List.DropRight
import TokenGrammar.Proofs.Grammar.Finality
import TokenGrammar.Proofs.Tokenizer.Retention

/-! # Where the input goes on behind a cut

A report about a cut names a byte offset of the text, but it is found from the tokens alone. A token
that is next at the cut lies at this offset. Where no token is next, the last one ends at this
offset, and white space that was left out may lie between it and the end of the text.

* `Piece.Placed`: a token that lies where its piece does, with the text that lies there.
* `Tokenizer.leftOutAtEnd`, `tile_leftOut`: the white space behind the last token.
* `Scanner.placed_of_scan`: the tokens of a scan lie where their pieces do.
* `Grammar.offset_of_committed`: the offset that is reported, by the tokens.
* `parseText_committed`: the offset that is reported, by the text. -/

namespace TokenGrammar

namespace Piece

/-- A token lies where its piece does, and has the text that lies there. -/
structure Placed (input : List Char) (piece : Piece) (token : Token) : Prop where
  /-- They start at the same place. -/
  position : token.position = piece.span.start
  /-- They end at the same place. -/
  stop : token.stop = piece.span.stop
  /-- The text is what lies between. -/
  isSlice : Text.IsSlice input token.position token.stop token.text.toList

/-- A token with the text of its piece lies where the piece does. -/
theorem placed_mk {input : List Char} {piece : Piece} {part : List Char}
    (slice : Text.IsSlice input piece.span.start piece.span.stop part) (name : String) :
    piece.Placed input
      ⟨name, sliceText input piece.span.start piece.span.stop, piece.span.start⟩ := by
  have ends : piece.span.start + (String.ofList part).utf8ByteSize = piece.span.stop := by
    rw [Text.utf8ByteSize_ofList]
    exact slice.add_byteLength
  rw [sliceText_eq slice]
  refine ⟨rfl, ends, ?_⟩
  rw [Token.stop_mk, ends, String.toList_ofList]
  exact slice

/-- Where every gap is refused there are tokens of matches only, and each lies where the match
does. -/
theorem placed_of_token {input : List Char} {piece : Piece} {token : Token}
    (made : piece.token rejectUnknown input = .ok token) {part : List Char}
    (slice : Text.IsSlice input piece.span.start piece.span.stop part) :
    piece.Placed input token := by
  cases piece with
  | gap span => cases made
  | hit found =>
      cases Except.ok.inj made
      exact placed_mk slice found.name

end Piece

/-! ## What is left out at the end of a text -/

/-- Whether a piece is white space whose token does not come out. -/
def Piece.isLeftOut (keepWhitespace : Bool) (piece : Piece) : Bool :=
  !keepWhitespace && piece.isWhitespace

/-- The white space at the end of a text that is left out. -/
def Tokenizer.leftOutAtEnd (tokenizer : Tokenizer) (input : String) : List Piece :=
  (tokenizer.pieces input).rtakeWhile (Piece.isLeftOut tokenizer.keepWhitespace)

/-- The token of a last piece comes last, if it comes out. -/
theorem retained_concat (keepWhitespace : Bool) (made : List (Piece × Token)) (piece : Piece)
    (token : Token) :
    retained keepWhitespace (made ++ [(piece, token)]) =
      retained keepWhitespace made ++
        if piece.isLeftOut keepWhitespace then [] else [token] := by
  rw [retained, List.filter_append, List.map_append]
  cases blank : piece.isWhitespace <;> cases keepWhitespace <;>
    simp [retained, Piece.isLeftOut, blank]

/-- Where the last token ends that comes out, the white space starts that is left out behind it. -/
theorem tile_leftOut {input : List Char} {made : List (Piece × Token)} (keepWhitespace : Bool)
    (placed : ∀ one ∈ made, one.1.Placed input one.2) {stop : Nat}
    (tile : Piece.Tile 0 (made.map Prod.fst) stop) :
    Piece.Tile (((retained keepWhitespace made).getLast?.map Token.stop).getD 0)
      ((made.map Prod.fst).rtakeWhile (Piece.isLeftOut keepWhitespace)) stop := by
  -- From the last piece to the first: as long as pieces are left out, the tokens stay the same.
  induction made using List.reverseRecOn generalizing stop with
  | nil => exact tile
  | append_singleton made one induction =>
      obtain ⟨piece, token⟩ := one
      obtain ⟨others, last⟩ := List.forall_mem_append.mp placed
      rw [List.map_append] at tile ⊢
      obtain ⟨middle, front, back⟩ := Piece.Tile.append_iff.mp tile
      rw [retained_concat]
      cases leftOut : piece.isLeftOut keepWhitespace with
      | true =>
          rw [if_pos rfl, List.append_nil, List.map_singleton,
            List.rtakeWhile_concat_pos _ _ _ leftOut]
          exact Piece.Tile.append_iff.mpr ⟨middle, induction others front, back⟩
      | false =>
          have kept : ¬ piece.isLeftOut keepWhitespace = true := by
            rw [leftOut]
            exact Bool.false_ne_true
          obtain ⟨-, -, ends⟩ := back
          rw [if_neg Bool.false_ne_true, List.map_singleton,
            List.rtakeWhile_concat_neg _ _ _ kept, List.getLast?_concat]
          exact (last _ (List.mem_singleton_self _)).stop.trans ends

/-- Nothing is left out at the end just if the last piece is not. -/
theorem Tokenizer.leftOutAtEnd_eq_nil_iff (tokenizer : Tokenizer) (input : String) :
    tokenizer.leftOutAtEnd input = [] ↔
      ∀ last ∈ (tokenizer.pieces input).getLast?,
        last.isLeftOut tokenizer.keepWhitespace = false := by
  rw [leftOutAtEnd, List.rtakeWhile_eq_nil_iff]
  constructor
  · intro kept last isLast
    obtain ⟨solid, rfl⟩ := List.mem_getLast?_eq_getLast isLast
    exact Bool.eq_false_iff.mpr (kept solid)
  · intro kept solid
    exact Bool.eq_false_iff.mp (kept _ (List.getLast?_eq_some_getLast solid))

/-! ## The pieces behind the tokens of a scan -/

/-- A scan that comes to its end has made a token of every piece. -/
theorem Scanner.labelled_of_scan {scanner : Scanner} {keepWhitespace : Bool}
    {handler : UnknownHandler} {input : String} {tokens : List Token}
    (scanned : scanner.scan keepWhitespace handler input = .ok tokens) :
    emptyMatch? (scanner.hits input) = none ∧
      ∃ made, labelled handler input.toList (scanner.pieces input) = .ok made ∧
        retained keepWhitespace made = tokens := by
  rw [scanner.scan_eq_labelled] at scanned
  cases isMade : labelled handler input.toList (scanner.pieces input) with
  | error error =>
      rw [isMade] at scanned
      cases scanned
  | ok made =>
      rw [isMade] at scanned
      obtain ⟨unharmed, out⟩ := conclude_eq_ok_iff.mp scanned
      exact ⟨unharmed, made, rfl, out⟩

/-- Where every gap is refused, and matches lie on the text in order, the tokens of a scan lie where
their pieces do, and the pieces cover the text. -/
theorem Scanner.placed_of_scan {scanner : Scanner} {input : String}
    (successive : Regex.Successive input.toList
      (Regex.matchesIn scanner.expr.find? input.toList))
    (spanned : ∀ one ∈ Regex.matchesIn scanner.expr.find? input.toList,
      Spanned scanner.slots one)
    {keepWhitespace : Bool} {tokens : List Token}
    (scanned : scanner.scan keepWhitespace rejectUnknown input = .ok tokens) :
    ∃ made : List (Piece × Token),
      made.map Prod.fst = scanner.pieces input ∧ retained keepWhitespace made = tokens ∧
        (∀ one ∈ made, one.1.Placed input.toList one.2) ∧
        Piece.Tile 0 (scanner.pieces input) input.utf8ByteSize := by
  obtain ⟨unharmed, made, isMade, out⟩ := labelled_of_scan scanned
  obtain ⟨whole, each⟩ := token_of_labelled isMade
  have tile : Piece.Tile 0 (scanner.pieces input)
      (Hit.horizon (Text.byteLength input.toList) (scanner.hits input)) :=
    tile_piecesFrom (inOrder_winners successive spanned)
  rw [Hit.horizon_of_emptyMatch? unharmed, Text.byteLength_toList] at tile
  refine ⟨made, whole, out, fun one member => ?_, tile⟩
  have isPiece : one.1 ∈ scanner.pieces input := by
    rw [← whole]
    exact List.mem_map_of_mem member
  obtain ⟨part, slice⟩ := isSlice_pieces successive spanned isPiece
  exact Piece.placed_of_token (each one member) slice

/-! ## What a report says -/

/-- A grammar that is given up on account of a cut reports a cut within the tokens, at the offset
that the tokens give. -/
theorem Grammar.offset_of_committed {rules : Rules} (combinators : rules.Combinator)
    {grammar : Grammar} (combinator : grammar.Combinator) {allowance : Nat} {tokens : List Token}
    {outcome : Outcome}
    (ran : grammar.run rules allowance (.ofState (.ofTokens tokens)) = some outcome)
    {label : String} {cutPosition offset checkpoint cursor : Nat}
    (aborted : outcome.verdict =
      .aborted (.committed label cutPosition offset checkpoint cursor)) :
    cutPosition ≤ tokens.length ∧ offset = (ParseState.ofTokens tokens).offsetOf cutPosition := by
  obtain ⟨events, follows⟩ := run_advancing combinators combinator allowance ran
  have advances := follows.advances
  obtain ⟨cut, -, -, reported, -⟩ := (follows.explained _ aborted).of_committed
  -- At the start there is no cut, so the one reported was made on the way.
  have made : lastCut? events = some ⟨label, cutPosition⟩ := by
    have last := advances.cut
    rw [cut] at last
    exact Option.or_none.symm.trans last.symm
  have within : outcome.session.state.cursor ≤ tokens.length :=
    advances.cursor_le_length (Nat.zero_le _)
  refine ⟨Nat.le_trans (advances.cut_between _ made).2 within, ?_⟩
  exact reported.trans (ParseState.offsetOf_congr advances.tokens cutPosition)

/-- The error in place of a forest is that of the verdict. -/
theorem Outcome.verdict_of_forest? {outcome : Outcome} {error : ParseError}
    (refused : outcome.forest? = .error (.parse error)) : outcome.verdict = .aborted error := by
  rw [forest?] at refused
  cases verdict : outcome.verdict with
  | matched =>
      rw [verdict] at refused
      cases refused
  | failed =>
      rw [verdict] at refused
      cases refused
  | aborted other =>
      rw [verdict] at refused
      cases refused
      rfl

/-- Where the tokens of a text are known, a parse runs the grammar over them. -/
theorem parseText_of_scan {tokenizer : Tokenizer} {input : String} {tokens : List Token}
    (scanned : (tokenizer.scan input).1 = .ok tokens) (rules : Rules) (grammar : Grammar) :
    (parseText tokenizer rules grammar input).1 =
      (grammar.runState rules (.ofTokens tokens)).map Outcome.forest? := by
  rw [parseText, Tokenizer.tokenize, scanned]
  rfl

/-- A parse that is given up has tokens, and its grammar was given up on them. -/
theorem exists_run_of_parseText {tokenizer : Tokenizer} {rules : Rules} {grammar : Grammar}
    {input : String} {error : ParseError}
    (gaveUp : (parseText tokenizer rules grammar input).1 = some (.error (.parse error))) :
    ∃ tokens outcome, (tokenizer.scan input).1 = .ok tokens ∧
      grammar.runState rules (.ofTokens tokens) = some outcome ∧
        outcome.verdict = .aborted error := by
  cases scanned : (tokenizer.scan input).1 with
  | error refusal =>
      rw [parseText, Tokenizer.tokenize, scanned] at gaveUp
      cases gaveUp
  | ok tokens =>
      rw [parseText_of_scan scanned] at gaveUp
      obtain ⟨outcome, ran, forest⟩ := Option.map_eq_some_iff.mp gaveUp
      exact ⟨tokens, outcome, rfl, ran, Outcome.verdict_of_forest? forest⟩

/-- **The offset of a cut is where the next token lies, or where the last one ends.** A parse that a
cut ends, with every gap refused and the matches in order on the text, names a cut within the
tokens. If a token is next at the cut, it lies at the offset. If none is, the last token ends at the
offset, or it is zero without tokens, and the white space that was left out lies between the offset
and the end of the text. So the offset is the length of the text if and only if no white space is
left out at the end. -/
theorem parseText_committed {tokenizer : Tokenizer} {scanner : Scanner} {rules : Rules}
    {grammar : Grammar} {input : String} (rejects : tokenizer.onUnknown = rejectUnknown)
    (prepared : tokenizer.prepare = .ok scanner)
    (successive : Regex.Successive input.toList
      (Regex.matchesIn scanner.expr.find? input.toList))
    (spanned : ∀ one ∈ Regex.matchesIn scanner.expr.find? input.toList,
      Scanner.Spanned scanner.slots one)
    (combinators : rules.Combinator) (combinator : grammar.Combinator)
    {label : String} {cutPosition offset checkpoint cursor : Nat}
    (committed : (parseText tokenizer rules grammar input).1 =
      some (.error (.parse (.committed label cutPosition offset checkpoint cursor)))) :
    ∃ tokens : List Token,
      (tokenizer.scan input).1 = .ok tokens ∧ cutPosition ≤ tokens.length ∧
        (∀ token, tokens[cutPosition]? = some token →
          offset = token.position ∧
            Text.IsSlice input.toList offset token.stop token.text.toList) ∧
        (cutPosition = tokens.length →
          offset = (tokens.getLast?.map Token.stop).getD 0 ∧
            Piece.Tile offset (tokenizer.leftOutAtEnd input) input.utf8ByteSize ∧
            (offset = input.utf8ByteSize ↔
              ∀ last ∈ (tokenizer.pieces input).getLast?,
                last.isLeftOut tokenizer.keepWhitespace = false)) := by
  obtain ⟨tokens, outcome, scanned, ran, aborted⟩ := exists_run_of_parseText committed
  obtain ⟨within, reported⟩ :=
    Grammar.offset_of_committed combinators combinator ran aborted
  have scan : scanner.scan tokenizer.keepWhitespace rejectUnknown input = .ok tokens := by
    rw [← rejects, ← scanned, Tokenizer.scan_of_prepare prepared]
  obtain ⟨made, whole, out, placed, tile⟩ := Scanner.placed_of_scan successive spanned scan
  refine ⟨tokens, scanned, within, ?_, ?_⟩
  · intro token there
    have same : offset = token.position :=
      reported.trans (ParseState.offsetOf_of_getElem? there)
    have member : token ∈ retained tokenizer.keepWhitespace made := by
      rw [out]
      exact List.mem_of_getElem? there
    obtain ⟨one, among, rfl⟩ := List.mem_map.mp member
    rw [same]
    exact ⟨rfl, (placed one (List.mem_of_mem_filter among)).isSlice⟩
  · rintro rfl
    have same : offset = (tokens.getLast?.map Token.stop).getD 0 :=
      reported.trans (ParseState.offsetOf_length _)
    have pieces : made.map Prod.fst = tokenizer.pieces input := by
      rw [Tokenizer.pieces, prepared, whole]
    have behind : Piece.Tile offset (tokenizer.leftOutAtEnd input) input.utf8ByteSize := by
      rw [← whole] at tile
      rw [same, ← out, Tokenizer.leftOutAtEnd, ← pieces]
      exact tile_leftOut tokenizer.keepWhitespace placed tile
    refine ⟨same, behind, ?_⟩
    rw [behind.start_eq_stop_iff, tokenizer.leftOutAtEnd_eq_nil_iff]

/-- White space on either side of the only token, and a cut behind that token. -/
theorem parseText_committed_blank :
    let scanner : Scanner :=
      ⟨.alternative (.capture 1 (some "descent_d0") (.set (.single 'a')))
          (.capture 2 (some "descent_d1") (.set (.single ' '))),
        [(1, .keyword "a"), (2, .whitespace " ")]⟩
    let tokenizer : Tokenizer :=
      ⟨[.keyword "a", .whitespace " "], defaultWhitespace, false, rejectUnknown, some scanner⟩
    let grammar : Grammar := .sequence [.token "a", .cut "end", .token "a"]
    let found := Regex.matchesIn scanner.expr.find? " a ".toList
    (Scanner.compile tokenizer.effectiveDefinitions).toOption = some scanner ∧
      Regex.Successive " a ".toList found ∧
      (∀ one ∈ found, Scanner.Spanned scanner.slots one) ∧ grammar.Combinator ∧
      (parseText tokenizer [] grammar " a ").1 =
        some (.error (.parse (.committed "end" 1 2 0 1))) ∧
      Piece.Tile 2 (tokenizer.leftOutAtEnd " a ") 3 := by
  intro scanner tokenizer grammar found
  have compiled : (Scanner.compile tokenizer.effectiveDefinitions).toOption = some scanner := by
    decide +kernel
  have successive : Regex.Successive " a ".toList found := {
    start_le_stop := by decide
    boundary_start := by decide
    boundary_stop := by decide
    in_order := by decide }
  have spanned : ∀ one ∈ found, Scanner.Spanned scanner.slots one := by decide
  have combinators : Rules.Combinator [] := nofun
  have combinator : grammar.Combinator := ⟨trivial, trivial, trivial, trivial⟩
  have scanned : (tokenizer.scan " a ").1 = .ok [⟨"a", "a", 1⟩] := rfl
  have committed : (parseText tokenizer [] grammar " a ").1 =
      some (.error (.parse (.committed "end" 1 2 0 1))) := by
    rw [parseText_of_scan scanned]
    rfl
  obtain ⟨tokens, scanned', -, -, last⟩ :=
    parseText_committed rfl rfl successive spanned combinators combinator committed
  cases scanned.symm.trans scanned'
  exact ⟨compiled, successive, spanned, combinator, committed, (last rfl).2.1⟩

/-- White space behind the last token keeps the offset from the end of the text. The cut lies behind
the only token, and the text goes on for another byte behind the offset that is reported. -/
theorem parseText_committed_before_end :
    let scanner : Scanner :=
      ⟨.alternative (.capture 1 (some "descent_d0") (.set (.single 'a')))
          (.capture 2 (some "descent_d1") (.set (.single ' '))),
        [(1, .keyword "a"), (2, .whitespace " ")]⟩
    let tokenizer : Tokenizer :=
      ⟨[.keyword "a", .whitespace " "], defaultWhitespace, false, rejectUnknown, some scanner⟩
    let grammar : Grammar := .sequence [.token "a", .cut "end", .token "a"]
    let found := Regex.matchesIn scanner.expr.find? "a ".toList
    (Scanner.compile tokenizer.effectiveDefinitions).toOption = some scanner ∧
      Regex.Successive "a ".toList found ∧
      (∀ one ∈ found, Scanner.Spanned scanner.slots one) ∧ grammar.Combinator ∧
      (tokenizer.scan "a ").1 = .ok [⟨"a", "a", 0⟩] ∧
      (parseText tokenizer [] grammar "a ").1 =
        some (.error (.parse (.committed "end" 1 1 0 1))) ∧
      1 ≠ "a ".utf8ByteSize := by
  intro scanner tokenizer grammar found
  have compiled : (Scanner.compile tokenizer.effectiveDefinitions).toOption = some scanner := by
    decide +kernel
  have successive : Regex.Successive "a ".toList found := {
    start_le_stop := by decide
    boundary_start := by decide
    boundary_stop := by decide
    in_order := by decide }
  have spanned : ∀ one ∈ found, Scanner.Spanned scanner.slots one := by decide
  have scanned : (tokenizer.scan "a ").1 = .ok [⟨"a", "a", 0⟩] := rfl
  refine ⟨compiled, successive, spanned, ⟨trivial, trivial, trivial, trivial⟩, scanned, ?_,
    by decide⟩
  rw [parseText_of_scan scanned]
  rfl

end TokenGrammar
