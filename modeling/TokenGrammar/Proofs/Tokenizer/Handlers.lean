import TokenGrammar.Proofs.Tokenizer.Registry
import TokenGrammar.Proofs.Tokenizer.Acceptance
import TokenGrammar.Proofs.Tokenizer.Retention

/-! # What a handler has a say in

A scan that keeps the gaps as they are shows what any other handler will be asked. The tokens of
gaps are known by their name, which no definition may have.

* `resolve`, `resolveAll`: the tokens of gaps are replaced by what a handler makes of the gaps.
* `UnknownCall.refusal?`: the error of a handler that refuses a call.
* `Tokenizer.Sound.name_ne_of_mem_pieces`: no match has the name of gaps.
* `Tokenizer.Sound.exists_resolved`: a scan resolves the tokens of a scan that keeps the gaps.
* `Tokenizer.scan_withUnknownHandler`: so the answers of the handler are all that makes a
  difference. -/

namespace TokenGrammar

/-- Replace the token of a gap by what a handler makes of the gap. -/
def resolve (handler : UnknownHandler) (token : Token) : Except TokenizerError Token :=
  if token.name = unknownName then handler token.name token.text token.position else .ok token

/-- The call that gave a handler occasion for a token. -/
def Token.call (token : Token) : UnknownCall :=
  ⟨token.name, token.text, token.position⟩

/-- The calls that gave occasion for the tokens of gaps. -/
def unknownCalls (tokens : List Token) : List UnknownCall :=
  (tokens.filter (·.name == unknownName)).map Token.call

/-- The error of a handler that refuses a call. -/
def UnknownCall.refusal? (call : UnknownCall) (handler : UnknownHandler) : Option TokenizerError :=
  match call.answer handler with
  | .error error => some error
  | .ok _ => none

/-! ## Calls for tokens -/

section

variable {token : Token}

/-- A token of a gap has its call. -/
theorem unknownCalls_cons_of_eq (unknown : token.name = unknownName) (tokens : List Token) :
    unknownCalls (token :: tokens) = token.call :: unknownCalls tokens := by
  rw [unknownCalls, List.filter_cons_of_pos (by simpa using unknown)]
  rfl

/-- A token of another name has none. -/
theorem unknownCalls_cons_of_ne (other : token.name ≠ unknownName) (tokens : List Token) :
    unknownCalls (token :: tokens) = unknownCalls tokens := by
  rw [unknownCalls, List.filter_cons_of_neg (by simpa using other)]
  rfl

theorem unknownCalls_append (tokens later : List Token) :
    unknownCalls (tokens ++ later) = unknownCalls tokens ++ unknownCalls later := by
  rw [unknownCalls, List.filter_append, List.map_append]
  rfl

/-- There are no calls just if no token is of a gap. -/
theorem unknownCalls_eq_nil_iff {tokens : List Token} :
    unknownCalls tokens = [] ↔ ∀ token ∈ tokens, token.name ≠ unknownName := by
  simp [unknownCalls, List.filter_eq_nil_iff]

end

/-! ## Refusals -/

section

variable {handler : UnknownHandler} {calls asked : List UnknownCall}
  {error? : Option TokenizerError}

/-- Calls end in the first refusal, if there is one. -/
theorem Asked.eq_findSome? (asks : Asked handler calls asked error?) :
    error? = calls.findSome? (·.refusal? handler) := by
  induction asks with
  | done => rfl
  | accepted answer further induction =>
      rw [List.findSome?_cons, UnknownCall.refusal?, answer]
      exact induction
  | refused calls answer => rw [List.findSome?_cons, UnknownCall.refusal?, answer]

/-- A handler that keeps gaps refuses no call. -/
theorem findSome?_refusal?_keepUnknown (calls : List UnknownCall) :
    calls.findSome? (·.refusal? keepUnknown) = none :=
  List.findSome?_eq_none_iff.mpr fun _ _ => rfl

/-- A handler that refuses all calls refuses the first one. -/
theorem findSome?_refusal?_rejectUnknown (calls : List UnknownCall) :
    calls.findSome? (·.refusal? rejectUnknown) =
      calls.head?.map fun call => .unknownSpan call.text call.position := by
  cases calls with
  | nil => rfl
  | cons call calls => rfl

end

namespace Scanner

/-- A handler that keeps gaps is called for all of them. -/
theorem calls_keepUnknown (scanner : Scanner) (keepWhitespace : Bool) (input : String) :
    scanner.calls keepWhitespace keepUnknown input = scanner.gapCalls input := by
  obtain ⟨error?, asks⟩ := scanner.asked_calls keepWhitespace keepUnknown input
  have unrefused := asks.eq_findSome?
  rw [findSome?_refusal?_keepUnknown] at unrefused
  exact (unrefused ▸ asks).eq_of_none

/-! ## Names of matches -/

/-- Slots hold the definitions they were made for. -/
theorem map_snd_slotsFrom {expr : Regex.Expr} {index : Nat} {definitions : List Definition}
    {slots : List (Nat × Definition)} (found : slotsFrom expr index definitions = .ok slots) :
    slots.map Prod.snd = definitions := by
  induction definitions generalizing index slots with
  | nil =>
      cases Except.ok.inj found
      rfl
  | cons definition definitions induction =>
      rw [slotsFrom] at found
      cases first : expr.groupOfName? (groupName index) with
      | none =>
          rw [first] at found
          cases found
      | some group =>
          rw [first] at found
          cases rest : slotsFrom expr (index + 1) definitions with
          | error error =>
              simp only [rest] at found
              cases found
          | ok others =>
              simp only [rest] at found
              cases Except.ok.inj found
              exact congrArg (definition :: ·) (induction rest)

/-- So do those of a scanner. -/
theorem map_snd_slots {definitions : List Definition} {scanner : Scanner}
    (compiled : compile definitions = .ok scanner) :
    scanner.slots.map Prod.snd = definitions := by
  obtain ⟨-, -, found⟩ := of_compile_eq_ok compiled
  exact map_snd_slotsFrom found

/-- A match has the name of a definition. -/
theorem exists_name_eq_of_winner? {slots : List (Nat × Definition)} {found : Regex.Found}
    {hit : Hit} (won : winner? slots found = some hit) :
    ∃ definition ∈ slots.map Prod.snd, definition.name = hit.name := by
  obtain ⟨slot, member, spanned⟩ := List.exists_of_findSome?_eq_some won
  obtain ⟨span, -, rfl⟩ := Option.map_eq_some_iff.mp spanned
  exact ⟨slot.2, List.mem_map_of_mem member, rfl⟩

end Scanner

/-- A match among the pieces is one of the matches. -/
theorem mem_of_mem_piecesFrom {length lastStop : Nat} {hits : List Hit} {hit : Hit}
    (member : .hit hit ∈ piecesFrom length lastStop hits) : hit ∈ hits := by
  have notBetween : ∀ start stop, .hit hit ∉ Piece.between start stop := by
    intro start stop among
    rw [Piece.between] at among
    split at among <;> simp at among
  induction hits generalizing lastStop with
  | nil => exact absurd member (notBetween _ _)
  | cons first hits induction =>
      rcases first.cases with ⟨empty, blank, -⟩ | ⟨fatal, -, -⟩ | ⟨solid, -⟩
      · rw [piecesFrom_cons_of_blank empty blank] at member
        exact List.mem_cons_of_mem first (induction member)
      · rw [piecesFrom_cons_of_fatal fatal] at member
        exact absurd member (notBetween _ _)
      · rw [piecesFrom_cons_of_solid solid, List.mem_append, List.mem_cons] at member
        rcases member with before | same | behind
        · exact absurd before (notBetween _ _)
        · cases same
          exact List.mem_cons_self
        · exact List.mem_cons_of_mem first (induction behind)

namespace Tokenizer

/-- No match in a scan has the name of gaps, since no definition of a sound tokenizer has it. -/
theorem Sound.name_ne_of_mem_pieces {tokenizer : Tokenizer} (sound : tokenizer.Sound)
    {scanner : Scanner} (prepared : tokenizer.prepare = .ok scanner) {input : String} {hit : Hit}
    (member : .hit hit ∈ scanner.pieces input) : hit.name ≠ unknownName := by
  have compiled : Scanner.compile tokenizer.effectiveDefinitions = .ok scanner :=
    sound.prepare_eq.symm.trans prepared
  obtain ⟨found, -, won⟩ := List.mem_filterMap.mp (mem_of_mem_piecesFrom member)
  obtain ⟨definition, isSlot, sameName⟩ := Scanner.exists_name_eq_of_winner? won
  rw [Scanner.map_snd_slots compiled] at isSlot
  have valid := Definition.valid_iff.mp (sound.valid_of_effective definition isSlot)
  rw [← sameName]
  exact valid.2.1

end Tokenizer

/-! ## Tokens of gaps -/

/-- The tokens of a piece where gaps are kept as they are. -/
def Piece.collected (keepWhitespace : Bool) (input : List Char) : Piece → List Token
  | .gap span => [⟨unknownName, sliceText input span.start span.stop, span.start⟩]
  | .hit found => hitTokens keepWhitespace input found

section

variable (keepWhitespace : Bool) (handler : UnknownHandler) (input : List Char)

/-- The token of a gap is what the handler makes of it. -/
theorem resolve_gap (span : Regex.Span) :
    (Piece.collected keepWhitespace input (.gap span)).mapM (resolve handler) =
      Piece.tokens keepWhitespace handler input (.gap span) := by
  simp [Piece.collected, Piece.tokens, resolve]

/-- The token of a match stays as it is. -/
theorem resolve_hit {found : Hit} (named : found.name ≠ unknownName) :
    (Piece.collected keepWhitespace input (.hit found)).mapM (resolve handler) =
      Piece.tokens keepWhitespace handler input (.hit found) := by
  have kept : ∀ text position,
      resolve handler ⟨found.name, text, position⟩ = .ok ⟨found.name, text, position⟩ :=
    fun _ _ => if_neg named
  rw [Piece.collected, Piece.tokens, hitTokens]
  split
  · rfl
  · rw [List.mapM_cons, kept]
    rfl

/-- What a handler makes of pieces is what it makes of their tokens. -/
theorem resolve_collected {pieces : List Piece}
    (named : ∀ found, .hit found ∈ pieces → found.name ≠ unknownName) :
    (pieces.flatMap (Piece.collected keepWhitespace input)).mapM (resolve handler) =
      List.flatten <$> pieces.mapM (Piece.tokens keepWhitespace handler input) := by
  induction pieces with
  | nil => rfl
  | cons piece pieces induction =>
      have first : (piece.collected keepWhitespace input).mapM (resolve handler) =
          piece.tokens keepWhitespace handler input := by
        cases piece with
        | gap span => exact resolve_gap keepWhitespace handler input span
        | hit found => exact resolve_hit keepWhitespace handler input (named found (by simp))
      have rest := induction fun found member => named found (List.mem_cons_of_mem piece member)
      rw [List.flatMap_cons, List.mapM_append, first, rest]
      simp [List.mapM_cons]

/-- The calls for gaps are those for the tokens with their name. -/
theorem unknownCalls_collected {pieces : List Piece}
    (named : ∀ found, .hit found ∈ pieces → found.name ≠ unknownName) :
    unknownCalls (pieces.flatMap (Piece.collected keepWhitespace input)) =
      (Piece.gaps pieces).map (·.call input) := by
  induction pieces with
  | nil => rfl
  | cons piece pieces induction =>
      have rest := induction fun found member => named found (List.mem_cons_of_mem piece member)
      rw [List.flatMap_cons, unknownCalls_append, rest]
      cases piece with
      | gap span => rfl
      | hit found =>
          have other := named found (by simp)
          have none : unknownCalls (Piece.collected keepWhitespace input (.hit found)) = [] := by
            rw [Piece.collected, hitTokens]
            split <;> simp [unknownCalls, other]
          rw [none]
          rfl

end

/-! ## Resolved tokens -/

/-- What a scan comes to that resolves tokens, and then reports an error if one is given. -/
def resolveAll (handler : UnknownHandler) (tokens : List Token)
    (error? : Option TokenizerError) : Except TokenizerError (List Token) :=
  tokens.mapM (resolve handler) >>= conclude error?

/-- Tokens are resolved up to the first gap that the handler refuses. -/
theorem endsIn_mapM_resolve (handler : UnknownHandler) (tokens : List Token) :
    EndsIn (tokens.mapM (resolve handler))
      ((unknownCalls tokens).findSome? (·.refusal? handler)) := by
  induction tokens with
  | nil => exact endsIn_pure []
  | cons token tokens induction =>
      have further : ∀ first : Token,
          EndsIn (tokens.mapM (resolve handler) >>= fun rest => pure (first :: rest))
            ((unknownCalls tokens).findSome? (·.refusal? handler)) := by
        intro first
        have ends := induction.bind fun rest => endsIn_pure (first :: rest)
        rwa [Option.or_none] at ends
      rw [List.mapM_cons]
      -- Only the token of a gap has a call, and only a call can be refused.
      by_cases unknown : token.name = unknownName
      · have asked : resolve handler token = token.call.answer handler := if_pos unknown
        rw [asked, unknownCalls_cons_of_eq unknown, List.findSome?_cons, UnknownCall.refusal?]
        cases token.call.answer handler with
        | error error => rfl
        | ok first => exact further first
      · have kept : resolve handler token = .ok token := if_neg unknown
        rw [kept, unknownCalls_cons_of_ne unknown]
        exact further token

/-- Where no gap is refused the scan ends in the error that is given. -/
theorem endsIn_resolveAll (handler : UnknownHandler) (tokens : List Token)
    (error? : Option TokenizerError) :
    EndsIn (resolveAll handler tokens error?)
      (((unknownCalls tokens).findSome? (·.refusal? handler)).or error?) :=
  (endsIn_mapM_resolve handler tokens).bind fun resolved => endsIn_conclude error? resolved

/-- So an error at the end comes out, unless a gap is refused. -/
theorem resolveAll_some (handler : UnknownHandler) (tokens : List Token) (error : TokenizerError) :
    resolveAll handler tokens (some error) =
      .error (((unknownCalls tokens).findSome? (·.refusal? handler)).getD error) := by
  have ends := endsIn_resolveAll handler tokens (some error)
  rwa [Option.or_some] at ends

/-- A handler that refuses every gap refuses the first one. -/
theorem resolveAll_rejectUnknown {tokens : List Token} {gap : UnknownCall}
    (first : (unknownCalls tokens).head? = some gap) (error? : Option TokenizerError) :
    resolveAll rejectUnknown tokens error? = .error (.unknownSpan gap.text gap.position) := by
  have ends := endsIn_resolveAll rejectUnknown tokens error?
  rw [findSome?_refusal?_rejectUnknown, first] at ends
  exact ends

/-- If every token stays as it is all of them come out. -/
theorem resolveAll_of_stays {handler : UnknownHandler} {tokens : List Token}
    (stays : ∀ token ∈ tokens, resolve handler token = .ok token)
    (error? : Option TokenizerError) :
    resolveAll handler tokens error? = conclude error? tokens := by
  have kept : tokens.mapM (resolve handler) = .ok tokens := by
    induction tokens with
    | nil => rfl
    | cons token tokens induction =>
        obtain ⟨first, others⟩ := List.forall_mem_cons.mp stays
        rw [List.mapM_cons, first, induction others]
        rfl
  rw [resolveAll, kept]
  rfl

/-- Without gaps there is nothing to resolve. -/
theorem resolveAll_of_unknownCalls_eq_nil (handler : UnknownHandler) {tokens : List Token}
    (none : unknownCalls tokens = []) (error? : Option TokenizerError) :
    resolveAll handler tokens error? = conclude error? tokens :=
  resolveAll_of_stays
    (fun token member => if_neg (unknownCalls_eq_nil_iff.mp none token member)) error?

/-- A handler that keeps gaps leaves all tokens as they are. -/
theorem resolveAll_keepUnknown (tokens : List Token) (error? : Option TokenizerError) :
    resolveAll keepUnknown tokens error? = conclude error? tokens := by
  refine resolveAll_of_stays (fun token _ => ?_) error?
  rw [resolve]
  split <;> rfl

namespace Tokenizer

/-- **A scan resolves the tokens of a scan that keeps the gaps**, and ends as that does. -/
theorem Sound.exists_resolved {tokenizer : Tokenizer} (sound : tokenizer.Sound)
    (input : String) :
    ∃ tokens error?,
      (tokenizer.withUnknownHandler keepUnknown).calls input = unknownCalls tokens ∧
        ∀ handler, ((tokenizer.withUnknownHandler handler).scan input).1 =
          resolveAll handler tokens error? := by
  cases prepared : tokenizer.prepare with
  | error error =>
      have refused : ∀ handler, (tokenizer.withUnknownHandler handler).prepare = .error error :=
        fun _ => prepared
      -- Without a scanner no handler is called, and the error is all that comes out.
      refine ⟨[], some error, ?_, fun handler => ?_⟩
      · rw [calls, refused]
        rfl
      · rw [scan_of_prepare_error (refused handler)]
        rfl
  | ok scanner =>
      have ready : ∀ handler, (tokenizer.withUnknownHandler handler).prepare = .ok scanner :=
        fun _ => prepared
      have named : ∀ found, .hit found ∈ scanner.pieces input → found.name ≠ unknownName :=
        fun _ member => sound.name_ne_of_mem_pieces prepared member
      refine ⟨(scanner.pieces input).flatMap
          (Piece.collected tokenizer.keepWhitespace input.toList),
        emptyMatch? (scanner.hits input), ?_, fun handler => ?_⟩
      · rw [calls, ready, unknownCalls_collected _ _ named]
        exact scanner.calls_keepUnknown tokenizer.keepWhitespace input
      · rw [scan_of_prepare (ready handler), resolveAll, resolve_collected _ _ _ named]
        exact scanner.scan_eq tokenizer.keepWhitespace handler input

/-- **The handler of unmatched spans has a say in nothing but their tokens.** What a scan does with
any handler shows in the scan that keeps the gaps as they are. If that one comes to its end, the
tokens of the gaps are replaced by what the handler makes of the gaps, up to the first that it
refuses. If not, the scan fails as well: with the first refusal among the gaps that came up before,
or else with the same error. So the usual handler, which refuses every gap, leaves a scan without
gaps as it is, and any other fails with its first gap. -/
theorem scan_withUnknownHandler {start : Tokenizer} (made : start.Made)
    (operations : List Operation) (handler : UnknownHandler) (input : String) :
    let tokenizer := start.run operations
    let collected := ((tokenizer.withUnknownHandler keepUnknown).scan input).1
    let gaps := (tokenizer.withUnknownHandler keepUnknown).calls input
    let result := ((tokenizer.withUnknownHandler handler).scan input).1
    let usual := ((tokenizer.withUnknownHandler rejectUnknown).scan input).1
    (∀ tokens, collected = .ok tokens →
        gaps = unknownCalls tokens ∧ result = tokens.mapM (resolve handler)) ∧
      (∀ error, collected = .error error →
        result = .error ((gaps.findSome? (·.refusal? handler)).getD error)) ∧
      (∀ tokens, usual = .ok tokens ↔
        collected = .ok tokens ∧ ∀ token ∈ tokens, token.name ≠ unknownName) ∧
      (∀ gap ∈ gaps.head?, usual = .error (.unknownSpan gap.text gap.position)) ∧
      (gaps = [] → usual = collected) := by
  intro tokenizer collected gaps result usual
  have sound : tokenizer.Sound := made.sound.1.run operations
  obtain ⟨kept, error?, areGaps, resolved⟩ := sound.exists_resolved input
  have isCollected : collected = conclude error? kept :=
    (resolved keepUnknown).trans (resolveAll_keepUnknown kept error?)
  have firstGap : ∀ gap ∈ gaps.head?, usual = .error (.unknownSpan gap.text gap.position) := by
    intro gap isFirst
    rw [Option.mem_def, show gaps = unknownCalls kept from areGaps] at isFirst
    exact (resolved rejectUnknown).trans (resolveAll_rejectUnknown isFirst error?)
  have noGap : gaps = [] → usual = collected := by
    intro none
    have unresolved := resolveAll_of_unknownCalls_eq_nil rejectUnknown (areGaps.symm.trans none)
    exact ((resolved rejectUnknown).trans (unresolved error?)).trans isCollected.symm
  refine ⟨?_, ?_, ?_, firstGap, noGap⟩
  · intro tokens success
    obtain ⟨rfl, rfl⟩ := conclude_eq_ok_iff.mp (isCollected.symm.trans success)
    exact ⟨areGaps, (resolved handler).trans (bind_pure _)⟩
  · intro error failed
    obtain rfl := conclude_eq_error_iff.mp (isCollected.symm.trans failed)
    rw [show gaps = unknownCalls kept from areGaps]
    exact (resolved handler).trans (resolveAll_some handler kept error)
  · -- The usual handler parts the scans with a gap, which it refuses, from those without one.
    intro tokens
    constructor
    · intro success
      cases first : gaps.head? with
      | some gap => cases success.symm.trans (firstGap gap first)
      | none =>
          have none := List.head?_eq_none_iff.mp first
          have same : collected = .ok tokens := (noGap none).symm.trans success
          obtain ⟨-, rfl⟩ := conclude_eq_ok_iff.mp (isCollected.symm.trans same)
          exact ⟨same, unknownCalls_eq_nil_iff.mp (areGaps.symm.trans none)⟩
    · rintro ⟨success, visible⟩
      obtain ⟨-, rfl⟩ := conclude_eq_ok_iff.mp (isCollected.symm.trans success)
      exact (noGap (areGaps.trans (unknownCalls_eq_nil_iff.mpr visible))).trans success

/-- A gap at the start of one text and before an empty match at the end of another, with a handler
that accepts only the first one. -/
theorem scan_withUnknownHandler_limit :
    let start : Tokenizer := ⟨[.keyword "a"], defaultWhitespace, false, rejectUnknown, none⟩
    let tokenizer := start.run [.define (.regex "end" "$")]
    let limited := tokenizer.withUnknownHandler (limitUnknown 0)
    start.Made ∧
      (limited.scan "?a").1 = .ok [⟨"unknown", "?", 0⟩, ⟨"a", "a", 1⟩] ∧
      ((tokenizer.withUnknownHandler rejectUnknown).scan "?a").1 =
        .error (.unknownSpan "?" 0) ∧
      ((tokenizer.withUnknownHandler keepUnknown).scan "a?").1 = .error (.emptyMatch "end" 2) ∧
      (limited.scan "a?").1 = .error (.config "unknown past 0: ?") := by
  intro start tokenizer limited
  have valid : ∀ definition ∈ [Definition.keyword "a"], definition.Valid := by decide
  have made : start.Made := .ofDefinitions (defineAll_of_distinct rfl valid (by decide))
  obtain ⟨whole, -, -, usual, -⟩ :=
    scan_withUnknownHandler made [.define (.regex "end" "$")] (limitUnknown 0) "?a"
  obtain ⟨-, failed, -⟩ :=
    scan_withUnknownHandler made [.define (.regex "end" "$")] (limitUnknown 0) "a?"
  have collected : ((tokenizer.withUnknownHandler keepUnknown).scan "?a").1 =
      .ok [⟨"unknown", "?", 0⟩, ⟨"a", "a", 1⟩] := by decide
  have broken : ((tokenizer.withUnknownHandler keepUnknown).scan "a?").1 =
      .error (.emptyMatch "end" 2) := by decide
  have gap : (tokenizer.withUnknownHandler keepUnknown).calls "a?" = [⟨"unknown", "?", 1⟩] := by
    decide
  obtain ⟨gaps, accepted⟩ := whole _ collected
  have refused := failed _ broken
  rw [gap] at refused
  exact ⟨made, accepted, usual ⟨"unknown", "?", 0⟩ (by rw [gaps]; rfl), broken, refused⟩

end Tokenizer

end TokenGrammar
