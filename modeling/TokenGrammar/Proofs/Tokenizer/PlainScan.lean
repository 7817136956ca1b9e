import TokenGrammar.Proofs.Regex.Searching
import TokenGrammar.Proofs.Text.Slices
import TokenGrammar.Tokenizer.Scanner

/-! # Scanning character by character

Tokens can be cut off a text from left to right: where a rule finds a lexeme that becomes a token,
and otherwise one character more is unknown. A scanner that searches for the matches of a merged
expression makes the same tokens.

* `LexemeRule`: which lexeme a text starts with.
* `plainScan`: cut a text into tokens by a rule, from left to right.
* `Scanner.Follows`: the matches of a scanner are the lexemes of a rule.
* `Scanner.Progress`: how far a text has been cut, kept by every match.
* `Scanner.Follows.scan_eq_plainScan`: a scanner that follows a rule cuts texts as the rule does. -/

namespace TokenGrammar

open Regex (Expr Found Position Thread)

/-- Which lexeme a text starts with, if any, and the name of its tokens. -/
abbrev LexemeRule := List Char → Option (String × List Char)

/-- A lexeme is not empty, and it is what the text starts with. -/
def LexemeRule.Sound (rule : LexemeRule) : Prop :=
  ∀ text name lexeme, rule text = some (name, lexeme) → lexeme ≠ [] ∧ lexeme <+: text

/-- What the handler makes of the characters that no lexeme has been found for. -/
def unknownTokens (handler : UnknownHandler) (start : Nat) (pending : List Char) :
    Except TokenizerError (List Token) :=
  if pending = [] then .ok []
  else do pure [← handler unknownName (.ofList pending) start]

/-- The token of a lexeme, unless it is white space that is not kept. -/
def lexemeTokens (keepWhitespace : Bool) (name : String) (lexeme : List Char) (offset : Nat) :
    List Token :=
  if name = whitespaceName ∧ keepWhitespace = false then []
  else [⟨name, .ofList lexeme, offset⟩]

/-- The tokens of a text after the characters `pending`, which start at the offset `start` and for
which no lexeme has been found. -/
def plainScanFrom (rule : LexemeRule) (keepWhitespace : Bool) (handler : UnknownHandler)
    (start : Nat) (pending : List Char) : List Char → Except TokenizerError (List Token)
  | [] => unknownTokens handler start pending
  | c :: rest =>
      match rule (c :: rest) with
      | none => plainScanFrom rule keepWhitespace handler start (pending ++ [c]) rest
      | some (name, lexeme) => do
          let unknown ← unknownTokens handler start pending
          -- A lexeme has at least the one character that is gone already.
          let following ← plainScanFrom rule keepWhitespace handler
            (start + Text.byteLength (pending ++ lexeme)) [] (rest.drop (lexeme.length - 1))
          pure (unknown ++
            lexemeTokens keepWhitespace name lexeme (start + Text.byteLength pending) ++ following)
termination_by text => text.length
decreasing_by
  · exact Nat.lt_succ_self _
  · rw [List.length_drop]
    exact Nat.lt_succ_of_le (Nat.sub_le _ _)

/-- The tokens of a text, cut off from left to right. -/
def plainScan (rule : LexemeRule) (keepWhitespace : Bool) (handler : UnknownHandler)
    (input : String) : Except TokenizerError (List Token) :=
  plainScanFrom rule keepWhitespace handler 0 [] input.toList

namespace Scanner

/-- The matches of a scanner are the lexemes of a rule. -/
structure Follows (scanner : Scanner) (rule : LexemeRule) : Prop where
  /-- Lexemes are sound. -/
  sound : rule.Sound
  /-- Where there is no lexeme nothing matches. -/
  unmatched : ∀ position, rule position.rest = none → scanner.expr.matchAt? position = none
  /-- A lexeme is what the definition of its name matches. -/
  matched : ∀ position name lexeme, rule position.rest = some (name, lexeme) →
    ∃ thread, scanner.expr.matchAt? position = some thread ∧
      thread.position = position.advance lexeme.length ∧
      winner? scanner.slots ⟨position, thread⟩ = some ⟨name, ⟨position.offset, thread.offset⟩⟩

variable {scanner : Scanner} {rule : LexemeRule}

/-- A lexeme takes at least one byte. -/
theorem byteLength_pos {text : List Char} (solid : text ≠ []) : 0 < Text.byteLength text :=
  Nat.lt_of_lt_of_le (List.length_pos_iff.mpr solid) (Text.length_le_byteLength text)

/-- Behind the start of a text lies the rest of it. -/
theorem drop_of_append_eq_cons {lexeme after rest : List Char} {c : Char} (solid : lexeme ≠ [])
    (split : lexeme ++ after = c :: rest) : rest.drop (lexeme.length - 1) = after := by
  cases lexeme with
  | nil => exact absurd rfl solid
  | cons d lexeme =>
      rw [← (List.cons.inj split).2]
      exact List.drop_left

/-- The offset behind the start of a text. -/
theorem offset_advance_of_isPrefix {position : Position} {lexeme : List Char}
    (start : lexeme <+: position.rest) :
    (position.advance lexeme.length).offset = position.offset + Text.byteLength lexeme := by
  rw [Position.offset_advance, ← List.prefix_iff_eq_take.mp start]

/-- How far a text has been cut: what became tokens ends at the offset `start`, the pending
characters come next, and behind them is the place where a lexeme is looked for. -/
def Progress (input : List Char) (start : Nat) (pending : List Char) (position : Position) : Prop :=
  ∃ before, input = before ++ pending ++ position.rest ∧ Text.byteLength before = start ∧
    Text.byteLength (before ++ pending) = position.offset

namespace Progress

variable {input pending lexeme : List Char} {start : Nat} {position next : Position}

/-- At first all of the text lies ahead. -/
theorem initial (input : List Char) : Progress input 0 [] (.start input) :=
  ⟨[], rfl, rfl, rfl⟩

/-- The pending characters are what lies between the last token and the place. -/
theorem isSlice_pending (progress : Progress input start pending position) :
    Text.IsSlice input start position.offset pending := by
  obtain ⟨before, whole, starts, place⟩ := progress
  exact ⟨before, position.rest, whole, starts, place⟩

/-- At the end of the text the place is that end. -/
theorem offset_of_rest_nil (progress : Progress input start pending position)
    (ended : position.rest = []) : position.offset = Text.byteLength input := by
  obtain ⟨before, whole, -, place⟩ := progress
  rw [whole, ended, List.append_nil, place]

/-- A character that no lexeme starts with becomes pending. -/
theorem past {c : Char} {rest : List Char} (progress : Progress input start pending position)
    (ahead : position.rest = c :: rest) :
    Progress input start (pending ++ [c]) (position.past c rest) := by
  obtain ⟨before, whole, starts, place⟩ := progress
  refine ⟨before, ?_, starts, ?_⟩
  · simp [whole, ahead, Position.past]
  · rw [← List.append_assoc, Text.byteLength_append, place]
    rfl

/-- A lexeme is what lies between the place and the one behind it. -/
theorem isSlice_lexeme (progress : Progress input start pending position)
    (split : position.rest = lexeme ++ next.rest)
    (stop : next.offset = position.offset + Text.byteLength lexeme) :
    Text.IsSlice input position.offset next.offset lexeme := by
  obtain ⟨before, whole, -, place⟩ := progress
  refine ⟨before ++ pending, next.rest, ?_, place, ?_⟩
  · rw [whole, split, List.append_assoc _ lexeme]
  · rw [Text.byteLength_append, place, stop]

/-- Behind a lexeme nothing is pending. -/
theorem behind (progress : Progress input start pending position)
    (split : position.rest = lexeme ++ next.rest)
    (stop : next.offset = position.offset + Text.byteLength lexeme) :
    Progress input next.offset [] next := by
  obtain ⟨before, whole, -, place⟩ := progress
  have stops : Text.byteLength (before ++ pending ++ lexeme) = next.offset := by
    rw [Text.byteLength_append, place, stop]
  refine ⟨before ++ pending ++ lexeme, ?_, stops, ?_⟩
  · rw [whole, split, List.append_nil, List.append_assoc _ lexeme]
  · rw [List.append_nil, stops]

end Progress

/-- What lies between two offsets is handed over as the pending characters. -/
theorem handleGap_eq_unknownTokens (handler : UnknownHandler) {input pending : List Char}
    {start stop : Nat} (slice : Text.IsSlice input start stop pending) :
    handleGap handler input start stop = unknownTokens handler start pending := by
  have length := slice.add_byteLength
  by_cases nothing : pending = []
  · subst nothing
    rw [Text.byteLength_nil, Nat.add_zero] at length
    rw [length, handleGap_self, unknownTokens, if_pos rfl]
    rfl
  · have long : pending.length ≤ Text.byteLength pending := Text.length_le_byteLength pending
    have positive : 0 < pending.length := List.length_pos_iff.mpr nothing
    rw [handleGap_of_lt (by omega), sliceText_eq slice, unknownTokens, if_neg nothing]

/-- The token of a match is the token of the lexeme that it spans. -/
theorem hitTokens_eq_lexemeTokens (keepWhitespace : Bool) {input lexeme : List Char}
    {start stop : Nat} (slice : Text.IsSlice input start stop lexeme) (name : String) :
    hitTokens keepWhitespace input ⟨name, ⟨start, stop⟩⟩ =
      lexemeTokens keepWhitespace name lexeme start := by
  rw [hitTokens, lexemeTokens, sliceText_eq slice]
  simp [Hit.isWhitespace]

/-- A match that is not empty becomes a token after what comes before it. -/
theorem scanHitsFrom_cons_of_solid {hit : Hit} (solid : hit.isEmpty = false)
    (keepWhitespace : Bool) (handler : UnknownHandler) (input : List Char) (lastStop : Nat)
    (hits : List Hit) :
    scanHitsFrom keepWhitespace handler input lastStop (hit :: hits) = (do
      let gap ← handleGap handler input lastStop hit.span.start
      let following ← scanHitsFrom keepWhitespace handler input hit.span.stop hits
      pure (gap ++ hitTokens keepWhitespace input hit ++ following)) := by
  rw [scanHitsFrom, solid]
  rfl

namespace Follows

/-- At the end of a text there is no lexeme. -/
theorem find?_of_rest_nil (follows : scanner.Follows rule) {position : Position}
    (ended : position.rest = []) : scanner.expr.find? position = none := by
  have nothing : rule position.rest = none := by
    cases found : rule position.rest with
    | none => rfl
    | some entry =>
        obtain ⟨solid, start⟩ := follows.sound _ _ _ found
        rw [ended] at start
        exact absurd (List.prefix_nil.mp start) solid
  exact Regex.searchWith_of_rest_nil ended (follows.unmatched position nothing)

/-- Where there is no lexeme the next one is searched for behind the next character. -/
theorem find?_of_none (follows : scanner.Follows rule) {position : Position} {c : Char}
    {rest : List Char} (next : position.rest = c :: rest) (missing : rule (c :: rest) = none) :
    scanner.expr.find? position = scanner.expr.find? (position.past c rest) :=
  Regex.searchWith_of_none next (follows.unmatched position (next ▸ missing))

/-- Where there is a lexeme it is the next match, and the text behind it is left. -/
theorem find?_of_some (follows : scanner.Follows rule) {position : Position} {name : String}
    {lexeme : List Char} (found : rule position.rest = some (name, lexeme)) :
    ∃ thread, scanner.expr.find? position = some ⟨position, thread⟩ ∧
      position.rest = lexeme ++ thread.position.rest ∧
      thread.position.offset = position.offset + Text.byteLength lexeme ∧
      winner? scanner.slots ⟨position, thread⟩ =
        some ⟨name, ⟨position.offset, thread.offset⟩⟩ := by
  obtain ⟨thread, here, stop, won⟩ := follows.matched position name lexeme found
  obtain ⟨-, after, split⟩ := follows.sound _ _ _ found
  refine ⟨thread, Regex.searchWith_of_some here, ?_, ?_, won⟩
  · rw [stop, Position.rest_advance, ← split, List.drop_left]
  · rw [stop, offset_advance_of_isPrefix ⟨after, split⟩]

/-- Whatever is found is longer than the empty text. -/
theorem offset_lt_of_find? (follows : scanner.Follows rule) {position : Position} {found : Found}
    (first : scanner.expr.find? position = some found) :
    found.start.offset < found.stop.offset := by
  obtain ⟨start, thread⟩ := found
  have here : scanner.expr.matchAt? start = some thread := Regex.at?_of_searchWith first
  cases lexed : rule start.rest with
  | none =>
      rw [follows.unmatched start lexed] at here
      cases here
  | some entry =>
      obtain ⟨name, lexeme⟩ := entry
      obtain ⟨thread', here', stop, -⟩ := follows.matched start name lexeme lexed
      obtain ⟨solid, begins⟩ := follows.sound _ _ _ lexed
      cases Option.some.inj (here.symm.trans here')
      rw [Found.stop, stop, offset_advance_of_isPrefix begins]
      exact Nat.lt_add_of_pos_right (byteLength_pos solid)

/-- The next match comes first, and the others are searched for behind it. -/
theorem matchesUpTo_succ (follows : scanner.Follows rule) (bound : Nat)
    (lastStop : Option Nat) (position : Position) :
    Regex.matchesUpTo scanner.expr.find? (bound + 1) lastStop position =
      match scanner.expr.find? position with
      | none => []
      | some found =>
          found ::
            Regex.matchesUpTo scanner.expr.find? bound (some found.stop.offset) found.stop := by
  have next : Regex.nextMatch? scanner.expr.find? lastStop position = scanner.expr.find? position :=
    Regex.nextMatch?_of_fresh fun found first blank =>
      absurd blank (Nat.ne_of_gt (follows.offset_lt_of_find? first))
  rw [Regex.matchesUpTo_succ]
  exact next ▸ rfl

/-- From any place on a scanner that follows a rule makes the tokens that the rule gives. -/
theorem scanHitsFrom_eq (follows : scanner.Follows rule) (keepWhitespace : Bool)
    (handler : UnknownHandler) {input : List Char} (start : Nat) (pending text : List Char)
    {position : Position} (progress : Progress input start pending position)
    (ahead : position.rest = text) {bound : Nat} (enough : text.length < bound)
    (lastStop : Option Nat) :
    scanHitsFrom keepWhitespace handler input start
        (winners scanner.slots (Regex.matchesUpTo scanner.expr.find? bound lastStop position)) =
      plainScanFrom rule keepWhitespace handler start pending text := by
  fun_induction plainScanFrom rule keepWhitespace handler start pending text
    generalizing position bound lastStop with
  | case1 start pending =>
      obtain ⟨bound, rfl⟩ := Nat.exists_eq_add_one_of_ne_zero (Nat.ne_zero_of_lt enough)
      have slice := progress.isSlice_pending
      rw [progress.offset_of_rest_nil ahead] at slice
      rw [follows.matchesUpTo_succ, follows.find?_of_rest_nil ahead]
      exact handleGap_eq_unknownTokens handler slice
  | case2 start pending c rest missing induction =>
      obtain ⟨bound, rfl⟩ := Nat.exists_eq_add_one_of_ne_zero (Nat.ne_zero_of_lt enough)
      -- The search goes past the character and has not made a match yet.
      rw [follows.matchesUpTo_succ, follows.find?_of_none ahead missing,
        ← follows.matchesUpTo_succ bound lastStop]
      exact induction (progress.past ahead) rfl (Nat.lt_of_succ_lt enough) lastStop
  | case3 start pending c rest name lexeme found induction =>
      obtain ⟨bound, rfl⟩ := Nat.exists_eq_add_one_of_ne_zero (Nat.ne_zero_of_lt enough)
      have solid := (follows.sound _ _ _ found).1
      rw [← ahead] at found
      obtain ⟨thread, first, split, stop, won⟩ := follows.find?_of_some found
      have spanned : Text.IsSlice input position.offset thread.offset lexeme :=
        progress.isSlice_lexeme split stop
      have place := progress.isSlice_pending.add_byteLength
      have stops : start + Text.byteLength (pending ++ lexeme) = thread.position.offset := by
        rw [stop, ← place, Text.byteLength_append, Nat.add_assoc]
      have behind : rest.drop (lexeme.length - 1) = thread.position.rest :=
        drop_of_append_eq_cons solid (split.symm.trans ahead)
      have shorter : thread.position.rest.length < bound := by
        rw [← behind, List.length_drop]
        exact Nat.lt_of_le_of_lt (Nat.sub_le _ _) (Nat.lt_of_succ_lt_succ enough)
      have visible : (Hit.mk name ⟨position.offset, thread.offset⟩).isEmpty = false :=
        beq_eq_false_iff_ne.mpr (Nat.ne_of_lt (follows.offset_lt_of_find? first))
      rw [behind, stops] at induction
      have later := induction (progress.behind split stop) rfl shorter (some thread.offset)
      rw [follows.matchesUpTo_succ, first]
      change scanHitsFrom keepWhitespace handler input start (winners scanner.slots
        (⟨position, thread⟩ :: Regex.matchesUpTo scanner.expr.find? bound (some thread.offset)
          thread.position)) = _
      rw [winners, List.filterMap_cons_some won, scanHitsFrom_cons_of_solid visible,
        handleGap_eq_unknownTokens handler progress.isSlice_pending,
        hitTokens_eq_lexemeTokens keepWhitespace spanned, behind, place, stops, ← later]
      rfl

/-- A scanner that follows a rule cuts texts as the rule does. -/
theorem scan_eq_plainScan (follows : scanner.Follows rule) (keepWhitespace : Bool)
    (handler : UnknownHandler) (input : String) :
    scanner.scan keepWhitespace handler input = plainScan rule keepWhitespace handler input :=
  @scanHitsFrom_eq scanner rule follows keepWhitespace handler input.toList 0 [] input.toList
    (.start input.toList) (.initial input.toList) rfl (input.toList.length + 2) (by omega) none

end Follows

end Scanner

end TokenGrammar
