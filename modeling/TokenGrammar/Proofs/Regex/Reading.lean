import TokenGrammar.Proofs.Regex.Words
import TokenGrammar.Tokenizer.Definition

/-! # What patterns are read as

A source is read piece by piece, so what a pattern in the midst of another one means can be said of
it alone. Escaped texts and the pattern of white space are read as what they stand for.

* `Regex.PatternReader.Reads`: a reader gets past the start of a text.
* `Regex.Denotes`: the pattern that a source is read as wherever it stands, and what that means.
* `Regex.Denotes.ofText_eq`: what a source denotes is what it means alone.
* `Regex.denotes_escapePattern`: an escaped text means that text.
* `Regex.denotes_defaultWhitespace`: the default pattern of white space. -/

namespace TokenGrammar.Regex

namespace PatternReader

variable {reader middle next : PatternReader} {text rest remaining : List Char}

/-- A reader gets past the start of a text, in no more steps than there are characters. -/
def Reads (reader : PatternReader) (text : List Char) (next : PatternReader) (rest : List Char) :
    Prop :=
  ∃ steps, steps + rest.length ≤ text.length ∧
    ∀ bound, readUpTo (bound + steps) reader text = readUpTo bound next rest

namespace Reads

/-- A reader is where it is. -/
theorem refl (reader : PatternReader) (text : List Char) : reader.Reads text reader text :=
  ⟨0, Nat.le_of_eq (Nat.zero_add _), fun _ => rfl⟩

/-- One stretch after another. -/
theorem trans (first : reader.Reads text middle rest) (second : middle.Reads rest next remaining) :
    reader.Reads text next remaining := by
  obtain ⟨steps, le, reads⟩ := first
  obtain ⟨more, leRest, readsRest⟩ := second
  refine ⟨more + steps, by omega, ?_⟩
  intro bound
  rw [← Nat.add_assoc, reads, readsRest]

/-- One step of a reader that ignores no spacing. -/
theorem of_step {c : Char} (solid : reader.verbose = false)
    (stepped : reader.step c rest = .ok (next, remaining))
    (le : remaining.length ≤ rest.length) : reader.Reads (c :: rest) next remaining := by
  refine ⟨1, by rw [List.length_cons]; omega, ?_⟩
  intro bound
  rw [readUpTo, solid, skipSpacing_false]
  simp only [stepped]
  rfl

/-- A reader that gets to the end of a text has read the text. -/
theorem finish (reads : reader.Reads text next []) :
    readUpTo (text.length + 1) reader text = next.finish := by
  obtain ⟨steps, le, reads⟩ := reads
  rw [List.length_nil, Nat.add_zero] at le
  -- One step more than there are characters, for seeing that nothing is left.
  obtain ⟨left, length⟩ : ∃ left, text.length + 1 = (left + 1) + steps :=
    ⟨text.length - steps, by omega⟩
  rw [length, reads, readUpTo]
  cases next.verbose <;> rfl

end Reads

/-- Add parts in order. -/
def addAll (reader : PatternReader) (parts : List Pattern) : PatternReader :=
  { reader with level := { reader.level with parts := parts.reverse ++ reader.level.parts } }

@[simp] theorem addAll_cons (reader : PatternReader) (part : Pattern) (parts : List Pattern) :
    reader.addAll (part :: parts) = (reader.add part).addAll parts := by
  simp [addAll, add, OpenLevel.add]

/-- A character without a meaning of its own stands for itself. -/
theorem step_of_not_isMeta {c : Char} (plain : isMeta c = false) (reader : PatternReader)
    (rest : List Char) : reader.step c rest = .ok (reader.add (.literal ⟨c, false⟩), rest) := by
  have parsed : parseMove reader.verbose c rest =
      .ok (.add (.literal ⟨c, false⟩), rest) := by
    unfold parseMove
    split
    -- The other cases are characters with a meaning.
    case h_13 => rfl
    all_goals exact absurd plain (by decide)
  have other : c ≠ '\x7b' := by
    rintro rfl
    exact absurd plain (by decide)
  exact step_of_parseMove other parsed rfl

/-- A character with a meaning of its own stands for itself after a backslash. -/
theorem step_of_isMeta {c : Char} (special : isMeta c = true) (reader : PatternReader)
    (rest : List Char) :
    reader.step '\\' (c :: rest) = .ok (reader.add (.literal ⟨c, false⟩), rest) := by
  have digitless : c.isDigit = false := by
    rw [isMeta, List.contains_iff_mem] at special
    have each := List.all_eq_true.mp (by decide : List.all _ (fun c => !c.isDigit) = true) c special
    exact Bool.not_inj each
  have escapable : isEscapable c = true := by rw [isEscapable, special, Bool.true_or]
  have escaped : parseEscape reader.verbose (c :: rest) = .ok (.char c, rest) := by
    unfold parseEscape
    simp only [digitless, escapable]
    rfl
  have parsed : parseMove reader.verbose '\\' (c :: rest) =
      .ok (.add (.literal ⟨c, false⟩), rest) := by
    rw [parseMove, escaped]
    rfl
  exact step_of_parseMove (by decide) parsed rfl

end PatternReader

/-! ## Sources with a meaning of their own -/

/-- Wherever it stands a source is read as parts of one pattern, which means an expression. What
comes after it must only not be a question mark, which would be taken for part of a repetition. -/
structure Denotes (source : String) (body : Pattern) (expr : Expr) : Prop where
  /-- The parts are added to what was read before. -/
  reads : ∃ parts, body = .ofParts parts ∧ ∀ (reader : PatternReader) (rest : List Char),
    reader.verbose = false → rest.head? ≠ some '?' →
      reader.Reads (source.toList ++ rest) (reader.addAll parts) rest
  /-- The pattern is not nested deeply. -/
  depth_le : body.depth ≤ 2
  /-- The pattern means the expression, and sets no flags. -/
  means : body.elaborateWith .initial = .ok (expr, .initial)

/-- What a source denotes is what it means alone. -/
theorem Denotes.ofText_eq {source : String} {body : Pattern} {expr : Expr}
    (denotes : Denotes source body expr) : Expr.ofText source = .ok expr := by
  obtain ⟨parts, rfl, reads⟩ := denotes.reads
  have whole := reads .start [] rfl nofun
  rw [List.append_nil] at whole
  have finished : (PatternReader.start.addAll parts).finish = .ok (.ofParts parts) := by
    simp [PatternReader.finish, PatternReader.addAll, PatternReader.start, OpenLevel.empty,
      OpenLevel.toPattern, OpenLevel.current]
  have depth : (Pattern.ofParts parts).depth ≤ nestLimit :=
    Nat.le_trans denotes.depth_le (by decide)
  have parsed : Pattern.parse source.toList = .ok (.ofParts parts) := by
    rw [Pattern.parse, whole.finish, finished]
    exact if_pos depth
  have elaborated : (Pattern.ofParts parts).elaborate = .ok expr := by
    rw [Pattern.elaborate, denotes.means]
    rfl
  rw [Expr.ofText, parsed]
  exact elaborated

/-! ## Escaped texts -/

/-- The characters of a text as patterns. -/
def Pattern.characters (word : List Char) : List Pattern :=
  word.map fun c => .literal ⟨c, false⟩

/-- The characters of an escaped text are read one by one. -/
theorem reads_escaped (word : List Char) (reader : PatternReader) (rest : List Char)
    (solid : reader.verbose = false) :
    reader.Reads ((word.flatMap fun c => if isMeta c then ['\\', c] else [c]) ++ rest)
      (reader.addAll (Pattern.characters word)) rest := by
  induction word generalizing reader with
  | nil => exact .refl reader rest
  | cons c word induction =>
      have later := induction (reader.add (.literal ⟨c, false⟩)) solid
      rw [Pattern.characters, List.map_cons, PatternReader.addAll_cons, List.flatMap_cons,
        List.append_assoc]
      refine PatternReader.Reads.trans ?_ later
      cases special : isMeta c with
      | true =>
          exact .of_step solid (PatternReader.step_of_isMeta special reader _) (Nat.le_succ _)
      | false =>
          exact .of_step solid (PatternReader.step_of_not_isMeta special reader _) (Nat.le_refl _)

/-- Characters are not nested. -/
theorem depthOfList_characters (word : List Char) :
    Pattern.depthOfList (Pattern.characters word) = 0 := by
  induction word with
  | nil => rfl
  | cons c word induction =>
      rw [Pattern.characters, List.map_cons, Pattern.depthOfList]
      exact Nat.max_eq_zero_iff.mpr ⟨rfl, induction⟩

/-- Characters mean their sets. -/
theorem elaborateAll_characters (word : List Char) :
    Pattern.elaborateAll .initial (Pattern.characters word) =
      .ok (word.map fun c => .set (.single c), .initial) := by
  induction word with
  | nil => rfl
  | cons c word induction =>
      have first : Pattern.elaborateWith .initial (.literal ⟨c, false⟩) =
          .ok (.set (.single c), .initial) := rfl
      change Pattern.elaborateAll .initial (.literal ⟨c, false⟩ :: Pattern.characters word) = _
      simp only [Pattern.elaborateAll, first]
      change (Pattern.elaborateAll .initial (Pattern.characters word) >>= _) = _
      rw [induction]
      rfl

/-- Sets are the parts of their sequence. -/
theorem sequenceAll_sets (word : List Char) :
    Expr.sequenceAll (word.map fun c => .set (.single c)) = .ofWord word := by
  rw [Expr.sequenceAll, Expr.ofWord]
  congr 1
  induction word with
  | nil => rfl
  | cons c word induction =>
      rw [List.map_cons, List.flatMap_cons, induction]
      rfl

/-- Characters in order are not nested deeply. -/
theorem depth_ofParts_characters (word : List Char) :
    (Pattern.ofParts (Pattern.characters word)).depth ≤ 1 := by
  match word with
  | [] => decide
  | [c] => exact Nat.zero_le 1
  | c :: d :: word =>
      change Pattern.depthOfList (Pattern.characters (c :: d :: word)) + 1 ≤ 1
      exact Nat.le_of_eq (congrArg (· + 1) (depthOfList_characters _))

/-- Characters in order mean their word. -/
theorem elaborateWith_ofParts_characters (word : List Char) :
    (Pattern.ofParts (Pattern.characters word)).elaborateWith .initial =
      .ok (.ofWord word, .initial) := by
  match word with
  | [] => rfl
  | [c] => rfl
  | c :: d :: word =>
      have sequence : Pattern.ofParts (Pattern.characters (c :: d :: word)) =
          .sequence (Pattern.characters (c :: d :: word)) := rfl
      rw [sequence, Pattern.elaborateWith, elaborateAll_characters]
      simp only [bind, Except.bind, pure, Except.pure, sequenceAll_sets]

/-- An escaped text means that text. -/
theorem denotes_escapePattern (text : String) :
    Denotes (escapePattern text) (.ofParts (Pattern.characters text.toList))
      (.ofWord text.toList) where
  reads := by
    refine ⟨_, rfl, ?_⟩
    intro reader rest solid _
    rw [escapePattern, String.toList_ofList]
    exact reads_escaped text.toList reader rest solid
  depth_le := Nat.le_succ_of_le (depth_ofParts_characters text.toList)
  means := elaborateWith_ofParts_characters text.toList

/-! ## White space -/

/-- The default pattern of white space means a run of it. -/
theorem denotes_defaultWhitespace :
    Denotes defaultWhitespace (.repetition 1 none false (.shorthand .space false))
      (.repetition 1 none true (.set Unicode.whiteSpace)) where
  reads := by
    refine ⟨[.repetition 1 none false (.shorthand .space false)], rfl, ?_⟩
    intro reader rest solid unmarked
    have shorthand : reader.step '\\' ('s' :: '+' :: rest) =
        .ok (reader.add (.shorthand .space false), '+' :: rest) := rfl
    have mark : parseMark 1 none rest = (.repeatLast ⟨1, none, false⟩, rest) := by
      -- A question mark after it would make the repetition a lazy one.
      unfold parseMark
      split
      · exact absurd rfl unmarked
      · rfl
    have marked : (reader.add (.shorthand .space false)).step '+' rest =
        .ok (reader.addAll [.repetition 1 none false (.shorthand .space false)], rest) :=
      PatternReader.step_of_parseMove (by decide) (congrArg Except.ok mark) rfl
    exact .trans (.of_step solid shorthand (Nat.le_succ _)) (.of_step solid marked (Nat.le_refl _))
  depth_le := by decide
  means := rfl

end TokenGrammar.Regex
