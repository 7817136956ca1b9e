import TokenGrammar.Regex.Composition
import TokenGrammar.Regex.Match
import TokenGrammar.Text.Bytes

/-! # Matches of words and of runs

The two simplest expressions: a word, which matches where the text goes on with it, and a run of
characters of a set, which matches where there is one and takes all of it.

* `Regex.Position.advance`: the place a number of characters further on.
* `Regex.Position.Ahead`: places further on.
* `Regex.Expr.ofWord`: the expression that matches a text and nothing else.
* `Regex.Expr.matchAt?_ofWord`, `Regex.Expr.matchAt?_run`: where they match, and how far. -/

namespace TokenGrammar.Regex

open Unicode (CharSet)

namespace Position

/-- The place a number of characters further on, or the end of the text. -/
def advance : (count : Nat) → Position → Position
  | 0, position => position
  | count + 1, position =>
      match position.rest with
      | [] => position
      | c :: rest => advance count (position.past c rest)

@[simp] theorem advance_zero (position : Position) : position.advance 0 = position := rfl

/-- Past the next character the way is shorter by one. -/
theorem advance_succ {position : Position} {c : Char} {rest : List Char}
    (next : position.rest = c :: rest) (count : Nat) :
    position.advance (count + 1) = (position.past c rest).advance count := by
  rw [advance, next]

/-- At the end of the text there is nowhere to go. -/
theorem advance_of_rest_nil {position : Position} (ended : position.rest = []) (count : Nat) :
    position.advance count = position := by
  cases count with
  | zero => rfl
  | succ count => rw [advance, ended]

/-- What is left of the text further on. -/
@[simp] theorem rest_advance (count : Nat) (position : Position) :
    (position.advance count).rest = position.rest.drop count := by
  induction count generalizing position with
  | zero => rfl
  | succ count induction =>
      cases next : position.rest with
      | nil => rw [advance_of_rest_nil next, next, List.drop_nil]
      | cons c rest =>
          rw [advance_succ next, induction]
          rfl

/-- The offset further on. -/
@[simp] theorem offset_advance (count : Nat) (position : Position) :
    (position.advance count).offset =
      position.offset + Text.byteLength (position.rest.take count) := by
  induction count generalizing position with
  | zero => rfl
  | succ count induction =>
      cases next : position.rest with
      | nil => rw [advance_of_rest_nil next, List.take_nil, Text.byteLength_nil, Nat.add_zero]
      | cons c rest =>
          rw [advance_succ next, induction, List.take_succ_cons, Text.byteLength_cons,
            ← Nat.add_assoc]
          rfl

/-- Two ways one after the other. -/
theorem advance_advance (position : Position) (count more : Nat) :
    (position.advance count).advance more = position.advance (count + more) := by
  induction count generalizing position with
  | zero => rw [advance_zero, Nat.zero_add]
  | succ count induction =>
      cases ahead : position.rest with
      | nil =>
          rw [advance_of_rest_nil ahead, advance_of_rest_nil ahead, advance_of_rest_nil ahead]
      | cons c rest =>
          rw [advance_succ ahead, induction, Nat.succ_add, advance_succ ahead]

/-- The way to the place past the next character is longer by one. -/
theorem past_advance {position : Position} {count : Nat} {c : Char} {rest : List Char}
    (ahead : (position.advance count).rest = c :: rest) :
    (position.advance count).past c rest = position.advance (count + 1) := by
  rw [← advance_advance, advance_succ ahead, advance_zero]

/-- A place that can be reached from another one without running over the end. -/
def Ahead (origin position : Position) : Prop :=
  ∃ count ≤ origin.rest.length, position = origin.advance count

/-- A place is ahead of itself. -/
theorem Ahead.refl (position : Position) : position.Ahead position :=
  ⟨0, Nat.zero_le _, rfl⟩

/-- Places further on are ahead. -/
theorem ahead_advance (position : Position) (count : Nat) :
    position.Ahead (position.advance count) := by
  induction count generalizing position with
  | zero => exact .refl position
  | succ count induction =>
      cases next : position.rest with
      | nil =>
          rw [advance_of_rest_nil next]
          exact .refl position
      | cons c rest =>
          obtain ⟨steps, within, same⟩ := induction (position.past c rest)
          refine ⟨steps + 1, ?_, ?_⟩
          · rw [next]
            exact Nat.succ_le_succ within
          · rw [advance_succ next, advance_succ next, same]

/-- The place past the next character is ahead too. -/
theorem Ahead.past {origin position : Position} (ahead : origin.Ahead position) {c : Char}
    {rest : List Char} (next : position.rest = c :: rest) :
    origin.Ahead (position.past c rest) := by
  obtain ⟨count, -, rfl⟩ := ahead
  rw [past_advance next]
  exact ahead_advance origin (count + 1)

/-- A place ahead with the same offset is the same place. -/
theorem Ahead.eq_of_offset_eq {origin position : Position} (ahead : origin.Ahead position)
    (same : position.offset = origin.offset) : position = origin := by
  obtain ⟨count, within, rfl⟩ := ahead
  rw [offset_advance] at same
  have short := Text.length_le_byteLength (origin.rest.take count)
  rw [List.length_take_of_le within] at short
  have none : count = 0 := by omega
  rw [none, advance_zero]

/-- At a place ahead with another offset there is less left of the text. -/
theorem Ahead.lt_of_offset_ne {origin position : Position} (ahead : origin.Ahead position)
    (other : position.offset ≠ origin.offset) :
    origin.offset < position.offset ∧ position.rest.length < origin.rest.length := by
  obtain ⟨count, within, rfl⟩ := ahead
  have some : 0 < count := by
    refine Nat.pos_of_ne_zero ?_
    rintro rfl
    exact other rfl
  have short := Text.length_le_byteLength (origin.rest.take count)
  rw [List.length_take_of_le within] at short
  rw [offset_advance, rest_advance, List.length_drop]
  exact ⟨by omega, by omega⟩

end Position

namespace Expr

/-! ## Words -/

/-- The expression that matches a text and nothing else. -/
def ofWord (word : List Char) : Expr :=
  .ofParts (word.map fun c => .set (.single c))

/-- A word of several characters is its first one with the others after it. -/
theorem ofWord_cons_cons (c d : Char) (word : List Char) :
    ofWord (c :: d :: word) = .sequence (.set (.single c)) (ofWord (d :: word)) := rfl

/-- A set of one character accepts that one. -/
theorem accept?_single (c : Char) (thread : Thread) :
    thread.accept? (.single c) =
      if [c].isPrefixOf thread.position.rest then
        some { thread with position := thread.position.advance 1 }
      else none := by
  cases next : thread.position.rest with
  | nil => rw [Thread.accept?_of_rest_nil next]; rfl
  | cons d rest =>
      rw [Thread.accept?_of_rest_cons next, Unicode.CharSet.contains_single,
        Position.advance_succ next]
      simp [List.isPrefixOf, Thread.past]

/-- A word matches where the text goes on with it, and in one way. -/
theorem matches_ofWord (word : List Char) (thread : Thread) :
    (ofWord word).matches thread =
      if word.isPrefixOf thread.position.rest then
        [{ thread with position := thread.position.advance word.length }]
      else [] := by
  induction word generalizing thread with
  | nil => exact matches_empty thread
  | cons c word induction =>
      cases word with
      | nil =>
          have whole : ofWord [c] = .set (.single c) := rfl
          rw [whole, matches_set, accept?_single]
          split <;> rfl
      | cons d word =>
          rw [ofWord_cons_cons, matches_sequence rfl, matches_set]
          cases next : thread.position.rest with
          | nil =>
              rw [Thread.accept?_of_rest_nil next]
              rfl
          | cons e rest =>
              rw [Thread.accept?_of_rest_cons next, Unicode.CharSet.contains_single,
                List.isPrefixOf_cons_cons]
              -- The other characters are tried only where the first one is there.
              cases same : c == e with
              | false =>
                  rw [if_neg Bool.false_ne_true, Bool.false_and]
                  rfl
              | true =>
                  have further : (thread.past e rest).position.rest = rest := rfl
                  rw [if_pos rfl, Bool.true_and, Option.toList_some, List.flatMap_singleton,
                    induction, further, @List.length_cons _ c (d :: word),
                    Position.advance_succ next]
                  split
                  · exact firstOfEach_single _
                  · rfl

/-- A word matches where the text goes on with it, and ends where the word does. -/
theorem matchAt?_ofWord (word : List Char) (position : Position) :
    (ofWord word).matchAt? position =
      if word.isPrefixOf position.rest then some ⟨position.advance word.length, []⟩ else none := by
  rw [matchAt?, matches_ofWord]
  split <;> rfl

/-! ## Runs -/

/-- The places past the characters of a run are one more than these. -/
theorem length_run (members : CharSet) (captures : List (Nat × Span)) (position : Position) :
    (run members captures none position.offset position.previous position.rest).length =
      (position.rest.takeWhile members.contains).length + 1 := by
  obtain ⟨offset, previous, text⟩ := position
  induction text generalizing offset previous with
  | nil => rfl
  | cons c rest induction =>
      cases member : members.contains c with
      | false => simp [run, member]
      | true => simp [run, member, induction]

/-- The last of the places past the characters of a run is where the run ends. -/
theorem getLast?_run (members : CharSet) (captures : List (Nat × Span)) (position : Position) :
    (run members captures none position.offset position.previous position.rest).getLast? =
      some ⟨position.advance (position.rest.takeWhile members.contains).length, captures⟩ := by
  obtain ⟨offset, previous, text⟩ := position
  induction text generalizing offset previous with
  | nil => rfl
  | cons c rest induction =>
      cases member : members.contains c with
      | false => simp [run, member]
      | true =>
          -- There are always places further on, so the last of them is the last of all.
          have later := induction (offset + c.utf8Size) (some c)
          have some_last : ∀ {threads : List Thread} {last first : Thread},
              threads.getLast? = some last → (first :: threads).getLast? = some last := by
            intro threads last first found
            rw [List.getLast?_cons, found]
            rfl
          simp only [run, member, List.takeWhile_cons_of_pos, List.length_cons]
          exact some_last later

/-- A run of any number of characters matches everywhere, and takes all of it. -/
theorem matchAt?_blankRun (members : CharSet) (position : Position) :
    (repetition 0 none true (.set members)).matchAt? position =
      some ⟨position.advance (position.rest.takeWhile members.contains).length, []⟩ := by
  rw [matchAt?, Expr.matches, runMatches]
  simp only [if_true, List.head?_reverse, List.drop_zero, getLast?_run]

/-- A run of at least one character matches where there is one, and takes all of it. -/
theorem matchAt?_run (members : CharSet) (position : Position) :
    (repetition 1 none true (.set members)).matchAt? position =
      if position.rest.takeWhile members.contains = [] then none
      else some ⟨position.advance (position.rest.takeWhile members.contains).length, []⟩ := by
  rw [matchAt?, Expr.matches, runMatches]
  simp only [if_true, List.head?_reverse, List.getLast?_drop, length_run, getLast?_run]
  cases position.rest.takeWhile members.contains with
  | nil => rfl
  | cons c run => rw [if_neg (by rw [List.length_cons]; omega), if_neg (List.cons_ne_nil c run)]

end Expr

end TokenGrammar.Regex
