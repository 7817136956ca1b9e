import TokenGrammar.Regex.Walk

/-! # Matches

All the ways in which an expression matches at a place, in order of preference: alternatives are
preferred as they are written, and repetitions as they are greedy or not. Of the ways that end at
one place the preferred one counts.

* `Regex.Expr.matches`: the ways to match at a place, the preferred first.
* `Regex.Expr.matchAt?`: the preferred one.
* `Regex.Expr.find?`: the preferred one at the first place where there is one. -/

namespace TokenGrammar.Regex

open Unicode (CharSet)

namespace Expr

/-- The threads past none, one, two and more characters of a set, as far as they go and at most
`limit` characters far, over a text from a given place on. -/
def run (members : CharSet) (captures : List (Nat × Span)) :
    (limit : Option Nat) → (offset : Nat) → (previous : Option Char) → List Char → List Thread
  | _, offset, previous, [] => [⟨⟨offset, previous, []⟩, captures⟩]
  | limit, offset, previous, c :: rest =>
      if limit != some 0 && members.contains c then
        ⟨⟨offset, previous, c :: rest⟩, captures⟩ ::
          run members captures (limit.map (· - 1)) (offset + c.utf8Size) (some c) rest
      else [⟨⟨offset, previous, c :: rest⟩, captures⟩]

/-- The ways to match characters of a set between `min` and `max` times. -/
def runMatches (members : CharSet) (min : Nat) (max : Option Nat) (greedy : Bool)
    (thread : Thread) : List Thread :=
  let place := thread.position
  let threads := (run members thread.captures max place.offset place.previous place.rest).drop min
  if greedy then threads.reverse else threads

/-- Whether an expression matches in at most one way: it offers no choice. -/
def isDetermined : Expr → Bool
  | .sequence first second => first.isDetermined && second.isDetermined
  | .alternative _ _ => false
  | .repetition _ _ _ _ => false
  | .capture _ _ body => body.isDetermined
  | _ => true

/-- The ways to match at a place, the preferred first. Where both parts of a sequence offer a
choice, many ways lead through the same places, and the walk goes to each place once. -/
def «matches» : Expr → Thread → List Thread
  | .empty, thread => [thread]
  | .set members, thread => (thread.accept? members).toList
  | .assertion condition, thread =>
      if condition.holds thread.position then [thread] else []
  | .sequence first second, thread =>
      if first.isDetermined || second.isDetermined then
        firstOfEach ((first.matches thread).flatMap second.matches)
      else firstOfEach ((Expr.sequence first second).walkExits thread)
  | .alternative first second, thread =>
      firstOfEach (first.matches thread ++ second.matches thread)
  | .repetition min max greedy (.set members), thread =>
      runMatches members min max greedy thread
  | .repetition min max greedy body, thread =>
      firstOfEach ((Expr.repetition min max greedy body).walkExits thread)
  | .capture index _ body, thread =>
      (body.matches thread).map fun next => next.record index thread.offset

@[simp] theorem matches_empty (thread : Thread) : Expr.empty.matches thread = [thread] := rfl

@[simp] theorem matches_set (members : CharSet) (thread : Thread) :
    (Expr.set members).matches thread = (thread.accept? members).toList := rfl

@[simp] theorem matches_assertion (condition : Assertion) (thread : Thread) :
    (Expr.assertion condition).matches thread =
      if condition.holds thread.position then [thread] else [] := rfl

/-- A sequence in which a part offers no choice matches as the second part does after the first. -/
theorem matches_sequence {first second : Expr}
    (determined : first.isDetermined || second.isDetermined) (thread : Thread) :
    (Expr.sequence first second).matches thread =
      firstOfEach ((first.matches thread).flatMap second.matches) :=
  if_pos determined

theorem matches_alternative (first second : Expr) (thread : Thread) :
    (Expr.alternative first second).matches thread =
      firstOfEach (first.matches thread ++ second.matches thread) := rfl

theorem matches_capture (index : Nat) (name : Option String) (body : Expr) (thread : Thread) :
    (Expr.capture index name body).matches thread =
      (body.matches thread).map fun next => next.record index thread.offset := rfl

/-- The preferred way to match at a place. -/
def matchAt? (expr : Expr) (position : Position) : Option Thread :=
  (expr.matches ⟨position, []⟩).head?

/-- Of two alternatives the second counts only where the first does not match. -/
theorem matchAt?_alternative (first second : Expr) (position : Position) :
    (Expr.alternative first second).matchAt? position =
      (first.matchAt? position).or (second.matchAt? position) := by
  rw [matchAt?, matches_alternative, head?_firstOfEach, List.head?_append]
  rfl

/-- A group prefers what its body prefers. -/
theorem matchAt?_capture (index : Nat) (name : Option String) (body : Expr)
    (position : Position) :
    (Expr.capture index name body).matchAt? position =
      (body.matchAt? position).map fun next => next.record index position.offset := by
  rw [matchAt?, matches_capture, List.head?_map]
  rfl

end Expr

/-- A match found in a text. -/
structure Found where
  /-- Where it starts. -/
  start : Position
  /-- Where it ends, with what the groups recorded. -/
  thread : Thread
  deriving DecidableEq

namespace Found

/-- Where the match ends. -/
def stop (found : Found) : Position :=
  found.thread.position

/-- Whether the match is of the empty text. -/
def isEmpty (found : Found) : Bool :=
  found.stop.offset == found.start.offset

end Found

/-- The first place from a given one on where a partial function has a value, with that value. -/
def firstFrom {α : Type} (at? : Position → Option α) (offset : Nat) :
    (previous : Option Char) → List Char → Option (Position × α)
  | previous, [] => (at? ⟨offset, previous, []⟩).map (⟨offset, previous, []⟩, ·)
  | previous, c :: rest =>
      match at? ⟨offset, previous, c :: rest⟩ with
      | some value => some (⟨offset, previous, c :: rest⟩, value)
      | none => firstFrom at? (offset + c.utf8Size) (some c) rest

/-- The preferred match at the first place, from a given one on, where there is a match. -/
def Expr.find? (expr : Expr) (position : Position) : Option Found :=
  (firstFrom expr.matchAt? position.offset position.previous position.rest).map
    fun (start, thread) => ⟨start, thread⟩

/-- The matches in a text from a place on. Each search starts where the match before ended. An
empty match there is passed over, and the search goes on one character further. The bound is above
the number of characters left. -/
def matchesUpTo (find? : Position → Option Found) :
    Nat → (lastStop : Option Nat) → Position → List Found
  | 0, _, _ => []
  | bound + 1, lastStop, position =>
      let again : Option Found :=
        match find? position with
        | none => none
        | some found =>
            -- The same empty match would be found again and again.
            if found.isEmpty && lastStop == some found.stop.offset then
              position.next?.bind find?
            else some found
      match again with
      | none => []
      | some found => found :: matchesUpTo find? bound (some found.stop.offset) found.stop

/-- The matches in a text, from left to right. -/
def matchesIn (find? : Position → Option Found) (text : List Char) : List Found :=
  matchesUpTo find? (text.length + 2) none (.start text)

end TokenGrammar.Regex
