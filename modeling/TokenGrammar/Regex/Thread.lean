import TokenGrammar.Regex.Expr

/-! # Threads of a match

* `Regex.Span`: what a group recorded.
* `Regex.Thread`: a place that a match has come to, with what the groups recorded on the way.
* `Regex.firstOfEach`: the first thread for each place. -/

namespace TokenGrammar.Regex

open Unicode (CharSet)

/-- A stretch of a text, in bytes. -/
structure Span where
  /-- Where it starts. -/
  start : Nat
  /-- Where it ends. -/
  stop : Nat
  deriving DecidableEq

/-- A place that a match has come to. -/
structure Thread where
  /-- The place. -/
  position : Position
  /-- What the groups have recorded, latest first. -/
  captures : List (Nat × Span)
  deriving DecidableEq

namespace Thread

/-- Number of bytes before the place. -/
def offset (thread : Thread) : Nat :=
  thread.position.offset

/-- The thread past the next character, `c`, which `rest` follows. -/
def past (thread : Thread) (c : Char) (rest : List Char) : Thread :=
  { thread with position := thread.position.past c rest }

/-- The thread past the next character, if that is of a set. -/
def accept? (thread : Thread) (members : CharSet) : Option Thread :=
  match thread.position.rest with
  | [] => none
  | c :: rest => if members.contains c then some (thread.past c rest) else none

/-- Record that a group matched from `start` up to here. -/
def record (thread : Thread) (index start : Nat) : Thread :=
  { thread with captures := (index, ⟨start, thread.offset⟩) :: thread.captures }

/-- What a group recorded last. -/
def span? (thread : Thread) (index : Nat) : Option Span :=
  thread.captures.lookup index

/-- At the end of the text no set accepts anything. -/
theorem accept?_of_rest_nil {thread : Thread} (rest : thread.position.rest = [])
    (members : CharSet) : thread.accept? members = none := by
  rw [accept?, rest]

/-- Elsewhere a set accepts the next character if it contains that. -/
theorem accept?_of_rest_cons {thread : Thread} {c : Char} {rest : List Char}
    (next : thread.position.rest = c :: rest) (members : CharSet) :
    thread.accept? members = if members.contains c then some (thread.past c rest) else none := by
  rw [accept?, next]

@[simp] theorem offset_past (thread : Thread) (c : Char) (rest : List Char) :
    (thread.past c rest).offset = thread.offset + c.utf8Size := rfl

@[simp] theorem span?_record (thread : Thread) (index start : Nat) :
    (thread.record index start).span? index = some ⟨start, thread.offset⟩ := by
  simp [span?, record]

end Thread

/-- The threads at places whose bits in `seen` are clear, only the first at each place. -/
def firstOfEachExcept (seen : Nat) : List Thread → List Thread
  | [] => []
  | thread :: threads =>
      if seen.testBit thread.offset then firstOfEachExcept seen threads
      else thread :: firstOfEachExcept (seen ||| 1 <<< thread.offset) threads

/-- The first thread at each place. -/
def firstOfEach (threads : List Thread) : List Thread :=
  firstOfEachExcept 0 threads

@[simp] theorem firstOfEach_nil : firstOfEach [] = [] := rfl

@[simp] theorem firstOfEach_single (thread : Thread) : firstOfEach [thread] = [thread] := by
  simp [firstOfEach, firstOfEachExcept]

/-- The preferred thread stays the preferred one. -/
@[simp] theorem head?_firstOfEach (threads : List Thread) :
    (firstOfEach threads).head? = threads.head? := by
  cases threads <;> simp [firstOfEach, firstOfEachExcept]

end TokenGrammar.Regex
