import Mathlib.Data.List.Forall2
import TokenGrammar.Proofs.Regex.ComposedGroups
import TokenGrammar.Proofs.Regex.Words

/-! # Matches of expressions with other numbers

What an expression matches does not depend on the numbers of its groups. The matches of an
expression with raised numbers are those of the expression, one by one: they end at the same places,
which lie ahead of the place where they start, and they have only groups with raised numbers on
record.

* `Regex.Thread.Corresponds`: a thread, and its counterpart in the expression with raised numbers.
* `Regex.Walk.Continues`: continuations that take counterparts to counterparts.
* `Regex.Expr.continues_walk`: walks through the two expressions do.
* `Regex.Expr.forall₂_matches`: the matches of the two expressions correspond.
* `Regex.Expr.matchAt?_renumber`: and so do the preferred ones. -/

namespace TokenGrammar.Regex

/-- A thread, and its counterpart in the expression with raised numbers, in a match that starts at
a given place. -/
structure Thread.Corresponds (shift : Nat) (origin : Position) (thread thread' : Thread) :
    Prop where
  /-- They are at the same place. -/
  position : thread'.position = thread.position
  /-- The place is ahead of the start. -/
  ahead : origin.Ahead thread.position
  /-- Only groups with raised numbers are on record. -/
  recorded : ∀ entry ∈ thread'.captures, shift ≤ entry.1

section

variable {shift : Nat} {origin : Position}

namespace Thread.Corresponds

variable {thread thread' : Thread}

/-- The start corresponds to itself. -/
theorem start (shift : Nat) (position : Position) :
    Corresponds shift position ⟨position, []⟩ ⟨position, []⟩ where
  position := rfl
  ahead := .refl position
  recorded _ member := nomatch member

/-- The places have the same offset. -/
theorem offset (corresponds : Corresponds shift origin thread thread') :
    thread'.offset = thread.offset :=
  congrArg Position.offset corresponds.position

/-- The same character is passed. -/
theorem past (corresponds : Corresponds shift origin thread thread') {c : Char}
    {rest : List Char} (next : thread.position.rest = c :: rest) :
    Corresponds shift origin (thread.past c rest) (thread'.past c rest) where
  position := congrArg (·.past c rest) corresponds.position
  ahead := corresponds.ahead.past next
  recorded := corresponds.recorded

/-- A group with a raised number is recorded. -/
theorem record (corresponds : Corresponds shift origin thread thread') (index start : Nat) :
    Corresponds shift origin (thread.record index start)
      (thread'.record (index + shift) start) where
  position := corresponds.position
  ahead := corresponds.ahead
  recorded := List.forall_mem_cons.mpr ⟨Nat.le_add_left _ _, corresponds.recorded⟩

/-- The same set accepts the next character, or refuses it. -/
theorem accept? (corresponds : Corresponds shift origin thread thread')
    (members : Unicode.CharSet) :
    List.Forall₂ (Corresponds shift origin) (thread.accept? members).toList
      (thread'.accept? members).toList := by
  cases ahead : thread.position.rest with
  | nil =>
      rw [accept?_of_rest_nil ahead, accept?_of_rest_nil (corresponds.position ▸ ahead)]
      exact .nil
  | cons c rest =>
      rw [accept?_of_rest_cons ahead, accept?_of_rest_cons (corresponds.position ▸ ahead)]
      split
      · exact .cons (corresponds.past ahead) .nil
      · exact .nil

/-- Of counterparts the first ones at each place are counterparts. -/
theorem firstOfEachExcept {threads threads' : List Thread}
    (each : List.Forall₂ (Corresponds shift origin) threads threads') (seen : Nat) :
    List.Forall₂ (Corresponds shift origin) (Regex.firstOfEachExcept seen threads)
      (Regex.firstOfEachExcept seen threads') := by
  induction each generalizing seen with
  | nil => exact .nil
  | cons first rest induction =>
      rw [Regex.firstOfEachExcept, Regex.firstOfEachExcept, first.offset]
      split
      · exact induction seen
      · exact .cons first (induction _)

/-- Of counterparts the first ones at each place are counterparts. -/
theorem firstOfEach {threads threads' : List Thread}
    (each : List.Forall₂ (Corresponds shift origin) threads threads') :
    List.Forall₂ (Corresponds shift origin) (Regex.firstOfEach threads)
      (Regex.firstOfEach threads') :=
  firstOfEachExcept each 0

/-- Runs of characters lead to the same places. -/
theorem run (corresponds : Corresponds shift origin thread thread') (members : Unicode.CharSet)
    (limit : Option Nat) :
    List.Forall₂ (Corresponds shift origin)
      (Expr.run members thread.captures limit thread.position.offset thread.position.previous
        thread.position.rest)
      (Expr.run members thread'.captures limit thread'.position.offset thread'.position.previous
        thread'.position.rest) := by
  rw [corresponds.position]
  obtain ⟨⟨offset, previous, text⟩, captures⟩ := thread
  obtain ⟨position', captures'⟩ := thread'
  cases corresponds.position
  induction text generalizing limit offset previous with
  | nil => exact .cons corresponds .nil
  | cons c rest induction =>
      rw [Expr.run, Expr.run]
      split
      · exact .cons corresponds (induction _ _ _ (corresponds.past rfl))
      · exact .cons corresponds .nil

end Thread.Corresponds

namespace Walk

/-- Walks through the two expressions that have been at the same points, and have found
counterparts. -/
structure Corresponds (shift : Nat) (origin : Position) (walk walk' : Walk) : Prop where
  /-- They have been at the same points. -/
  visited : walk'.visited = walk.visited
  /-- They have found counterparts. -/
  exits : List.Forall₂ (Thread.Corresponds shift origin) walk.exits walk'.exits

/-- Continuations that take counterparts to counterparts. -/
def Continues (shift : Nat) (origin : Position) (go go' : Continuation) : Prop :=
  ∀ ⦃thread thread' : Thread⦄ ⦃walk walk' : Walk⦄, thread.Corresponds shift origin thread' →
    walk.Corresponds shift origin walk' →
      (go thread walk).Corresponds shift origin (go' thread' walk')

/-- Bodies that continue continuations. -/
def Leads (shift : Nat) (origin : Position)
    (body body' : Point → Continuation → Continuation) : Prop :=
  ∀ (point : Point) ⦃go go' : Continuation⦄, Continues shift origin go go' →
    Continues shift origin (body point go) (body' point go')

variable {go go' more more' : Continuation} {body body' : Point → Continuation → Continuation}

/-- What reaches the end is found. -/
theorem continues_exit : Continues shift origin exit exit :=
  fun _ _ _ _ thread walk => ⟨walk.visited, .cons thread walk.exits⟩

/-- A point is visited by both or by neither. -/
theorem Continues.visit (continues : Continues shift origin go go') (point : Point) :
    Continues shift origin (visit point go) (visit point go') := by
  intro thread thread' walk walk' threads walks
  rw [Walk.visit, Walk.visit, walks.visited, threads.offset]
  split
  · exact walks
  · exact continues threads ⟨rfl, walks.exits⟩

/-- Two ways are tried in the same order. -/
theorem Continues.branch (first : Continues shift origin more more')
    (second : Continues shift origin go go') (greedy : Bool) :
    Continues shift origin (branch greedy more go) (branch greedy more' go') := by
  intro thread thread' walk walk' threads walks
  rw [Walk.branch, Walk.branch]
  split
  · exact second threads (first threads walks)
  · exact first threads (second threads walks)

/-- A fixed number of times. -/
theorem Leads.copies (leads : Leads shift origin body body') (point : Point) (count : Nat)
    (continues : Continues shift origin go go') :
    Continues shift origin (copies body point count go) (copies body' point count go') := by
  induction count with
  | zero => exact continues
  | succ count induction => exact leads _ induction

/-- Up to a number of times. -/
theorem Leads.upTo (leads : Leads shift origin body body') (point : Point) (greedy : Bool)
    (count : Nat) (continues : Continues shift origin go go') :
    Continues shift origin (upTo body point greedy count go)
      (upTo body' point greedy count go') := by
  induction count with
  | zero => exact continues
  | succ count induction => exact ((leads _ induction).branch continues greedy).visit _

/-- At least once. -/
theorem Leads.atLeastOnce (leads : Leads shift origin body body') (point : Point) (greedy : Bool)
    (rounds : Nat) (continues : Continues shift origin go go') :
    Continues shift origin (atLeastOnce body point greedy rounds go)
      (atLeastOnce body' point greedy rounds go') := by
  induction rounds with
  | zero => exact fun _ _ _ _ _ walks => walks
  | succ rounds induction => exact leads _ ((induction.branch continues greedy).visit _)

/-- Any number of times. -/
theorem Leads.anyNumber (leads : Leads shift origin body body') (point : Point) (greedy : Bool)
    (rounds : Nat) (continues : Continues shift origin go go') :
    Continues shift origin (anyNumber body point greedy rounds go)
      (anyNumber body' point greedy rounds go') := by
  induction rounds with
  | zero => exact fun _ _ _ _ _ walks => walks
  | succ rounds induction => exact ((leads _ induction).branch continues greedy).visit _

/-- Without limit. -/
theorem Leads.unlimited (leads : Leads shift origin body body') (point : Point)
    (greedy consuming : Bool) (min : Nat) (continues : Continues shift origin go go') :
    Continues shift origin (unlimited body point greedy consuming min go)
      (unlimited body' point greedy consuming min go') := by
  cases min with
  | zero =>
      -- How many rounds there can be depends on the place, which is the same for both.
      intro thread thread' walk walk' threads walks
      simp only [Walk.unlimited, threads.position]
      split
      · exact leads.anyNumber point greedy _ continues threads walks
      · exact ((leads.atLeastOnce point greedy _ continues).branch continues greedy).visit _
          threads walks
  | succ min =>
      refine leads.copies point min fun thread thread' walk walk' threads walks => ?_
      rw [threads.position]
      exact leads.atLeastOnce point greedy _ continues threads walks

/-- As often as a repetition asks for. -/
theorem Leads.repetition (leads : Leads shift origin body body') (point : Point) (min : Nat)
    (max : Option Nat) (greedy consuming : Bool) (continues : Continues shift origin go go') :
    Continues shift origin (repetition body point min max greedy consuming go)
      (repetition body' point min max greedy consuming go') := by
  cases max with
  | none => exact leads.unlimited point greedy consuming min continues
  | some max => exact leads.copies point min (leads.upTo point greedy (max - min) continues)

end Walk

namespace Expr

/-- **The walk through an expression with raised numbers** is the walk through the expression, step
by step. -/
theorem continues_walk (expr : Expr) :
    Walk.Leads shift origin expr.walk (expr.renumber shift).walk := by
  induction expr with
  | empty => exact fun _ _ _ continues => continues
  | set members =>
      intro point go go' continues thread thread' walk walk' threads walks
      have accepted := threads.accept? members
      simp only [renumber, Expr.walk]
      revert accepted
      cases thread.accept? members <;> cases thread'.accept? members <;> intro accepted
      · exact walks
      · cases accepted
      · cases accepted
      · cases accepted with
        | cons next _ => exact continues next walks
  | assertion condition =>
      intro point go go' continues thread thread' walk walk' threads walks
      simp only [renumber, Expr.walk, threads.position]
      split
      · exact continues threads walks
      · exact walks
  | sequence first second left right =>
      exact fun point _ _ continues => (left _ (right _ continues)).visit point
  | alternative first second left right =>
      exact fun point _ _ continues =>
        ((left _ continues).branch (right _ continues) true).visit point
  | repetition min max greedy body induction =>
      intro point go go' continues
      rw [renumber, Expr.walk, Expr.walk, consumes_renumber]
      exact Walk.Leads.repetition induction point min max greedy _ continues
  | capture index name body induction =>
      intro point go go' continues thread thread' walk walk' threads walks
      refine induction (0 :: point) (fun next next' walk walk' nexts walks => ?_) threads walks
      rw [threads.offset]
      exact continues (nexts.record index _) walks

/-- The walks find counterparts. -/
theorem forall₂_walkExits (expr : Expr) {thread thread' : Thread}
    (corresponds : thread.Corresponds shift origin thread') :
    List.Forall₂ (Thread.Corresponds shift origin) (expr.walkExits thread)
      ((expr.renumber shift).walkExits thread') := by
  rw [walkExits, walkExits, List.forall₂_reverse_iff]
  exact (expr.continues_walk [] Walk.continues_exit corresponds ⟨rfl, .nil⟩).exits

/-- **The matches of an expression with raised numbers** are those of the expression, one by one. -/
theorem forall₂_matches (expr : Expr) {thread thread' : Thread}
    (corresponds : thread.Corresponds shift origin thread') :
    List.Forall₂ (Thread.Corresponds shift origin) (expr.matches thread)
      ((expr.renumber shift).matches thread') := by
  induction expr generalizing thread thread' with
  | empty => exact .cons corresponds .nil
  | set members => exact corresponds.accept? members
  | assertion condition =>
      rw [renumber, matches_assertion, matches_assertion, corresponds.position]
      split
      · exact .cons corresponds .nil
      · exact .nil
  | sequence first second left right =>
      have walked := Thread.Corresponds.firstOfEach
        (forall₂_walkExits (.sequence first second) corresponds)
      rw [renumber, Expr.matches, Expr.matches, isDetermined_renumber, isDetermined_renumber]
      split
      · exact Thread.Corresponds.firstOfEach
          (List.rel_flatMap (left corresponds) fun _ _ next => right next)
      · exact walked
  | alternative first second left right =>
      rw [renumber, matches_alternative, matches_alternative]
      exact Thread.Corresponds.firstOfEach (List.rel_append (left corresponds) (right corresponds))
  | repetition min max greedy body _ =>
      -- Only a run of characters is matched without a walk.
      have walked := Thread.Corresponds.firstOfEach
        (forall₂_walkExits (.repetition min max greedy body) corresponds)
      cases body with
      | set members =>
          have past := List.forall₂_drop min (corresponds.run members max)
          rw [renumber, renumber, Expr.matches, Expr.matches, runMatches, runMatches]
          split
          · exact List.forall₂_reverse_iff.mpr past
          · exact past
      | _ => exact walked
  | capture index name body induction =>
      rw [renumber, matches_capture, matches_capture, corresponds.offset]
      exact List.rel_map (fun _ _ next => next.record index _) (induction corresponds)

/-- **An expression with raised numbers prefers what the expression prefers**, which ends ahead, and
has then no other groups on record than such with raised numbers. -/
theorem matchAt?_renumber (shift : Nat) (expr : Expr) (position : Position) :
    Option.Rel (Thread.Corresponds shift position) (expr.matchAt? position)
      ((expr.renumber shift).matchAt? position) := by
  have each := forall₂_matches expr (Thread.Corresponds.start shift position)
  rw [matchAt?, matchAt?]
  generalize expr.matches ⟨position, []⟩ = threads at each ⊢
  generalize (expr.renumber shift).matches ⟨position, []⟩ = threads' at each ⊢
  cases each with
  | nil => exact .none
  | cons first _ => exact .some first

/-- What an expression with raised numbers prefers is what the expression prefers. -/
theorem exists_of_matchAt?_renumber {expr : Expr} {position : Position} {raised : Thread}
    (matched : (expr.renumber shift).matchAt? position = some raised) :
    ∃ own, expr.matchAt? position = some own ∧ own.Corresponds shift position raised := by
  have corresponds := matchAt?_renumber shift expr position
  rw [matched] at corresponds
  generalize expr.matchAt? position = own at corresponds
  obtain ⟨corresponds⟩ := corresponds
  exact ⟨_, rfl, corresponds⟩

end Expr

end

end TokenGrammar.Regex
