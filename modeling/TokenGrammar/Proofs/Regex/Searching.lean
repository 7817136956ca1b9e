import TokenGrammar.Proofs.Regex.Words

/-! # Searching for matches

A search asks at one place after the other what matches there. Empty matches make it find more, but
they do not keep it from anything: without them the other matches are found all the same.

* `Regex.searchWith`: the first match from a place on, given what matches at each place.
* `Regex.nextMatch?`: the match after another one.
* `Regex.solidAt?`: what matches at a place unless that is empty.
* `Regex.filter_matchesIn`: the matches that are not empty are those found without the empty
  ones. -/

namespace TokenGrammar.Regex

/-! ## Searches -/

/-- The first match from a place on, given what matches at each place. -/
def searchWith (at? : Position → Option Thread) (position : Position) : Option Found :=
  (firstFrom at? position.offset position.previous position.rest).map
    fun (start, thread) => ⟨start, thread⟩

/-- An expression is searched for by what it prefers at each place. -/
theorem Expr.find?_eq_searchWith (expr : Expr) : expr.find? = searchWith expr.matchAt? := rfl

variable {at? : Position → Option Thread} {find? : Position → Option Found}
  {position : Position} {found : Found} {thread : Thread} {captures : List (Nat × Span)} {c : Char}
  {rest : List Char}

/-- What is found at the first place where something is found is found there. -/
theorem firstFrom_eq_some {α : Type} {at? : Position → Option α} {offset : Nat}
    {previous : Option Char} {text : List Char} {position : Position} {value : α}
    (found : firstFrom at? offset previous text = some (position, value)) :
    at? position = some value := by
  induction text generalizing offset previous with
  | nil =>
      obtain ⟨found, there, same⟩ := Option.map_eq_some_iff.mp found
      cases same
      exact there
  | cons c rest induction =>
      rw [firstFrom] at found
      split at found
      · next there =>
          cases found
          exact there
      · exact induction found

/-- What a search finds matches where it starts. -/
theorem at?_of_searchWith (first : searchWith at? position = some found) :
    at? found.start = some found.thread := by
  obtain ⟨⟨start, thread⟩, there, rfl⟩ := Option.map_eq_some_iff.mp first
  exact firstFrom_eq_some there

/-- What matches at the place is found. -/
theorem searchWith_of_some (here : at? position = some thread) :
    searchWith at? position = some ⟨position, thread⟩ := by
  obtain ⟨offset, previous, text⟩ := position
  cases text <;> (rw [searchWith, firstFrom, here]; rfl)

/-- Where nothing matches the search goes on past the next character. -/
theorem searchWith_of_none (next : position.rest = c :: rest) (missing : at? position = none) :
    searchWith at? position = searchWith at? (position.past c rest) := by
  obtain ⟨offset, previous, text⟩ := position
  cases (next : text = c :: rest)
  rw [searchWith, firstFrom, missing]
  rfl

/-- At the end of the text the search is over. -/
theorem searchWith_of_rest_nil (ended : position.rest = []) (missing : at? position = none) :
    searchWith at? position = none := by
  obtain ⟨offset, previous, text⟩ := position
  cases (ended : text = [])
  rw [searchWith, firstFrom, missing]
  rfl

/-- A search does not look back. -/
theorem le_offset_of_searchWith (first : searchWith at? position = some found) :
    position.offset ≤ found.start.offset := by
  obtain ⟨offset, previous, text⟩ := position
  induction text generalizing offset previous with
  | nil =>
      cases here : at? ⟨offset, previous, []⟩ with
      | none =>
          rw [searchWith_of_rest_nil rfl here] at first
          cases first
      | some thread =>
          rw [searchWith_of_some here] at first
          cases first
          exact Nat.le_refl offset
  | cons c rest induction =>
      cases here : at? ⟨offset, previous, c :: rest⟩ with
      | none =>
          rw [searchWith_of_none rfl here] at first
          exact Nat.le_of_add_right_le (induction _ _ first)
      | some thread =>
          rw [searchWith_of_some here] at first
          cases first
          exact Nat.le_refl offset

/-! ## One search after the other -/

/-- The match that comes next, after one that ended at a given offset. -/
def nextMatch? (find? : Position → Option Found) (lastStop : Option Nat) (position : Position) :
    Option Found :=
  match find? position with
  | none => none
  | some found =>
      if found.isEmpty && lastStop == some found.stop.offset then position.next?.bind find?
      else some found

/-- The matches are the next one and those after it. -/
theorem matchesUpTo_succ (find? : Position → Option Found) (bound : Nat) (lastStop : Option Nat)
    (position : Position) :
    matchesUpTo find? (bound + 1) lastStop position =
      match nextMatch? find? lastStop position with
      | none => []
      | some found => found :: matchesUpTo find? bound (some found.stop.offset) found.stop := rfl

/-- The match that comes next is found somewhere. -/
theorem exists_of_nextMatch? {lastStop : Option Nat}
    (next : nextMatch? find? lastStop position = some found) :
    ∃ place, find? place = some found := by
  rw [nextMatch?] at next
  split at next
  · cases next
  · rename_i first there
    split at next
    · obtain ⟨place, -, later⟩ := Option.bind_eq_some_iff.mp next
      exact ⟨place, later⟩
    · cases next
      exact ⟨position, there⟩

/-- Every match is found somewhere. -/
theorem exists_of_mem_matchesUpTo {bound : Nat} {lastStop : Option Nat}
    (member : found ∈ matchesUpTo find? bound lastStop position) :
    ∃ place, find? place = some found := by
  induction bound generalizing lastStop position with
  | zero => cases member
  | succ bound induction =>
      rw [matchesUpTo_succ] at member
      split at member
      · cases member
      · rename_i first next
        rcases List.mem_cons.mp member with rfl | later
        · exact exists_of_nextMatch? next
        · exact induction later

/-- What is found comes next, unless it is the last match again. -/
theorem nextMatch?_of_fresh {lastStop : Option Nat}
    (fresh : ∀ found, find? position = some found → found.stop.offset = found.start.offset →
      lastStop ≠ some found.start.offset) :
    nextMatch? find? lastStop position = find? position := by
  rw [nextMatch?]
  cases first : find? position with
  | none => rfl
  | some found =>
      refine if_neg ?_
      rw [Bool.and_eq_true, Found.isEmpty, beq_iff_eq, beq_iff_eq]
      rintro ⟨empty, same⟩
      exact fresh found first empty (same.trans (congrArg some empty))

/-- What matches at the place comes next, unless it is the last match again. -/
theorem nextMatch?_of_some {lastStop : Option Nat} (here : at? position = some thread)
    (fresh : thread.offset = position.offset → lastStop ≠ some position.offset) :
    nextMatch? (searchWith at?) lastStop position = some ⟨position, thread⟩ := by
  rw [nextMatch?_of_fresh, searchWith_of_some here]
  intro found first
  rw [searchWith_of_some here] at first
  cases first
  exact fresh

/-- The last match, if it is found again, is passed over. -/
theorem nextMatch?_of_again (here : at? position = some thread)
    (empty : thread.offset = position.offset) :
    nextMatch? (searchWith at?) (some position.offset) position =
      position.next?.bind (searchWith at?) := by
  rw [nextMatch?, searchWith_of_some here]
  refine if_pos ?_
  rw [Bool.and_eq_true, Found.isEmpty, beq_iff_eq, beq_iff_eq]
  exact ⟨empty, congrArg some empty.symm⟩

/-! ## Searches without empty matches -/

/-- What matches at a place, unless that is empty. -/
def solidAt? (at? : Position → Option Thread) (position : Position) : Option Thread :=
  (at? position).filter fun thread => thread.offset != position.offset

/-- What is not empty is kept. -/
theorem solidAt?_of_ne (here : at? position = some thread)
    (solid : thread.offset ≠ position.offset) : solidAt? at? position = some thread := by
  rw [solidAt?, here]
  exact Option.filter_some_pos (bne_iff_ne.mpr solid)

/-- At the other places nothing is left. -/
theorem solidAt?_of_blank
    (blank : ∀ thread, at? position = some thread → thread.offset = position.offset) :
    solidAt? at? position = none := by
  rw [solidAt?]
  cases here : at? position with
  | none => rfl
  | some thread =>
      refine Option.filter_some_neg ?_
      rw [bne_eq_false_iff_eq]
      exact blank thread here

/-- Of two alternatives the first is left as it is if it is not empty. -/
theorem filter_or_of_solid {offset : Nat} {first : Option Thread}
    (solid : ∀ thread, first = some thread → thread.offset ≠ offset) (second : Option Thread) :
    (first.or second).filter (fun thread => thread.offset != offset) =
      first.or (second.filter fun thread => thread.offset != offset) := by
  cases first with
  | none => rfl
  | some thread => exact Option.filter_some_pos (bne_iff_ne.mpr (solid thread rfl))

/-- A group around a match is empty where the match is. -/
theorem filter_map_record (offset number start : Nat) (inside : Option Thread) :
    (inside.map fun next => next.record number start).filter
        (fun thread => thread.offset != offset) =
      (inside.filter fun thread => thread.offset != offset).map fun next =>
        next.record number start := by
  cases inside with
  | none => rfl
  | some thread =>
      rw [Option.map_some, Option.filter_some, Option.filter_some]
      change (if (thread.offset != offset) = true then _ else _) = _
      split <;> rfl

/-- Where nothing but the last match again is found, the next one is looked for past the next
character. -/
theorem nextMatch?_past {lastStop : Option Nat} (next : position.rest = c :: rest)
    (behind : ∀ stop, lastStop = some stop → stop ≤ position.offset)
    (spent : ∀ thread, at? position = some thread →
      thread.offset = position.offset ∧ lastStop = some position.offset) :
    nextMatch? (searchWith at?) lastStop position =
      nextMatch? (searchWith at?) lastStop (position.past c rest) := by
  -- A match past the next character starts behind the last stop, so it is not the last one again.
  have fresh : ∀ found, searchWith at? (position.past c rest) = some found →
      found.stop.offset = found.start.offset → lastStop ≠ some found.start.offset := by
    intro found first _ same
    have further : position.offset < (position.past c rest).offset :=
      Nat.lt_add_of_pos_right (Char.utf8Size_pos c)
    exact absurd (le_offset_of_searchWith first)
      (Nat.not_le_of_lt (Nat.lt_of_le_of_lt (behind _ same) further))
  rw [nextMatch?_of_fresh fresh]
  cases here : at? position with
  | none =>
      have same := searchWith_of_none next here
      rw [← same] at fresh ⊢
      exact nextMatch?_of_fresh fresh
  | some thread =>
      obtain ⟨empty, rfl⟩ := spent thread here
      rw [nextMatch?_of_again here empty, Position.next?, next]
      rfl

/-- At the end of the text nothing comes next but the last match again. -/
theorem nextMatch?_of_rest_nil {lastStop : Option Nat} (ended : position.rest = [])
    (spent : ∀ thread, at? position = some thread →
      thread.offset = position.offset ∧ lastStop = some position.offset) :
    nextMatch? (searchWith at?) lastStop position = none := by
  cases here : at? position with
  | none => rw [nextMatch?, searchWith_of_rest_nil ended here]
  | some thread =>
      obtain ⟨empty, rfl⟩ := spent thread here
      rw [nextMatch?_of_again here empty, Position.next?, ended]
      rfl

/-- A search that goes on at a place: the last match ended there or before, and the bound is above
the number of characters left. -/
structure Underway (position : Position) (bound : Nat) (lastStop : Option Nat) : Prop where
  /-- The last match does not end ahead. -/
  behind : ∀ stop, lastStop = some stop → stop ≤ position.offset
  /-- The bound is above the number of characters left. -/
  enough : position.rest.length < bound

/-- Past the next character the bound is far above the number of characters left. -/
theorem Underway.past {bound : Nat} {lastStop : Option Nat}
    (underway : Underway position bound lastStop) (next : position.rest = c :: rest) :
    Underway (position.past c rest) bound lastStop ∧
      (position.past c rest).rest.length + 1 < bound := by
  have enough := underway.enough
  rw [next, List.length_cons] at enough
  refine ⟨⟨fun stop same => ?_, Nat.lt_of_succ_lt enough⟩, enough⟩
  exact Nat.le_add_right_of_le (underway.behind stop same)

/-- Where a match ended the search goes on. -/
theorem Underway.stop {bound : Nat} {lastStop : Option Nat}
    (underway : Underway position (bound + 1) lastStop)
    (shorter : thread.position.rest.length < position.rest.length) :
    Underway thread.position bound (some thread.offset) where
  behind _ same := Nat.le_of_eq (Option.some.inj same).symm
  enough := Nat.lt_of_lt_of_le shorter (Nat.le_of_lt_succ underway.enough)

/-- From a place on, the matches that are not empty are those found without the empty ones. A match
that is empty and not the last one again takes one more round. -/
def Agrees (at? : Position → Option Thread) (position : Position) : Prop :=
  ∀ ⦃bound bound' : Nat⦄ ⦃lastStop lastStop' : Option Nat⦄, Underway position bound lastStop →
    Underway position bound' lastStop' →
      (lastStop = some position.offset ∨ position.rest.length + 1 < bound) →
        (matchesUpTo (searchWith at?) bound lastStop position).filter (!·.isEmpty) =
          matchesUpTo (searchWith (solidAt? at?)) bound' lastStop' position

/-- Where nothing matches but the last match again, both go on past the next character. -/
theorem filter_matchesUpTo_of_spent {bound bound' : Nat} {lastStop lastStop' : Option Nat}
    (underway : Underway position bound lastStop) (underway' : Underway position bound' lastStop')
    (spent : ∀ thread, at? position = some thread →
      thread.offset = position.offset ∧ lastStop = some position.offset)
    (later : ∀ c rest, position.rest = c :: rest → Agrees at? (position.past c rest)) :
    (matchesUpTo (searchWith at?) bound lastStop position).filter (!·.isEmpty) =
      matchesUpTo (searchWith (solidAt? at?)) bound' lastStop' position := by
  obtain ⟨bound, rfl⟩ := Nat.exists_eq_add_one_of_ne_zero (Nat.ne_zero_of_lt underway.enough)
  obtain ⟨bound', rfl⟩ := Nat.exists_eq_add_one_of_ne_zero (Nat.ne_zero_of_lt underway'.enough)
  have spent' : ∀ thread, solidAt? at? position = some thread →
      thread.offset = position.offset ∧ lastStop' = some position.offset := by
    intro thread here
    rw [solidAt?_of_blank fun thread here => (spent thread here).1] at here
    cases here
  cases next : position.rest with
  | nil =>
      rw [matchesUpTo_succ, nextMatch?_of_rest_nil next spent, matchesUpTo_succ,
        nextMatch?_of_rest_nil next spent']
      rfl
  | cons c rest =>
      rw [matchesUpTo_succ, nextMatch?_past next underway.behind spent, ← matchesUpTo_succ,
        matchesUpTo_succ _ bound', nextMatch?_past next underway'.behind spent', ← matchesUpTo_succ]
      have further := underway.past next
      exact later c rest next further.1 (underway'.past next).1 (.inr further.2)

/-- A match that is empty and not the last one again is dropped, and in the next round it is. -/
theorem filter_matchesUpTo_of_blank {bound bound' : Nat} {lastStop lastStop' : Option Nat}
    (underway' : Underway position bound' lastStop')
    (here : at? position = some ⟨position, captures⟩)
    (fresh : lastStop ≠ some position.offset) (room : position.rest.length + 1 < bound)
    (later : ∀ c rest, position.rest = c :: rest → Agrees at? (position.past c rest)) :
    (matchesUpTo (searchWith at?) bound lastStop position).filter (!·.isEmpty) =
      matchesUpTo (searchWith (solidAt? at?)) bound' lastStop' position := by
  obtain ⟨bound, rfl⟩ := Nat.exists_eq_add_one_of_ne_zero (Nat.ne_zero_of_lt room)
  have underway : Underway position bound (some position.offset) :=
    ⟨fun _ same => Nat.le_of_eq (Option.some.inj same).symm, Nat.lt_of_succ_lt_succ room⟩
  have blank : (Found.mk position ⟨position, captures⟩).isEmpty = true := beq_self_eq_true _
  -- The place stays the same after the empty match, and it alone is the last stop then.
  rw [matchesUpTo_succ, nextMatch?_of_some here fun _ => fresh]
  change List.filter _ (_ :: matchesUpTo _ bound (some position.offset) position) = _
  rw [List.filter_cons_of_neg (by rw [blank]; decide)]
  refine filter_matchesUpTo_of_spent underway underway' (fun thread again => ?_) later
  cases here.symm.trans again
  exact ⟨rfl, rfl⟩

/-- A match that is not empty is found by both, and they go on behind it. -/
theorem filter_matchesUpTo_of_solid {bound bound' : Nat} {lastStop lastStop' : Option Nat}
    (underway : Underway position bound lastStop) (underway' : Underway position bound' lastStop')
    (here : at? position = some thread) (solid : thread.offset ≠ position.offset)
    (shorter : thread.position.rest.length < position.rest.length)
    (later : Agrees at? thread.position) :
    (matchesUpTo (searchWith at?) bound lastStop position).filter (!·.isEmpty) =
      matchesUpTo (searchWith (solidAt? at?)) bound' lastStop' position := by
  obtain ⟨bound, rfl⟩ := Nat.exists_eq_add_one_of_ne_zero (Nat.ne_zero_of_lt underway.enough)
  obtain ⟨bound', rfl⟩ := Nat.exists_eq_add_one_of_ne_zero (Nat.ne_zero_of_lt underway'.enough)
  have visible : (Found.mk position thread).isEmpty = false := beq_eq_false_iff_ne.mpr solid
  rw [matchesUpTo_succ, nextMatch?_of_some here fun blank => absurd blank solid, matchesUpTo_succ,
    nextMatch?_of_some (solidAt?_of_ne here solid) fun blank => absurd blank solid]
  change List.filter _ (⟨position, thread⟩ ::
    matchesUpTo _ bound (some thread.offset) thread.position) =
      ⟨position, thread⟩ :: matchesUpTo _ bound' (some thread.offset) thread.position
  rw [List.filter_cons_of_pos (by rw [visible]; rfl)]
  exact congrArg _ (later (underway.stop shorter) (underway'.stop shorter) (.inl rfl))

/-- From any place on, the matches that are not empty are those found without the empty ones. -/
theorem agrees
    (ahead : ∀ position thread, at? position = some thread → position.Ahead thread.position)
    (position : Position) : Agrees at? position := by
  -- The searches go on together, past a match that is not empty or past the next character.
  induction length : position.rest.length using Nat.strongRecOn generalizing position with
  | ind left induction =>
      subst length
      intro bound bound' lastStop lastStop' underway underway' fresh
      have later : ∀ c rest, position.rest = c :: rest → Agrees at? (position.past c rest) := by
        intro c rest next
        refine induction _ ?_ _ rfl
        rw [next]
        exact Nat.lt_succ_self _
      cases here : at? position with
      | none =>
          refine filter_matchesUpTo_of_spent underway underway' (fun thread found => ?_) later
          cases here.symm.trans found
      | some thread =>
          obtain ⟨place, captures⟩ := thread
          have reached : position.Ahead place := ahead position _ here
          by_cases blank : place.offset = position.offset
          · cases reached.eq_of_offset_eq blank
            by_cases again : lastStop = some position.offset
            · refine filter_matchesUpTo_of_spent underway underway' (fun thread found => ?_) later
              cases here.symm.trans found
              exact ⟨rfl, again⟩
            · exact filter_matchesUpTo_of_blank underway' here again
                (fresh.resolve_left again) later
          · have shorter := (reached.lt_of_offset_ne blank).2
            exact filter_matchesUpTo_of_solid underway underway' here blank shorter
              (induction _ shorter _ rfl)

/-- **The matches in a text that are not empty are those found without the empty ones.** -/
theorem filter_matchesIn
    (ahead : ∀ position thread, at? position = some thread → position.Ahead thread.position)
    (text : List Char) :
    (matchesIn (searchWith at?) text).filter (!·.isEmpty) =
      matchesIn (searchWith (solidAt? at?)) text := by
  have underway : Underway (.start text) (text.length + 2) none :=
    ⟨nofun, Nat.lt_add_of_pos_right Nat.two_pos⟩
  exact agrees ahead (.start text) underway underway (.inr (Nat.lt_succ_self _))

end TokenGrammar.Regex
