import TokenGrammar.Proofs.Tokenizer.Acceptance
import TokenGrammar.Proofs.Tokenizer.Attribution

/-! # Empty matches of white space

Where white space matches the empty text the search takes note of it and goes on one character
further. The tokens are the same as if there were no such match.

* `Scanner.scanFound_solidAt?`: empty matches can be left out of a search if they are white space.
* `Oracle`: what each definition matches at each place, whatever its pattern is.
* `Oracle.scanFound_withoutEmpty`: so an oracle can do without the empty matches of white space.
* `Tokenizer.scan_of_blank`: white space may be any number of characters, or at least one. -/

namespace TokenGrammar

open Regex (Expr Found Pattern Position Thread searchWith solidAt? matchesIn)

namespace Scanner

section

variable {m : Type → Type} [Monad m] [MonadExceptOf TokenizerError m]

/-- Whether an empty match is one of white space. -/
def BlankIfEmpty (slots : List (Nat × Definition)) (found : Found) : Prop :=
  found.isEmpty = true → ∀ hit, winner? slots found = some hit →
    hit.isEmpty = true ∧ hit.isWhitespace = true

/-- Empty matches make no difference to the tokens if they are white space. -/
theorem scanHitsFrom_filter {slots : List (Nat × Definition)} {found : List Found}
    (blank : ∀ one ∈ found, BlankIfEmpty slots one) (keepWhitespace : Bool)
    (handler : String → String → Nat → m Token) (input : List Char) (lastStop : Nat) :
    scanHitsFrom keepWhitespace handler input lastStop (winners slots found) =
      scanHitsFrom keepWhitespace handler input lastStop
        (winners slots (found.filter (!·.isEmpty))) := by
  induction found generalizing lastStop with
  | nil => rfl
  | cons one found induction =>
      obtain ⟨first, others⟩ := List.forall_mem_cons.mp blank
      have later := induction others
      cases won : winner? slots one with
      | none =>
          rw [winners, List.filterMap_cons_none won, ← winners, later]
          cases empty : one.isEmpty with
          | true => rw [List.filter_cons_of_neg (by rw [empty]; decide)]
          | false =>
              rw [List.filter_cons_of_pos (by rw [empty]; rfl), winners, winners,
                List.filterMap_cons_none won]
      | some hit =>
          rw [winners, List.filterMap_cons_some won, ← winners]
          cases empty : one.isEmpty with
          | true =>
              -- White space of no length makes no token, and the text is cut up to the same place.
              obtain ⟨emptyHit, white⟩ := first empty hit won
              rw [List.filter_cons_of_neg (by rw [empty]; decide),
                scanHitsFrom_cons_of_blank emptyHit white, later]
          | false =>
              rw [List.filter_cons_of_pos (by rw [empty]; rfl), winners, winners,
                List.filterMap_cons_some won, ← winners, ← winners, scanHitsFrom, scanHitsFrom,
                later, later]

/-- **Empty matches can be left out of a search if they are white space**: the tokens are those that
are found without them. -/
theorem scanFound_solidAt? {at? : Position → Option Thread} (scanner : Scanner)
    (ahead : ∀ position thread, at? position = some thread → position.Ahead thread.position)
    (blank : ∀ position thread, at? position = some thread →
      BlankIfEmpty scanner.slots ⟨position, thread⟩)
    (keepWhitespace : Bool) (handler : String → String → Nat → m Token) (input : String) :
    scanner.scanFound keepWhitespace handler input (matchesIn (searchWith at?) input.toList) =
      scanner.scanFound keepWhitespace handler input
        (matchesIn (searchWith (solidAt? at?)) input.toList) := by
  rw [← Regex.filter_matchesIn ahead]
  refine scanHitsFrom_filter (fun one member => ?_) keepWhitespace handler input.toList 0
  obtain ⟨place, there⟩ := Regex.exists_of_mem_matchesUpTo member
  exact blank one.start one.thread (Regex.at?_of_searchWith there)

end

end Scanner

/-! ## Any definitions -/

/-- What each definition matches at each place: nothing, or a number of characters. Definitions are
told apart by the numbers of their slots. -/
abbrev Oracle := (group : Nat) → Position → Option Nat

namespace Oracle

variable {oracle : Oracle} {slots others : List (Nat × Definition)} {group : Nat}
  {whitespace : Definition} {position : Position} {thread : Thread}

/-- The match of the first definition that matches at a place. -/
def matchAt? (oracle : Oracle) (slots : List (Nat × Definition)) (position : Position) :
    Option Thread :=
  slots.findSome? fun slot => (oracle slot.1 position).map fun count =>
    (⟨position.advance count, []⟩ : Thread).record slot.1 position.offset

/-- Whether a definition never matches the empty text. -/
def Consumes (oracle : Oracle) (group : Nat) : Prop :=
  ∀ position count, oracle group position = some count →
    (position.advance count).offset ≠ position.offset

/-- The oracle without the empty matches of a definition. -/
def withoutEmpty (oracle : Oracle) (group : Nat) : Oracle := fun other position =>
  if other = group then
    (oracle other position).filter fun count => (position.advance count).offset != position.offset
  else oracle other position

/-- Without definitions there is no match. -/
theorem matchAt?_nil (oracle : Oracle) (position : Position) : oracle.matchAt? [] position = none :=
  rfl

/-- The first definition is asked first. -/
theorem matchAt?_cons (oracle : Oracle) (slot : Nat × Definition) (slots : List (Nat × Definition))
    (position : Position) :
    oracle.matchAt? (slot :: slots) position =
      ((oracle slot.1 position).map fun count =>
        (⟨position.advance count, []⟩ : Thread).record slot.1 position.offset).or
        (oracle.matchAt? slots position) := by
  rw [matchAt?, List.findSome?_cons]
  cases oracle slot.1 position <;> rfl

/-- A match is one of a definition that matches at its start, and goes as far as that does. -/
theorem exists_of_matchAt? (matched : oracle.matchAt? slots position = some thread) :
    ∃ slot ∈ slots, ∃ count, oracle slot.1 position = some count ∧
      thread = (⟨position.advance count, []⟩ : Thread).record slot.1 position.offset ∧
      Scanner.winner? slots ⟨position, thread⟩ =
        some ⟨slot.2.name, ⟨position.offset, thread.offset⟩⟩ := by
  induction slots with
  | nil => cases matched
  | cons first slots induction =>
      rw [matchAt?_cons] at matched
      cases asked : oracle first.1 position with
      | some count =>
          rw [asked] at matched
          cases matched
          exact ⟨first, List.mem_cons_self, count, asked, rfl,
            Scanner.winner?_cons_of_some (Thread.span?_record ..) _⟩
      | none =>
          rw [asked] at matched
          obtain ⟨slot, member, count, answered, rfl, won⟩ := induction matched
          refine ⟨slot, List.mem_cons_of_mem _ member, count, answered, rfl, ?_⟩
          have other : (first.1 == slot.1) = false := by
            rw [beq_eq_false_iff_ne]
            intro same
            rw [same, answered] at asked
            cases asked
          have skipped : ((⟨position.advance count, []⟩ : Thread).record slot.1
              position.offset).span? first.1 = none := by
            rw [Thread.span?, Thread.record, List.lookup_cons, other]
            rfl
          rw [Scanner.winner?_cons_of_none skipped, won]

/-- A definition that never matches the empty text is left as it is. -/
theorem withoutEmpty_of_consumes {other : Nat} (consumes : oracle.Consumes other)
    (position : Position) : oracle.withoutEmpty group other position = oracle other position := by
  rw [withoutEmpty]
  split
  · cases answered : oracle other position with
    | none => rfl
    | some count => exact Option.filter_some_pos (bne_iff_ne.mpr (consumes position count answered))
  · rfl

/-- Without the empty matches of the last definition, where no other has any, just the matches that
are not empty are left. -/
theorem matchAt?_withoutEmpty (solid : ∀ slot ∈ others, oracle.Consumes slot.1)
    (position : Position) :
    (oracle.withoutEmpty group).matchAt? (others ++ [(group, whitespace)]) position =
      solidAt? (oracle.matchAt? (others ++ [(group, whitespace)])) position := by
  rw [solidAt?]
  induction others with
  | nil =>
      rw [List.nil_append, matchAt?_cons, matchAt?_cons, withoutEmpty, if_pos rfl, matchAt?_nil,
        matchAt?_nil, Option.or_none, Option.or_none, Option.filter_map]
      rfl
  | cons slot others induction =>
      -- What the first definition matches is not empty, so the filter concerns the later ones alone.
      obtain ⟨first, later⟩ := List.forall_mem_cons.mp solid
      rw [List.cons_append, matchAt?_cons, matchAt?_cons, withoutEmpty_of_consumes first,
        induction later, Regex.filter_or_of_solid]
      intro thread found
      obtain ⟨count, answered, rfl⟩ := Option.map_eq_some_iff.mp found
      exact first position count answered

/-- Matches end ahead of their starts. -/
theorem ahead_of_matchAt? (matched : oracle.matchAt? slots position = some thread) :
    position.Ahead thread.position := by
  obtain ⟨slot, -, count, -, rfl, -⟩ := exists_of_matchAt? matched
  exact position.ahead_advance count

/-- Where no definition but white space, the last, matches the empty text, an empty match is one of
white space. -/
theorem blankIfEmpty_of_matchAt? (solid : ∀ slot ∈ others, oracle.Consumes slot.1)
    (white : whitespace.isWhitespace = true)
    (matched : oracle.matchAt? (others ++ [(group, whitespace)]) position = some thread) :
    Scanner.BlankIfEmpty (others ++ [(group, whitespace)]) ⟨position, thread⟩ := by
  intro empty hit counted
  obtain ⟨slot, member, count, answered, rfl, won⟩ := exists_of_matchAt? matched
  cases won.symm.trans counted
  rcases List.mem_append.mp member with other | last
  · exact absurd (beq_iff_eq.mp empty) (solid slot other position count answered)
  · cases List.mem_singleton.mp last
    exact ⟨beq_iff_eq.mpr (beq_iff_eq.mp empty).symm, white⟩

/-- **An oracle can do without the empty matches of white space**: if no other definition matches
the empty text, every text has the same tokens then, with the same spans handed over, or the same
error. -/
theorem scanFound_withoutEmpty {m : Type → Type} [Monad m] [MonadExceptOf TokenizerError m]
    {scanner : Scanner} (last : scanner.slots = others ++ [(group, whitespace)])
    (white : whitespace.isWhitespace = true) (solid : ∀ slot ∈ others, oracle.Consumes slot.1)
    (keepWhitespace : Bool) (handler : String → String → Nat → m Token) (input : String) :
    scanner.scanFound keepWhitespace handler input
        (matchesIn (searchWith (oracle.matchAt? scanner.slots)) input.toList) =
      scanner.scanFound keepWhitespace handler input
        (matchesIn (searchWith ((oracle.withoutEmpty group).matchAt? scanner.slots))
          input.toList) := by
  have without : (oracle.withoutEmpty group).matchAt? scanner.slots =
      solidAt? (oracle.matchAt? scanner.slots) := by
    rw [last]
    exact funext (matchAt?_withoutEmpty solid)
  rw [without]
  refine scanner.scanFound_solidAt? (fun _ _ => ahead_of_matchAt?) ?_ keepWhitespace handler input
  rw [last]
  exact fun _ _ => blankIfEmpty_of_matchAt? solid white

end Oracle

/-! ## Two patterns of white space -/

namespace Scanner

variable {branches : List Branch} {blank solid : Branch}

/-- Whether the source of a branch never matches the empty text. -/
def Branch.Consumes (branch : Branch) : Prop :=
  ∀ position thread, branch.expr.matchAt? position = some thread → thread.offset ≠ position.offset

/-- The last of some groups matches less often if it does not match the empty text, and else nothing
is different. -/
theorem matchAt?_branchGroups_solid
    (less : ∀ shift position, (solid.expr.renumber shift).matchAt? position =
      solidAt? (blank.expr.renumber shift).matchAt? position)
    (consume : ∀ branch ∈ branches, branch.Consumes) (captures index : Nat) (position : Position) :
    (Expr.ofChoices (branchGroups captures index (branches ++ [solid]))).matchAt? position =
      solidAt? (Expr.ofChoices (branchGroups captures index (branches ++ [blank]))).matchAt?
        position := by
  rw [solidAt?]
  induction branches generalizing captures index with
  | nil =>
      rw [List.nil_append, List.nil_append, matchAt?_branchGroups_cons, matchAt?_branchGroups_cons,
        less, branchGroups, branchGroups, Expr.matchAt?_ofChoices_nil, Option.or_none,
        Option.or_none, Regex.filter_map_record, solidAt?]
  | cons branch branches induction =>
      obtain ⟨first, later⟩ := List.forall_mem_cons.mp consume
      rw [List.cons_append, List.cons_append, matchAt?_branchGroups_cons,
        matchAt?_branchGroups_cons, induction later, Regex.filter_or_of_solid]
      intro thread matched
      obtain ⟨raised, inside, rfl⟩ := Option.map_eq_some_iff.mp matched
      obtain ⟨own, preferred, corresponds⟩ := Expr.exists_of_matchAt?_renumber inside
      have other := first position own preferred
      rwa [← corresponds.offset] at other

/-- Slots that differ in the source of the last definition have the same winners. -/
theorem winner?_branchSlots_append (same : solid.definition.name = blank.definition.name)
    (captures : Nat) (found : Found) :
    winner? (branchSlots captures (branches ++ [solid])) found =
      winner? (branchSlots captures (branches ++ [blank])) found := by
  induction branches generalizing captures with
  | nil =>
      rw [List.nil_append, branchSlots, branchSlots, List.nil_append, branchSlots, branchSlots]
      simp only [winner?, List.findSome?_cons, same]
  | cons branch branches induction =>
      rw [List.cons_append, branchSlots, List.cons_append, branchSlots]
      cases taken : found.thread.span? (captures + 1) with
      | none => rw [winner?_cons_of_none taken, winner?_cons_of_none taken, induction]
      | some span => rw [winner?_cons_of_some taken, winner?_cons_of_some taken]

/-- Where no branch but the last, which is white space, matches the empty text, an empty match is
one of white space. -/
theorem blankIfEmpty_of_branches {captures index : Nat} {position : Position} {thread : Thread}
    (white : blank.definition.isWhitespace = true) (consume : ∀ branch ∈ branches, branch.Consumes)
    (matched : (Expr.ofChoices (branchGroups captures index (branches ++ [blank]))).matchAt?
      position = some thread) :
    BlankIfEmpty (branchSlots captures (branches ++ [blank])) ⟨position, thread⟩ := by
  intro empty hit counted
  obtain ⟨-, -, place, definition, counts⟩ := countsForEarliest_of_matchAt? matched
  cases counts.won.symm.trans counted
  refine ⟨beq_iff_eq.mpr (beq_iff_eq.mp empty).symm, ?_⟩
  obtain ⟨branch, member, rfl⟩ := List.mem_map.mp (List.mem_of_getElem? counts.given)
  rcases List.mem_append.mp member with other | last
  · obtain ⟨meaning, own, means, preferred, stop⟩ := counts.preferred
    cases branch.ofText_eq.symm.trans means
    have consumed := consume branch other position own preferred
    rw [Thread.offset, stop] at consumed
    exact absurd (beq_iff_eq.mp empty) consumed
  · cases List.mem_singleton.mp last
    exact white

/-- White space may as well match the empty text, if no other definition does. -/
theorem scanFound_ofBranches {m : Type → Type} [Monad m] [MonadExceptOf TokenizerError m]
    (white : blank.definition.isWhitespace = true)
    (same : solid.definition.name = blank.definition.name)
    (less : ∀ shift position, (solid.expr.renumber shift).matchAt? position =
      solidAt? (blank.expr.renumber shift).matchAt? position)
    (consume : ∀ branch ∈ branches, branch.Consumes) (keepWhitespace : Bool)
    (handler : String → String → Nat → m Token) (input : String) :
    let scanner := ofBranches (branches ++ [blank])
    let other := ofBranches (branches ++ [solid])
    scanner.scanFound keepWhitespace handler input (matchesIn scanner.expr.find? input.toList) =
      other.scanFound keepWhitespace handler input (matchesIn other.expr.find? input.toList) := by
  intro scanner other
  have fewer : other.expr.matchAt? = solidAt? scanner.expr.matchAt? :=
    funext (matchAt?_branchGroups_solid less consume 0 0)
  have won : winner? other.slots = winner? scanner.slots :=
    funext (winner?_branchSlots_append same 0)
  have ahead : ∀ position thread, scanner.expr.matchAt? position = some thread →
      position.Ahead thread.position :=
    fun _ _ matched => (countsForEarliest_of_matchAt? matched).2.1
  have blanks : ∀ position thread, scanner.expr.matchAt? position = some thread →
      BlankIfEmpty scanner.slots ⟨position, thread⟩ :=
    fun _ _ => blankIfEmpty_of_branches white consume
  rw [scanner.expr.find?_eq_searchWith, other.expr.find?_eq_searchWith, fewer,
    scanner.scanFound_solidAt? ahead blanks]
  rw [scanFound, scanFound, winners, winners, won]

/-! ## Scanners that are made -/

/-- A definition has one meaning. -/
theorem Branch.definition_injective : Function.Injective Branch.definition := by
  rintro ⟨definition, body, expr, parsed, after, means⟩
    ⟨_, body', expr', parsed', after', means'⟩ rfl
  cases parsed.symm.trans parsed'
  cases means.symm.trans means'
  rfl

/-- Branches have the patterns that their sources are read as alone. -/
theorem Wraps.bodies_eq {branches : List Branch} {bodies : List Pattern}
    (wraps : Wraps (branches.map Branch.definition) bodies) :
    bodies = branches.map Branch.body := by
  have alone := List.forall₂_map_left_iff.mp wraps.alone
  clear wraps
  induction alone with
  | nil => rfl
  | @cons branch body branches bodies parsed _ induction =>
      rw [List.map_cons, induction, Except.ok.inj (parsed.symm.trans branch.parsed)]

/-- Valid definitions are those of branches, which have a scanner unless it is too large. -/
theorem Wraps.exists_ofBranches {definitions : List Definition} {bodies : List Pattern}
    (wraps : Wraps definitions bodies) (valid : ∀ given ∈ definitions, given.Valid) :
    ∃ branches : List Branch, branches.map Branch.definition = definitions ∧
      compile definitions =
        if (ofBranches branches).expr.fits then .ok (ofBranches branches)
        else .error (.invalidPattern mergedName (.oversized Regex.sizeLimit)) := by
  obtain ⟨branches, rfl⟩ := exists_branches_of_valid valid
  cases wraps.bodies_eq
  exact ⟨branches, rfl, wraps.compile_eq⟩

/-- White space of at least one character matches where that of any number does not match the empty
text. -/
theorem matchAt?_run_eq_solidAt? (members : Unicode.CharSet) (position : Position) :
    (Expr.repetition 1 none true (.set members)).matchAt? position =
      solidAt? (Expr.repetition 0 none true (.set members)).matchAt? position := by
  rw [solidAt?, Expr.matchAt?_run, Expr.matchAt?_blankRun, Option.filter_some]
  split
  · rename_i none
    rw [none]
    exact (if_neg (by simp [Thread.offset])).symm
  · rename_i some
    have positive := List.length_pos_iff.mpr some
    have within : (position.rest.takeWhile members.contains).length ≤ position.rest.length :=
      (List.takeWhile_sublist _).length_le
    have long := Text.length_le_byteLength
      (position.rest.take (position.rest.takeWhile members.contains).length)
    rw [List.length_take_of_le within] at long
    refine (if_pos (bne_iff_ne.mpr ?_)).symm
    rw [Thread.offset, Position.offset_advance]
    omega

end Scanner

/-- The pattern of white space of any number of characters. -/
def blankWhitespace : String :=
  "\\s*"

/-- Whether the pattern of a definition never matches the empty text. -/
def Definition.Consumes (definition : Definition) : Prop :=
  ∀ meaning, Expr.ofText definition.source = .ok meaning → ∀ position thread,
    meaning.matchAt? position = some thread → thread.offset ≠ position.offset

/-- The pattern of one text never matches the empty text, unless that is the text. -/
theorem Definition.consumes_literal (name : String) {text : String} (solid : text ≠ "") :
    (Definition.literal name text).Consumes := by
  intro meaning means position thread matched
  cases (Regex.denotes_escapePattern text).ofText_eq.symm.trans means
  rw [Expr.matchAt?_ofWord] at matched
  split at matched
  · rename_i starts
    cases matched
    obtain ⟨after, split⟩ := List.isPrefixOf_iff_prefix.mp starts
    have some : text.toList ≠ [] := fun none => solid (String.toList_eq_nil_iff.mp none)
    have long := Scanner.byteLength_pos some
    rw [Thread.offset, Position.offset_advance, ← split, List.take_left]
    omega
  · cases matched

namespace Scanner

/-- What white space of any number of characters means. -/
theorem ofText_blankWhitespace :
    Expr.ofText blankWhitespace = .ok (.repetition 0 none true (.set Unicode.whiteSpace)) := by
  rfl

/-- What white space of at least one character means. -/
theorem ofText_defaultWhitespace :
    Expr.ofText defaultWhitespace = .ok (.repetition 1 none true (.set Unicode.whiteSpace)) :=
  Regex.denotes_defaultWhitespace.ofText_eq

/-- Definitions and white space are those of branches and one more. -/
theorem Wraps.exists_ofBranches_append {definitions : List Definition} {source : String}
    {bodies : List Pattern} {meaning : Expr}
    (wraps : Wraps (definitions ++ [.whitespace source]) bodies)
    (valid : ∀ given ∈ definitions ++ [.whitespace source], given.Valid)
    (means : Expr.ofText source = .ok meaning) :
    ∃ (branches : List Branch) (last : Branch), branches.map Branch.definition = definitions ∧
      last.definition = .whitespace source ∧ last.expr = meaning ∧
      compile (definitions ++ [.whitespace source]) =
        if (ofBranches (branches ++ [last])).expr.fits then .ok (ofBranches (branches ++ [last]))
        else .error (.invalidPattern mergedName (.oversized Regex.sizeLimit)) := by
  obtain ⟨all, given, compiled⟩ := wraps.exists_ofBranches valid
  obtain ⟨branches, lasts, rfl, rfl, single⟩ := List.map_eq_append_iff.mp given
  obtain ⟨last, rfl, lastly⟩ := List.map_eq_singleton_iff.mp single
  refine ⟨branches, last, rfl, lastly, ?_, compiled⟩
  have alone := last.ofText_eq
  rw [lastly] at alone
  exact Except.ok.inj (alone.symm.trans means)

/-- White space of any number of characters makes the same tokens as that of at least one, if no
definition matches the empty text, and unless just one of the two scanners is too large. -/
theorem bind_scan_blankWhitespace {definitions : List Definition} {bodies bodies' : List Pattern}
    (wraps : Wraps (definitions ++ [.whitespace blankWhitespace]) bodies)
    (wraps' : Wraps (definitions ++ [.whitespace defaultWhitespace]) bodies')
    (valid : ∀ given ∈ definitions ++ [.whitespace blankWhitespace], given.Valid)
    (valid' : ∀ given ∈ definitions ++ [.whitespace defaultWhitespace], given.Valid)
    (consume : ∀ definition ∈ definitions, definition.Consumes)
    (alike : (compile (definitions ++ [.whitespace blankWhitespace])).isOk =
      (compile (definitions ++ [.whitespace defaultWhitespace])).isOk)
    (keepWhitespace : Bool) (handler : UnknownHandler) (input : String) :
    ((compile (definitions ++ [.whitespace blankWhitespace])).bind fun scanner =>
        scanner.scan keepWhitespace handler input) =
      (compile (definitions ++ [.whitespace defaultWhitespace])).bind fun scanner =>
        scanner.scan keepWhitespace handler input := by
  obtain ⟨branches, blank, rfl, named, means, compiled⟩ :=
    wraps.exists_ofBranches_append valid ofText_blankWhitespace
  obtain ⟨others, solid, same, named', means', compiled'⟩ :=
    wraps'.exists_ofBranches_append valid' ofText_defaultWhitespace
  cases Branch.definition_injective.list_map same
  have white : blank.definition.isWhitespace = true := by
    rw [named]
    rfl
  have cut : (ofBranches (branches ++ [blank])).scan keepWhitespace handler input =
      (ofBranches (branches ++ [solid])).scan keepWhitespace handler input := by
    refine scanFound_ofBranches white ?_ ?_ ?_ keepWhitespace handler input
    · rw [named, named']
      rfl
    · intro shift position
      rw [means, means']
      exact matchAt?_run_eq_solidAt? Unicode.whiteSpace position
    · intro branch member
      exact consume _ (List.mem_map_of_mem member) branch.expr branch.ofText_eq
  -- Where both scanners are too large the errors are the same.
  rw [compiled, compiled'] at alike ⊢
  cases fits : (ofBranches (branches ++ [blank])).expr.fits <;>
    cases fits' : (ofBranches (branches ++ [solid])).expr.fits <;> rw [fits, fits'] at alike
  · rfl
  · cases alike
  · cases alike
  · exact cut

end Scanner

namespace Tokenizer

/-- **An empty match of white space is as if it were not there.** Whatever the definitions match, if
the last one is white space and no other matches the empty text, each text has the same tokens, or
the same error, as if white space did not match the empty text either. So tokenizers whose white
space is any number of characters, or at least one, and which have the same other definitions, none
of which matches the empty text, cut every text alike. Only the size of a scanner could tell them
apart. -/
theorem scan_eq_of_blank_whitespace :
    (∀ {m : Type → Type} [Monad m] [MonadExceptOf TokenizerError m] (oracle : Oracle)
      (scanner : Scanner) (others : List (Nat × Definition)) (group : Nat)
      (whitespace : Definition),
      scanner.slots = others ++ [(group, whitespace)] → whitespace.isWhitespace = true →
        (∀ slot ∈ others, oracle.Consumes slot.1) → ∀ (keepWhitespace : Bool)
          (handler : String → String → Nat → m Token) (input : String),
          scanner.scanFound keepWhitespace handler input
              (matchesIn (searchWith (oracle.matchAt? scanner.slots)) input.toList) =
            scanner.scanFound keepWhitespace handler input
              (matchesIn (searchWith ((oracle.withoutEmpty group).matchAt? scanner.slots))
                input.toList)) ∧
    ∀ (blank solid : Tokenizer) (definitions : List Definition) (bodies bodies' : List Pattern),
      blank.Sound → solid.Sound →
        blank.effectiveDefinitions = definitions ++ [.whitespace blankWhitespace] →
          solid.effectiveDefinitions = definitions ++ [.whitespace defaultWhitespace] →
            blank.keepWhitespace = solid.keepWhitespace → blank.onUnknown = solid.onUnknown →
              (∀ definition ∈ definitions, definition.Consumes) →
                Scanner.Wraps blank.effectiveDefinitions bodies →
                  Scanner.Wraps solid.effectiveDefinitions bodies' →
                    blank.prepare.isOk = solid.prepare.isOk →
                      ∀ input, (blank.scan input).1 = (solid.scan input).1 := by
  constructor
  · intro m _ _ oracle scanner others group whitespace last white solid keepWhitespace handler input
    exact oracle.scanFound_withoutEmpty last white solid keepWhitespace handler input
  · intro blank solid definitions bodies bodies' sound sound' effective effective' sameKeep
      sameHandler consume wraps wraps' alike input
    have valid := sound.valid_of_effective
    have valid' := sound'.valid_of_effective
    rw [sound.prepare_eq, sound'.prepare_eq] at alike
    rw [sound.scan_fst, sound'.scan_fst, sameKeep, sameHandler]
    rw [effective] at wraps valid alike ⊢
    rw [effective'] at wraps' valid' alike ⊢
    exact Scanner.bind_scan_blankWhitespace wraps wraps' valid valid' consume alike _ _ input

/-- White space of any number of characters around a letter and between unknown ones. -/
theorem scan_eq_of_blank_whitespace_letters :
    let blank : Tokenizer := ⟨[.keyword "a"], blankWhitespace, false, keepUnknown, none⟩
    let solid : Tokenizer := ⟨[.keyword "a"], defaultWhitespace, false, keepUnknown, none⟩
    (blank.scan "ab a?").1 = (solid.scan "ab a?").1 ∧ (blank.scan "ab a?").1.toOption =
      some [⟨"a", "a", 0⟩, ⟨unknownName, "b", 1⟩, ⟨"a", "a", 3⟩, ⟨unknownName, "?", 4⟩] := by
  intro blank solid
  let letter : Pattern := .literal ⟨'a', false⟩
  let space (min : Nat) : Pattern := .repetition min none false (.shorthand .space false)
  have soundBlank : blank.Sound := ⟨by decide +kernel, by decide, by decide +kernel, nofun⟩
  have soundSolid : solid.Sound := ⟨by decide +kernel, by decide, by decide +kernel, nofun⟩
  have mergedBlank : Scanner.mergedSource blank.effectiveDefinitions =
      "(?P<descent_d0>a)|(?P<descent_d1>\\s*)" := by decide +kernel
  have mergedSolid : Scanner.mergedSource solid.effectiveDefinitions =
      "(?P<descent_d0>a)|(?P<descent_d1>\\s+)" := by decide +kernel
  have aloneBlank : Pattern.parse blankWhitespace.toList = .ok (space 0) := by rfl
  have aloneSolid : Pattern.parse defaultWhitespace.toList = .ok (space 1) := by rfl
  have wrapsBlank : Scanner.Wraps blank.effectiveDefinitions [letter, space 0] :=
    ⟨.cons rfl (.cons aloneBlank .nil), by rw [mergedBlank]; rfl⟩
  have wrapsSolid : Scanner.Wraps solid.effectiveDefinitions [letter, space 1] :=
    ⟨.cons rfl (.cons aloneSolid .nil), by rw [mergedSolid]; rfl⟩
  have consume : ∀ definition ∈ [Definition.keyword "a"], definition.Consumes := by
    intro definition member
    cases List.mem_singleton.mp member
    exact Definition.consumes_literal "a" (by decide)
  exact ⟨scan_eq_of_blank_whitespace.2 blank solid [.keyword "a"] _ _ soundBlank soundSolid rfl rfl
    rfl rfl consume wrapsBlank wrapsSolid (by decide +kernel) "ab a?", by decide +kernel⟩

end Tokenizer

end TokenGrammar
