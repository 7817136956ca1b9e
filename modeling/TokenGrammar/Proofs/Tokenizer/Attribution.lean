import TokenGrammar.Proofs.Pairing
import TokenGrammar.Proofs.Regex.Correspondence
import TokenGrammar.Proofs.Regex.KeptGroups
import TokenGrammar.Proofs.Tokenizer.Merging

/-! # The definition that a match counts for

Sources may have any groups of their own. Each source is in a group of the merged pattern, its own
groups are numbered after that one, and no other group has the name of that one. So the slots are
the groups around the sources, and a match counts for the first source that matches where it starts.

* `Scanner.wrappers`: patterns in groups of their own, numbered in the order of the openings.
* `Scanner.Wraps`: the merged source is read as the alternation of these groups.
* `Scanner.Branch`: a definition whose source has a meaning.
* `Scanner.CountsForEarliest`: a match counts for the earliest definition that matches there.
* `Scanner.compile_of_wraps`: so it is for every match of a scanner that is made.
* `Scanner.scan_of_wraps`: a scan cuts a text at the matches of these definitions, all of them. -/

namespace TokenGrammar

open Regex (Expr Found Pattern Position Thread Walk)

namespace Scanner

/-! ## Groups around sources -/

/-- Patterns in groups of their own, after as many groups as given, with the names from an index
on. Groups are numbered in the order of their openings. -/
def wrappers : (captures index : Nat) → List Pattern → List Pattern
  | _, _, [] => []
  | captures, index, body :: bodies =>
      .capture (captures + 1) (some (groupName index)) (body.renumber (captures + 1)) ::
        wrappers (captures + 1 + body.captureCount) (index + 1) bodies

/-- The numbers of these groups. -/
def wrapperNumbers : (captures : Nat) → List Pattern → List Nat
  | _, [] => []
  | captures, body :: bodies =>
      (captures + 1) :: wrapperNumbers (captures + 1 + body.captureCount) bodies

/-- The merged source of some definitions is read as the alternation of groups around what the
source of each is read as alone. It is not if a source ends within a comment, for example, or has a
bracket that closes the group around it. -/
structure Wraps (definitions : List Definition) (bodies : List Pattern) : Prop where
  /-- What each source is read as alone. -/
  alone : List.Forall₂ (fun definition body => Pattern.parse definition.source.toList = .ok body)
    definitions bodies
  /-- What the merged source is read as. -/
  merged : Pattern.parse (mergedSource definitions).toList = .ok (alternation (wrappers 0 0 bodies))

/-- The groups come after those that are there. -/
theorem lt_of_mem_wrapperNumbers {captures number : Nat} {bodies : List Pattern}
    (member : number ∈ wrapperNumbers captures bodies) : captures < number := by
  induction bodies generalizing captures with
  | nil => cases member
  | cons body bodies induction =>
      rcases List.mem_cons.mp member with rfl | later
      · exact Nat.lt_succ_self captures
      · have after := induction later
        omega

/-- Their numbers increase. -/
theorem pairwise_wrapperNumbers (captures : Nat) (bodies : List Pattern) :
    (wrapperNumbers captures bodies).Pairwise (· < ·) := by
  induction bodies generalizing captures with
  | nil => exact .nil
  | cons body bodies induction =>
      refine .cons (fun number later => ?_) (induction _)
      exact Nat.lt_of_le_of_lt (Nat.le_add_right _ _) (lt_of_mem_wrapperNumbers later)

/-- There are as many as there are patterns. -/
theorem length_wrapperNumbers (captures : Nat) (bodies : List Pattern) :
    (wrapperNumbers captures bodies).length = bodies.length := by
  induction bodies generalizing captures with
  | nil => rfl
  | cons body bodies induction => exact congrArg (· + 1) (induction _)

/-- Alternatives have the names that each of them has. -/
theorem names_alternation (patterns : List Pattern) :
    (alternation patterns).names = Pattern.namesOfAll patterns := by
  match patterns with
  | [] => rfl
  | [_] => exact (List.append_nil _).symm
  | _ :: _ :: _ => rfl

/-! ## Branches -/

/-- A definition whose source has a meaning. -/
structure Branch where
  /-- The definition. -/
  definition : Definition
  /-- What its source is read as. -/
  body : Pattern
  /-- What its source means. -/
  expr : Expr
  /-- The source is read as that. -/
  parsed : Pattern.parse definition.source.toList = .ok body
  /-- What it is read as means that. -/
  means : ∃ after, body.elaborateWith .initial = .ok (expr, after)

/-- What the source of a branch means. -/
theorem Branch.ofText_eq (branch : Branch) :
    Expr.ofText branch.definition.source = .ok branch.expr := by
  obtain ⟨after, means⟩ := branch.means
  rw [Expr.ofText, branch.parsed]
  refine bind_eq_ok_iff.mpr ⟨branch.body, rfl, ?_⟩
  rw [Pattern.elaborate, means]
  rfl

/-- The slots of branches, after as many groups as given. -/
def branchSlots : (captures : Nat) → List Branch → List (Nat × Definition)
  | _, [] => []
  | captures, branch :: branches =>
      (captures + 1, branch.definition) ::
        branchSlots (captures + 1 + branch.body.captureCount) branches

/-- The groups of branches, after as many groups as given, with the names from an index on. -/
def branchGroups : (captures index : Nat) → List Branch → List Expr
  | _, _, [] => []
  | captures, index, branch :: branches =>
      .capture (captures + 1) (some (groupName index)) (branch.expr.renumber (captures + 1)) ::
        branchGroups (captures + 1 + branch.body.captureCount) (index + 1) branches

/-- The slots are the definitions with the numbers of the groups around them. -/
theorem branchSlots_eq_zip (captures : Nat) (branches : List Branch) :
    branchSlots captures branches =
      (wrapperNumbers captures (branches.map Branch.body)).zip
        (branches.map Branch.definition) := by
  induction branches generalizing captures with
  | nil => rfl
  | cons branch branches induction => exact congrArg _ (induction _)

/-- The groups are groups. -/
theorem isGroup_of_mem_branchGroups {captures index : Nat} {branches : List Branch} {expr : Expr}
    (member : expr ∈ branchGroups captures index branches) : expr.IsGroup := by
  induction branches generalizing captures index with
  | nil => cases member
  | cons branch branches induction =>
      rcases List.mem_cons.mp member with rfl | later
      · exact ⟨_, _, _, rfl⟩
      · exact induction later

/-- Groups around patterns mean groups around what the patterns mean. -/
theorem elaborateAll_wrappers (captures index : Nat) (branches : List Branch) :
    Pattern.elaborateAll .initial (wrappers captures index (branches.map Branch.body)) =
      .ok (branchGroups captures index branches, .initial) := by
  induction branches generalizing captures index with
  | nil => rfl
  | cons branch branches induction =>
      obtain ⟨after, means⟩ := branch.means
      rw [List.map_cons, wrappers, Pattern.elaborateAll, Pattern.elaborateWith,
        Pattern.elaborateWith_renumber, means]
      simp only [Except.map, bind, Except.bind, pure, Except.pure, induction]
      rfl

/-- Definitions in groups that mean something are branches. -/
theorem exists_branches {captures index : Nat} {definitions : List Definition}
    {bodies : List Pattern} {exprs : List Expr} {after : Regex.Flags}
    (alone : List.Forall₂ (fun definition body =>
      Pattern.parse definition.source.toList = .ok body) definitions bodies)
    (each : Pattern.elaborateAll .initial (wrappers captures index bodies) = .ok (exprs, after)) :
    ∃ branches : List Branch, branches.map Branch.definition = definitions ∧
      branches.map Branch.body = bodies := by
  induction alone generalizing captures index exprs after with
  | nil => exact ⟨[], rfl, rfl⟩
  | @cons definition body definitions bodies parsed _ induction =>
      rw [wrappers, Pattern.elaborateAll, Pattern.elaborateWith,
        Pattern.elaborateWith_renumber] at each
      obtain ⟨first, inside, later⟩ := bind_eq_ok_iff.mp each
      obtain ⟨raised, renumbered, done⟩ := bind_eq_ok_iff.mp inside
      cases done
      obtain ⟨⟨expr, flags⟩, means, -⟩ := map_eq_ok_iff.mp renumbered
      obtain ⟨⟨others, after⟩, following, -⟩ := bind_eq_ok_iff.mp later
      obtain ⟨branches, rfl, rfl⟩ := induction following
      exact ⟨⟨definition, body, expr, parsed, flags, means⟩ :: branches, rfl, rfl⟩

/-- Alternatives that mean something mean something each. -/
theorem exists_elaborateAll_of_alternation {patterns : List Pattern} {expr : Expr}
    {flags after : Regex.Flags}
    (means : (alternation patterns).elaborateWith flags = .ok (expr, after)) :
    ∃ exprs after, Pattern.elaborateAll flags patterns = .ok (exprs, after) := by
  match patterns with
  | [] => exact ⟨[], flags, rfl⟩
  | [pattern] =>
      refine ⟨[expr], after, ?_⟩
      rw [Pattern.elaborateAll]
      exact bind_eq_ok_iff.mpr ⟨_, means, rfl⟩
  | first :: second :: patterns =>
      rw [alternation_of_two_le (Nat.le_add_left 2 _), Pattern.elaborateWith] at means
      obtain ⟨⟨exprs, after⟩, each, -⟩ := bind_eq_ok_iff.mp means
      exact ⟨exprs, after, each⟩

/-- Definitions whose merged source has a meaning are branches. -/
theorem Wraps.exists_branches {definitions : List Definition} {bodies : List Pattern} {expr : Expr}
    (wraps : Wraps definitions bodies)
    (accepted : Expr.ofText (mergedSource definitions) = .ok expr) :
    ∃ branches : List Branch, branches.map Branch.definition = definitions ∧
      branches.map Branch.body = bodies := by
  obtain ⟨pattern, parsed, elaborated⟩ := bind_eq_ok_iff.mp accepted
  cases wraps.merged.symm.trans parsed
  obtain ⟨⟨meaning, flags⟩, means, -⟩ := bind_eq_ok_iff.mp elaborated
  obtain ⟨exprs, after, each⟩ := exists_elaborateAll_of_alternation means
  exact Scanner.exists_branches wraps.alone each

/-- The merged source of branches means the choice between their groups. -/
theorem Wraps.ofText_mergedSource {branches : List Branch}
    (wraps : Wraps (branches.map Branch.definition) (branches.map Branch.body)) :
    Expr.ofText (mergedSource (branches.map Branch.definition)) =
      .ok (.ofChoices (branchGroups 0 0 branches)) := by
  have whole : (alternation (wrappers 0 0 (branches.map Branch.body))).elaborateWith .initial =
      .ok (.ofChoices (branchGroups 0 0 branches), .initial) := by
    cases branches with
    | nil => rfl
    | cons branch branches =>
        exact elaborateWith_alternation (List.cons_ne_nil _ _) (elaborateAll_wrappers 0 0 _)
          fun _ => isGroup_of_mem_branchGroups
  rw [Expr.ofText]
  refine bind_eq_ok_iff.mpr ⟨_, wraps.merged, ?_⟩
  rw [Pattern.elaborate, whole]
  rfl

/-! ## Slots -/

/-- The first group of a name is the one that is looked up. -/
theorem groupOfName?_of_append {expr : Expr} {before after : List (Nat × Option String)}
    {number : Nat} {name : String} (whole : expr.groups = before ++ (number, some name) :: after)
    (new : ∀ other, (other, some name) ∉ before) : expr.groupOfName? name = some number := by
  have none : before.find? (·.2 == some name) = none := by
    rw [List.find?_eq_none]
    rintro ⟨other, given⟩ member same
    cases beq_iff_eq.mp same
    exact new other member
  rw [Expr.groupOfName?, whole, List.find?_append, none, Option.none_or, List.find?_cons,
    beq_self_eq_true]
  rfl

/-- The named groups in the group of a branch are those of what its source is read as. -/
theorem Branch.mem_names {branch : Branch} {shift number : Nat} {name : String}
    (member : (number, some name) ∈ (branch.expr.renumber shift).groups) :
    name ∈ branch.body.names := by
  rw [Expr.groups_renumber] at member
  obtain ⟨⟨own, given⟩, inside, same⟩ := List.mem_map.mp member
  cases same
  obtain ⟨after, means⟩ := branch.means
  exact Pattern.mem_names_of_elaborateWith branch.body means inside

/-- Each definition has the slot of its branch, after groups whose names are others, where no two
groups have the same name. -/
theorem slotsFrom_branches {expr : Expr} {before : List (Nat × Option String)}
    {captures index : Nat} {branches : List Branch}
    (whole : expr.groups = before ++ (branchGroups captures index branches).flatMap Expr.groups)
    (distinct : (Pattern.namesOfAll
      (wrappers captures index (branches.map Branch.body))).Nodup)
    (new : ∀ name ∈ Pattern.namesOfAll (wrappers captures index (branches.map Branch.body)),
      ∀ number, (number, some name) ∉ before) :
    slotsFrom expr index (branches.map Branch.definition) =
      .ok (branchSlots captures branches) := by
  induction branches generalizing before captures index with
  | nil => rfl
  | cons branch branches induction =>
      let inside := (branch.expr.renumber (captures + 1)).groups
      rw [branchGroups, List.flatMap_cons, Expr.groups, List.cons_append] at whole
      -- The names are in this order: that of the group, those in its body, and those of the others.
      rw [List.map_cons, wrappers, Pattern.namesOfAll, Pattern.names, Pattern.names_renumber,
        List.append_assoc, Option.toList_some, List.singleton_append] at distinct new
      obtain ⟨first, later⟩ := List.forall_mem_cons.mp new
      obtain ⟨other, distinct⟩ := List.nodup_cons.mp distinct
      obtain ⟨-, distinctLater, apart⟩ := List.nodup_append.mp distinct
      have following : slotsFrom expr (index + 1) (branches.map Branch.definition) =
          .ok (branchSlots (captures + 1 + branch.body.captureCount) branches) := by
        refine @induction (before ++ (captures + 1, some (groupName index)) :: inside) _ _ ?_
          distinctLater ?_
        · rw [whole, List.append_assoc]
          rfl
        · intro name member number taken
          rcases List.mem_append.mp taken with early | here
          · exact later name (List.mem_append_right _ member) number early
          · rcases List.mem_cons.mp here with same | here
            · cases same
              exact other (List.mem_append_right _ member)
            · exact apart name (Branch.mem_names here) name member rfl
      rw [List.map_cons, slotsFrom, groupOfName?_of_append whole first]
      simp only [following]
      rfl

/-- The scanner of some branches. -/
def ofBranches (branches : List Branch) : Scanner :=
  ⟨.ofChoices (branchGroups 0 0 branches), branchSlots 0 branches⟩

/-- Branches have a scanner unless it is too large. -/
theorem Wraps.compile_eq {branches : List Branch}
    (wraps : Wraps (branches.map Branch.definition) (branches.map Branch.body)) :
    compile (branches.map Branch.definition) =
      if (ofBranches branches).expr.fits then .ok (ofBranches branches)
      else .error (.invalidPattern mergedName (.oversized Regex.sizeLimit)) := by
  have distinct := Pattern.nodup_names_of_parse wraps.merged
  rw [names_alternation] at distinct
  have slots : slotsFrom (.ofChoices (branchGroups 0 0 branches)) 0
      (branches.map Branch.definition) = .ok (branchSlots 0 branches) := by
    refine slotsFrom_branches ?_ distinct fun _ _ _ => List.not_mem_nil
    rw [Expr.groups_ofChoices, List.nil_append]
  rw [compile, wraps.ofText_mergedSource]
  simp only [slots]
  rfl

/-! ## Matches -/

/-- A match counts for the definition at an index, the earliest whose own source matches where it
starts. It ends where that source prefers to end. -/
structure CountsForEarliest (definitions : List Definition) (slots : List (Nat × Definition))
    (found : Found) (index : Nat) (definition : Definition) : Prop where
  /-- The definition at the index. -/
  given : definitions[index]? = some definition
  /-- Sources of earlier definitions do not match there. -/
  missed : ∀ other ∈ definitions.take index, ∃ meaning,
    Expr.ofText other.source = .ok meaning ∧ meaning.matchAt? found.start = none
  /-- Its own source prefers to match as far as that. -/
  preferred : ∃ meaning own, Expr.ofText definition.source = .ok meaning ∧
    meaning.matchAt? found.start = some own ∧ own.position = found.stop
  /-- The slots before its own took no part. -/
  skipped : ∀ slot ∈ slots.take index, found.thread.span? slot.1 = none
  /-- Its own slot took part, from the start of the match to its end. -/
  taken : ∃ number, slots[index]? = some (number, definition) ∧
    found.thread.span? number = some found.span
  /-- The match is one of that definition. -/
  won : winner? slots found = some ⟨definition.name, found.span⟩

/-- Groups with higher numbers alone are on record: others recorded nothing. -/
theorem span?_eq_none_of_lt {thread : Thread} {number : Nat}
    (recorded : ∀ entry ∈ thread.captures, number < entry.1) : thread.span? number = none := by
  rw [Thread.span?, List.lookup_eq_none_iff]
  intro entry member
  exact bne_iff_ne.mpr (Nat.ne_of_lt (recorded entry member))

/-- Where the first definition does not match, a later one counts as it does without the first. -/
theorem CountsForEarliest.later {definitions : List Definition} {slots : List (Nat × Definition)}
    {found : Found} {index : Nat} {definition : Definition}
    (counts : CountsForEarliest definitions slots found index definition) (branch : Branch)
    (missed : branch.expr.matchAt? found.start = none) {number : Nat}
    (skipped : found.thread.span? number = none) :
    CountsForEarliest (branch.definition :: definitions) ((number, branch.definition) :: slots)
      found (index + 1) definition where
  given := counts.given
  missed := List.forall_mem_cons.mpr ⟨⟨branch.expr, branch.ofText_eq, missed⟩, counts.missed⟩
  preferred := counts.preferred
  skipped := List.forall_mem_cons.mpr ⟨skipped, counts.skipped⟩
  taken := counts.taken
  won := (winner?_cons_of_none skipped slots).trans counts.won

/-- The group of a branch prefers what its source prefers, to the groups of those after it. -/
theorem matchAt?_branchGroups_cons (captures index : Nat) (branch : Branch)
    (branches : List Branch) (position : Position) :
    (Expr.ofChoices (branchGroups captures index (branch :: branches))).matchAt? position =
      (((branch.expr.renumber (captures + 1)).matchAt? position).map fun next =>
        next.record (captures + 1) position.offset).or
        ((Expr.ofChoices (branchGroups (captures + 1 + branch.body.captureCount) (index + 1)
          branches)).matchAt? position) := by
  rw [branchGroups, Expr.matchAt?_ofChoices_cons, Expr.matchAt?_capture]

/-- A match of the groups counts for the earliest branch that matches, and it is ahead of its start.
Only groups after those that are there take part. -/
theorem countsForEarliest_of_matchAt? {captures index : Nat} {branches : List Branch}
    {position : Position} {thread : Thread}
    (matched : (Expr.ofChoices (branchGroups captures index branches)).matchAt? position =
      some thread) :
    (∀ entry ∈ thread.captures, captures < entry.1) ∧ position.Ahead thread.position ∧
      ∃ place definition, CountsForEarliest (branches.map Branch.definition)
        (branchSlots captures branches) ⟨position, thread⟩ place definition := by
  induction branches generalizing captures index with
  | nil =>
      rw [branchGroups, Expr.matchAt?_ofChoices_nil] at matched
      cases matched
  | cons branch branches induction =>
      have corresponds := Expr.matchAt?_renumber (captures + 1) branch.expr position
      rw [matchAt?_branchGroups_cons] at matched
      generalize (branch.expr.renumber (captures + 1)).matchAt? position = raised
        at corresponds matched
      cases here : branch.expr.matchAt? position with
      | none =>
          rw [here] at corresponds
          cases corresponds
          obtain ⟨recorded, ahead, place, definition, counts⟩ := induction matched
          -- The groups of later branches have higher numbers, so this slot takes no part.
          have skipped : thread.span? (captures + 1) = none :=
            span?_eq_none_of_lt fun entry member =>
              Nat.lt_of_le_of_lt (Nat.le_add_right _ _) (recorded entry member)
          refine ⟨fun entry member => ?_, ahead, place + 1, definition,
            counts.later branch here skipped⟩
          have after := recorded entry member
          omega
      | some own =>
          rw [here] at corresponds
          obtain ⟨corresponds⟩ := corresponds
          cases matched
          -- The group itself is recorded last, around those in the source.
          have reached := corresponds.ahead
          rw [← corresponds.position] at reached
          refine ⟨List.forall_mem_cons.mpr ⟨Nat.lt_succ_self _, corresponds.recorded⟩, reached, 0,
            branch.definition, ?_⟩
          exact
            { given := rfl
              missed := nofun
              preferred := ⟨branch.expr, own, branch.ofText_eq, here, corresponds.position.symm⟩
              skipped := nofun
              taken := ⟨captures + 1, rfl, Thread.span?_record ..⟩
              won := winner?_cons_of_some (Thread.span?_record ..) _ }

/-! ## Sources with groups of their own -/

/-- Definitions with groups in groups, with optional ones, and with names like those of the groups
around the sources. -/
def nestedDefinitions : List Definition :=
  [.regex "pair" "(?P<descent_d7>a)(b)?", .regex "many" "((?<descent_d>c)|a)*d",
    .whitespace "(\\s)+"]

/-- Their slots. -/
def nestedSlots : List (Nat × Definition) :=
  [1, 4, 7].zip nestedDefinitions

/-- What their merged source means. -/
def nestedChoice : Expr :=
  .ofChoices
    [.capture 1 (some "descent_d0")
      (.sequence (.capture 2 (some "descent_d7") (.set (.single 'a')))
        (.repetition 0 (some 1) true (.capture 3 none (.set (.single 'b'))))),
     .capture 4 (some "descent_d1")
      (.sequence
        (.repetition 0 none true (.capture 5 none
          (.alternative (.capture 6 (some "descent_d") (.set (.single 'c'))) (.set (.single 'a')))))
        (.set (.single 'd'))),
     .capture 7 (some "descent_d2")
      (.repetition 1 none true (.capture 8 none (.set Unicode.whiteSpace)))]

/-- The matches in a text, each with the definition that it counts for. -/
theorem matchesIn_nestedChoice :
    (Regex.matchesIn nestedChoice.find? "ab cad".toList).map
        (fun found => (found.span, winner? nestedSlots found)) =
      [(⟨0, 2⟩, some ⟨"pair", ⟨0, 2⟩⟩), (⟨2, 3⟩, some ⟨"whitespace", ⟨2, 3⟩⟩),
        (⟨3, 6⟩, some ⟨"many", ⟨3, 6⟩⟩)] := by
  have size : 'a'.utf8Size = 1 ∧ 'b'.utf8Size = 1 ∧ 'c'.utf8Size = 1 ∧ 'd'.utf8Size = 1 ∧
      ' '.utf8Size = 1 := by decide
  have letter : Unicode.whiteSpace.contains 'a' = false ∧
      Unicode.whiteSpace.contains 'c' = false ∧ Unicode.whiteSpace.contains 'd' = false := by
    decide +kernel
  have blank : Unicode.whiteSpace.contains ' ' = true := by decide +kernel
  -- A walk keeps the places it has been to in a hash set, whose laws are known but which does not
  -- reduce. So it is followed step by step.
  simp [nestedChoice, nestedSlots, nestedDefinitions, Definition.regex, Definition.whitespace,
    whitespaceName, winner?, Regex.matchesIn, Regex.matchesUpTo, Regex.firstFrom, Expr.find?,
    Expr.matchAt?, Expr.matches, Expr.ofChoices, Expr.isDetermined, Expr.consumes, Expr.walkExits,
    Expr.walk, Walk.start, Walk.exit, Walk.visit, Walk.branch, Walk.repetition, Walk.unlimited,
    Walk.anyNumber, Walk.atLeastOnce, Walk.copies, Walk.upTo, Regex.firstOfEach,
    Regex.firstOfEachExcept, Thread.accept?, Thread.past, Thread.record, Thread.offset,
    Thread.span?, Position.start, Position.past, Found.stop, Found.isEmpty, Found.span, size,
    letter, blank]

/-! ## Scanners -/

/-- An expression is the choice between groups around what the sources of some slots mean: groups
with the numbers of the slots, and with the names from an index on. -/
def AroundSources (expr : Expr) (index : Nat) (slots : List (Nat × Definition)) : Prop :=
  ∃ groups, expr = .ofChoices groups ∧
    List.Forall₂ (fun slot group => ∃ meaning, Expr.ofText slot.1.2.source = .ok meaning ∧
      group = .capture slot.1.1 (some (groupName slot.2)) (meaning.renumber slot.1.1))
      (slots.zipIdx index) groups

/-- The groups of branches are around what their sources mean. -/
theorem aroundSources_branches (captures index : Nat) (branches : List Branch) :
    AroundSources (.ofChoices (branchGroups captures index branches)) index
      (branchSlots captures branches) := by
  refine ⟨_, rfl, ?_⟩
  induction branches generalizing captures index with
  | nil => exact .nil
  | cons branch branches induction =>
      rw [branchSlots, List.zipIdx_cons]
      exact .cons ⟨branch.expr, branch.ofText_eq, rfl⟩ (induction _ _)

/-- Every match in a text that is found by a scanner of branches counts for the earliest of them that
matches. -/
theorem exists_countsForEarliest_of_mem {branches : List Branch} {input : List Char}
    {found : Found}
    (member : found ∈ Regex.matchesIn (ofBranches branches).expr.find? input) :
    ∃ index definition, CountsForEarliest (branches.map Branch.definition)
      (ofBranches branches).slots found index definition := by
  obtain ⟨place, there⟩ := Regex.exists_of_mem_matchesUpTo member
  obtain ⟨-, -, counts⟩ := countsForEarliest_of_matchAt? (Regex.at?_of_searchWith there)
  exact counts

/-- **Every match counts for the earliest definition whose own source matches there**, however many
groups the sources have and whatever their names are. If the merged source is read as the
alternation of the groups around the sources and has a meaning that is not too large, there is a
scanner, and its slots are the numbers of these groups, which increase. Each match in a text is one
of the first definition that matches where it starts, and ends where that alone prefers to end. -/
theorem compile_of_wraps {definitions : List Definition} {bodies : List Pattern} {merged : Expr}
    (wraps : Wraps definitions bodies)
    (accepted : Expr.ofText (mergedSource definitions) = .ok merged) (fits : merged.fits = true) :
    let slots := (wrapperNumbers 0 bodies).zip definitions
    compile definitions = .ok ⟨merged, slots⟩ ∧ slots.map Prod.snd = definitions ∧
      (slots.map Prod.fst).Pairwise (· < ·) ∧ AroundSources merged 0 slots ∧
      ∀ input, ∀ found ∈ Regex.matchesIn merged.find? input,
        ∃ index definition, CountsForEarliest definitions slots found index definition := by
  intro slots
  obtain ⟨branches, rfl, rfl⟩ := wraps.exists_branches accepted
  cases accepted.symm.trans wraps.ofText_mergedSource
  have same : branchSlots 0 branches = slots := branchSlots_eq_zip 0 branches
  have length : (wrapperNumbers 0 (branches.map Branch.body)).length =
      (branches.map Branch.definition).length := by
    rw [length_wrapperNumbers, List.length_map, List.length_map]
  refine ⟨?_, List.map_snd_zip (Nat.le_of_eq length.symm), ?_, ?_, ?_⟩
  · rw [wraps.compile_eq, ofBranches, if_pos fits, same]
  · rw [List.map_fst_zip (Nat.le_of_eq length)]
    exact pairwise_wrapperNumbers 0 _
  · exact same ▸ aroundSources_branches 0 0 branches
  · intro input found member
    rw [← same]
    exact exists_countsForEarliest_of_mem member

/-- A text in which each of these definitions has a match. -/
theorem compile_of_wraps_nested :
    ∃ bodies merged, Wraps nestedDefinitions bodies ∧
      Expr.ofText (mergedSource nestedDefinitions) = .ok merged ∧ merged.fits = true ∧
      compile nestedDefinitions = .ok ⟨merged, nestedSlots⟩ ∧
      (Regex.matchesIn merged.find? "ab cad".toList).map
          (fun found => (found.span, winner? nestedSlots found)) =
        [(⟨0, 2⟩, some ⟨"pair", ⟨0, 2⟩⟩), (⟨2, 3⟩, some ⟨"whitespace", ⟨2, 3⟩⟩),
          (⟨3, 6⟩, some ⟨"many", ⟨3, 6⟩⟩)] ∧
      ∀ found ∈ Regex.matchesIn merged.find? "ab cad".toList, ∃ index definition,
        CountsForEarliest nestedDefinitions nestedSlots found index definition := by
  let bodies := nestedDefinitions.map fun definition =>
    (Pattern.parse definition.source.toList).toOption.getD .empty
  have text : mergedSource nestedDefinitions = "(?P<descent_d0>(?P<descent_d7>a)(b)?)|" ++
      "(?P<descent_d1>((?<descent_d>c)|a)*d)|(?P<descent_d2>(\\s)+)" := by decide +kernel
  have read : Pattern.parse (mergedSource nestedDefinitions).toList =
      .ok (alternation (wrappers 0 0 bodies)) := by
    rw [text]
    rfl
  have wraps : Wraps nestedDefinitions bodies := ⟨.cons rfl (.cons rfl (.cons rfl .nil)), read⟩
  have accepted : Expr.ofText (mergedSource nestedDefinitions) = .ok nestedChoice := by
    decide +kernel
  have fits : nestedChoice.fits = true := by decide +kernel
  obtain ⟨compiled, -, -, -, counts⟩ := compile_of_wraps wraps accepted fits
  exact ⟨bodies, nestedChoice, wraps, accepted, fits, compiled, matchesIn_nestedChoice,
    counts "ab cad".toList⟩

/-- A scanner of sources in groups of their own is a scanner of branches. -/
theorem Wraps.eq_ofBranches {definitions : List Definition} {bodies : List Pattern}
    {scanner : Scanner} (wraps : Wraps definitions bodies)
    (compiled : compile definitions = .ok scanner) :
    ∃ branches : List Branch, branches.map Branch.definition = definitions ∧
      scanner = ofBranches branches := by
  obtain ⟨accepted, fits, -⟩ := of_compile_eq_ok compiled
  obtain ⟨branches, rfl, rfl⟩ := wraps.exists_branches accepted
  have same : (ofBranches branches).expr = scanner.expr :=
    Except.ok.inj (wraps.ofText_mergedSource.symm.trans accepted)
  rw [wraps.compile_eq, same, if_pos fits] at compiled
  exact ⟨branches, rfl, (Except.ok.inj compiled).symm⟩

/-- **A scan cuts a text at the matches of the earliest definitions**: each match in the text is a
hit of the earliest definition whose own source matches where it starts, as far as that source
prefers, and there are no other hits. -/
theorem scan_of_wraps {definitions : List Definition} {bodies : List Pattern} {scanner : Scanner}
    (wraps : Wraps definitions bodies) (compiled : compile definitions = .ok scanner)
    (keepWhitespace : Bool) (handler : UnknownHandler) (input : String) :
    ∃ hits, scanner.scan keepWhitespace handler input =
        scanHits keepWhitespace handler input.toList hits ∧
      List.Forall₂ (fun found hit => ∃ index definition,
          CountsForEarliest definitions scanner.slots found index definition ∧
            hit = ⟨definition.name, found.span⟩)
        (Regex.matchesIn scanner.expr.find? input.toList) hits := by
  obtain ⟨branches, rfl, rfl⟩ := wraps.eq_ofBranches compiled
  refine ⟨_, rfl, forall₂_filterMap fun found member => ?_⟩
  obtain ⟨index, definition, counts⟩ := exists_countsForEarliest_of_mem member
  exact ⟨_, counts.won, index, definition, counts, rfl⟩

end Scanner

end TokenGrammar
