import TokenGrammar.Proofs.Grammar.Termination

/-! # Lists of lists

A grammar that refers to itself: a value is the letter `x`, or any number of values in brackets,
which become the children of a node. It matches a beginning of the tokens that spells a tree, and
there is one such beginning at most.

* `NestedList.Tree`, `NestedList.Tree.spelling`: trees, and the names of tokens that spell them.
* `NestedList.Tree.built`: the elements that are built of such tokens.
* `NestedList.spelling_append_inj`: tokens start with one tree at most.
* `NestedList.reads_value_of_spelling`: the grammar makes of a tree what it should.
* `NestedList.reads_fail_iff`: the grammar makes nothing of anything else.
* `NestedList.matched_of_spelling`, `NestedList.failed_of_no_spelling`: what a run makes of either.
* `NestedList.run_value`: the runs of the grammar match trees and nothing else. -/

namespace TokenGrammar.NestedList

open Grammar (Reads)

/-! ## The grammar -/

/-- Values in brackets. -/
def list : Grammar :=
  .all [.eat "[", .many (.rule "value"), .eat "]"]

/-- A list as a node, or a letter. -/
def value : Grammar :=
  .choice [.node "list" 0 list [], .token "x"]

/-- The one rule. -/
def rules : Rules :=
  [("value", value)]

/-- The rule is built from combinators, and what it goes on from after a failure rolls back. -/
theorem rules_peg : rules.Peg := by
  have rollsBackRule : (Grammar.rule "value").RollsBack := .rule fun _ found => nomatch found
  have rollBack : ∀ alternative ∈ [Grammar.node "list" 0 list [], .token "x"],
      alternative.RollsBack := by
    intro alternative member
    rcases List.mem_cons.mp member with rfl | member
    · exact .node ..
    · rw [List.mem_singleton.mp member]
      exact .primitive trivial
  have tidyList : list.Throughout Grammar.Tidy :=
    ⟨trivial, trivial, ⟨rollsBackRule, trivial⟩, trivial, trivial⟩
  intro entry member
  rw [List.mem_singleton.mp member]
  refine ⟨?_, ⟨rollBack, ⟨rfl, tidyList⟩, trivial, trivial⟩, .choice rollBack⟩
  simp [value, list, Grammar.Combinator, Grammar.CombinatorAll]

/-- So is a reference to it. -/
theorem reference_peg : (Grammar.rule "value").Peg :=
  ⟨trivial, trivial, .rule fun _ found => nomatch found⟩

/-- A bracket must be consumed before the rule refers to itself. -/
theorem rules_guarded : rules.Guarded fun _ => 0 := by
  intro entry member
  rw [List.mem_singleton.mp member]
  exact ⟨⟨trivial, .inl (.eat "[")⟩, trivial, trivial⟩

/-! ## Trees -/

/-- A letter, or a list of such trees. -/
inductive Tree where
  /-- A letter. -/
  | letter
  /-- A list. -/
  | list (trees : List Tree)

mutual

/-- The names of the tokens that spell a tree. -/
def Tree.spelling : Tree → List String
  | .letter => ["x"]
  | .list trees => "[" :: (spellingAll trees ++ ["]"])

/-- The names of the tokens that spell trees, one after the other. -/
def spellingAll : List Tree → List String
  | [] => []
  | tree :: trees => tree.spelling ++ spellingAll trees

end

mutual

/-- The elements that are built of tokens that start with a tree: of a letter its token, and of a
list one node around what is built of its trees, or nothing if that is nothing. -/
def Tree.built : Tree → List Token → List Element
  | .letter, tokens => (tokens.take 1).map .leaf
  | .list trees, tokens =>
      match builtAll trees (tokens.drop 1) with
      | [] => []
      | child :: children => [.node "list" (child :: children)]

/-- The elements that are built of tokens that start with trees, one after the other. -/
def builtAll : List Tree → List Token → List Element
  | [], _ => []
  | tree :: trees, tokens =>
      tree.built tokens ++ builtAll trees (tokens.drop tree.spelling.length)

end

/-- A list is spelled with brackets around its trees. -/
theorem spelling_list_append (trees : List Tree) (rest : List String) :
    (Tree.list trees).spelling ++ rest = "[" :: (spellingAll trees ++ "]" :: rest) := by
  simp [Tree.spelling]

/-- The first of some trees is spelled first. -/
theorem spellingAll_cons_append (tree : Tree) (trees : List Tree) (rest : List String) :
    spellingAll (tree :: trees) ++ rest = tree.spelling ++ (spellingAll trees ++ rest) := by
  simp [spellingAll]

/-- A tree takes one token at least. -/
theorem length_spelling_pos (tree : Tree) : 0 < tree.spelling.length := by
  cases tree with
  | letter => exact Nat.one_pos
  | list trees => exact Nat.succ_pos _

/-- No tree starts with the bracket that closes a list. -/
theorem spelling_append_ne (tree : Tree) (rest other : List String) :
    tree.spelling ++ rest ≠ "]" :: other := by
  cases tree with
  | letter => simp [Tree.spelling]
  | list trees => simp [spelling_list_append]

mutual

/-- **Tokens start with one tree at most.** -/
theorem spelling_append_inj : (left right : Tree) → ∀ rest other : List String,
    left.spelling ++ rest = right.spelling ++ other → left = right ∧ rest = other
  | .letter, .letter, _, _, same => ⟨rfl, (List.cons.inj same).2⟩
  | .letter, .list trees, _, _, same => absurd (List.cons.inj same).1 (by decide)
  | .list trees, .letter, _, _, same => absurd (List.cons.inj same).1 (by decide)
  | .list lefts, .list rights, rest, other, same => by
      rw [spelling_list_append, spelling_list_append] at same
      obtain ⟨trees, rests⟩ :=
        spellingAll_append_inj lefts rights rest other (List.cons.inj same).2
      exact ⟨congrArg Tree.list trees, rests⟩

/-- Tokens start with the trees of one list at most, up to the bracket that closes it. -/
theorem spellingAll_append_inj : (lefts rights : List Tree) → ∀ rest other : List String,
    spellingAll lefts ++ "]" :: rest = spellingAll rights ++ "]" :: other →
      lefts = rights ∧ rest = other
  | [], [], _, _, same => ⟨rfl, (List.cons.inj same).2⟩
  | [], right :: rights, _, _, same => by
      rw [spellingAll_cons_append] at same
      exact absurd same.symm (spelling_append_ne right _ _)
  | left :: lefts, [], _, _, same => by
      rw [spellingAll_cons_append] at same
      exact absurd same (spelling_append_ne left _ _)
  | left :: lefts, right :: rights, rest, other, same => by
      rw [spellingAll_cons_append, spellingAll_cons_append] at same
      obtain ⟨heads, following⟩ := spelling_append_inj left right _ _ same
      obtain ⟨tails, rests⟩ := spellingAll_append_inj lefts rights rest other following
      exact ⟨by rw [heads, tails], rests⟩

end

/-! ## Names of tokens -/

/-- The names of the tokens from a place on. -/
def namesFrom (tokens : List Token) (start : Nat) : List String :=
  (tokens.drop start).map Token.name

variable {tokens : List Token} {start : Nat} {name : String} {names : List String}

/-- After some of the tokens the names of the others follow. -/
theorem namesFrom_add {front : List String} (ahead : namesFrom tokens start = front ++ names) :
    namesFrom tokens (start + front.length) = names := by
  rw [namesFrom, ← List.drop_drop, List.map_drop]
  rw [namesFrom] at ahead
  rw [ahead, List.drop_left]

/-- After the first token they follow too. -/
theorem namesFrom_succ (ahead : namesFrom tokens start = name :: names) :
    namesFrom tokens (start + 1) = names :=
  namesFrom_add (show namesFrom tokens start = [name] ++ names from ahead)

/-- The token that has the first name. -/
theorem exists_token (ahead : namesFrom tokens start = name :: names) :
    ∃ token, tokens[start]? = some token ∧ token.name = name ∧
      tokens.drop start = token :: tokens.drop (start + 1) := by
  obtain ⟨token, others, cut, rfl, -⟩ := List.map_eq_cons_iff.mp ahead
  have found : tokens[start]? = some token := by
    rw [← List.head?_drop, cut]
    rfl
  refine ⟨token, found, rfl, ?_⟩
  rw [← List.tail_drop, cut]
  rfl

/-- Without a first name there is no token. -/
theorem getElem?_eq_none (ahead : namesFrom tokens start = []) : tokens[start]? = none := by
  rw [← List.head?_drop, List.map_eq_nil_iff.mp ahead]
  rfl

/-- What a token of the first name is accepted for. -/
theorem ofToken_of_head (ahead : namesFrom tokens start = name :: names)
    (accepted : Token → Reading) :
    ∃ token, tokens[start]? = some token ∧
      Reading.ofToken tokens start (·.name == name) accepted = accepted token := by
  obtain ⟨token, found, named, -⟩ := exists_token ahead
  refine ⟨token, found, ?_⟩
  simp [Reading.ofToken, found, named]

/-- Nothing is made of a token that has not the first name. -/
theorem ofToken_of_other (other : (namesFrom tokens start).head? ≠ some name)
    (accepted : Token → Reading) :
    Reading.ofToken tokens start (·.name == name) accepted = .fail := by
  cases ahead : namesFrom tokens start with
  | nil => simp [Reading.ofToken, getElem?_eq_none ahead]
  | cons first names =>
      obtain ⟨token, found, named, -⟩ := exists_token ahead
      rw [ahead] at other
      have differ : token.name ≠ name := fun same => other (congrArg some (named.symm.trans same))
      simp [Reading.ofToken, found, differ]

/-- A token of the first name is dropped. -/
theorem reads_eat (ahead : namesFrom tokens start = name :: names) :
    (Grammar.eat name).Reads rules tokens start (.upTo (start + 1) []) := by
  have reads : (Grammar.eat name).Reads rules tokens start
      (.ofToken tokens start (·.name == name) fun _ => .upTo (start + 1) []) := .eat name start
  obtain ⟨token, -, reading⟩ := ofToken_of_head ahead fun _ => .upTo (start + 1) []
  rwa [reading] at reads

/-- A token of another name is not. -/
theorem reads_eat_fail (other : (namesFrom tokens start).head? ≠ some name) :
    (Grammar.eat name).Reads rules tokens start .fail := by
  have reads : (Grammar.eat name).Reads rules tokens start
      (.ofToken tokens start (·.name == name) fun _ => .upTo (start + 1) []) := .eat name start
  rwa [ofToken_of_other other] at reads

/-! ## What is made of a tree -/

/-- Where no list is found and no letter is next there is no value. -/
theorem reads_value_fail (noList : list.Reads rules tokens start .fail)
    (noLetter : (namesFrom tokens start).head? ≠ some "x") :
    (Grammar.rule "value").Reads rules tokens start .fail := by
  have letter : (Grammar.token "x").Reads rules tokens start
      (.ofToken tokens start (·.name == "x") fun token => .upTo (start + 1) [.leaf token]) :=
    .token "x" start
  rw [ofToken_of_other noLetter] at letter
  exact .rule rfl (.choiceLater (.node noList "list" 0) (.choiceLater letter (.choiceNil start)))

/-- Without a bracket there is no list. -/
theorem reads_list_fail (noBracket : (namesFrom tokens start).head? ≠ some "[") :
    list.Reads rules tokens start .fail :=
  .allStop (reads_eat_fail noBracket) trivial _

/-- There is no value before the bracket that closes a list. -/
theorem reads_value_fail_of_closing (ahead : namesFrom tokens start = "]" :: names) :
    (Grammar.rule "value").Reads rules tokens start .fail := by
  have noBracket : (namesFrom tokens start).head? ≠ some "[" := by
    simp [ahead]
  have noLetter : (namesFrom tokens start).head? ≠ some "x" := by
    simp [ahead]
  exact reads_value_fail (reads_list_fail noBracket) noLetter

/-- A letter is kept. -/
theorem reads_value_letter (ahead : namesFrom tokens start = "x" :: names) :
    (Grammar.rule "value").Reads rules tokens start
      (.upTo (start + 1) (Tree.letter.built (tokens.drop start))) := by
  have noBracket : (namesFrom tokens start).head? ≠ some "[" := by
    simp [ahead]
  obtain ⟨token, -, -, cut⟩ := exists_token ahead
  have letter : (Grammar.token "x").Reads rules tokens start
      (.ofToken tokens start (·.name == "x") fun token => .upTo (start + 1) [.leaf token]) :=
    .token "x" start
  obtain ⟨found, isNext, reading⟩ :=
    ofToken_of_head ahead fun token => .upTo (start + 1) [.leaf token]
  rw [reading] at letter
  have first : (tokens.drop start).take 1 = [found] := by
    rw [← List.head?_drop, cut] at isNext
    rw [cut, Option.some.inj isNext]
    rfl
  rw [Tree.built, first]
  exact .rule rfl (.choiceLater (.node (reads_list_fail noBracket) "list" 0)
    (.choiceFirst letter nofun []))

/-- A list of what the repetition makes of the tokens between brackets is a node, unless it is
empty. -/
theorem reads_value_list {stop : Nat} {trees : List Tree}
    (opens : namesFrom tokens start = "[" :: names)
    (repeats : (Grammar.many (.rule "value")).Reads rules tokens (start + 1)
      (.upTo stop (builtAll trees (tokens.drop (start + 1)))))
    (closes : (Grammar.eat "]").Reads rules tokens stop (.upTo (stop + 1) [])) :
    (Grammar.rule "value").Reads rules tokens start
      (.upTo (stop + 1) ((Tree.list trees).built (tokens.drop start))) := by
  have inner : list.Reads rules tokens start
      (.upTo (stop + 1) (builtAll trees (tokens.drop (start + 1)))) := by
    have parts := Reads.allMore (reads_eat opens)
      (.allMore repeats (.allMore closes (.allNil (stop + 1))))
    simp only [Reading.prepend, List.nil_append, List.append_nil] at parts
    exact parts
  have node := Reads.node inner "list" 0
  have enclosed : (Reading.upTo (stop + 1) (builtAll trees (tokens.drop (start + 1)))).enclose
      "list" 0 = .upTo (stop + 1) ((Tree.list trees).built (tokens.drop start)) := by
    rw [Tree.built, List.drop_drop]
    cases builtAll trees (tokens.drop (start + 1)) <;> rfl
  rw [enclosed] at node
  exact .rule rfl (.choiceFirst node nofun _)

mutual

/-- **The grammar makes of a tree what it should,** whatever follows. -/
theorem reads_value_of_spelling : (tree : Tree) → ∀ start names,
    namesFrom tokens start = tree.spelling ++ names →
      (Grammar.rule "value").Reads rules tokens start
        (.upTo (start + tree.spelling.length) (tree.built (tokens.drop start)))
  | .letter, _, _, ahead => reads_value_letter ahead
  | .list trees, start, names, ahead => by
      have opens : namesFrom tokens start = "[" :: (spellingAll trees ++ "]" :: names) := by
        rw [ahead, spelling_list_append]
      have inside : namesFrom tokens (start + 1) = spellingAll trees ++ "]" :: names :=
        namesFrom_succ opens
      have closing := namesFrom_add inside
      have repeats := reads_many_of_spelling trees (start + 1) _ inside
        (reads_value_fail_of_closing closing)
      have whole := reads_value_list opens repeats (reads_eat closing)
      have length : start + 1 + (spellingAll trees).length + 1 =
          start + (Tree.list trees).spelling.length := by
        simp only [Tree.spelling, List.length_cons, List.length_append, List.length_nil]
        omega
      rwa [length] at whole

/-- The repetition takes one tree after the other, up to where there is no value. -/
theorem reads_many_of_spelling : (trees : List Tree) → ∀ start names,
    namesFrom tokens start = spellingAll trees ++ names →
      (Grammar.rule "value").Reads rules tokens (start + (spellingAll trees).length) .fail →
        (Grammar.many (.rule "value")).Reads rules tokens start
          (.upTo (start + (spellingAll trees).length) (builtAll trees (tokens.drop start)))
  | [], _, _, _, ends => .manyEnd ends
  | tree :: trees, start, names, ahead, ends => by
      have spelled : namesFrom tokens start = tree.spelling ++ (spellingAll trees ++ names) := by
        rw [ahead, spellingAll_cons_append]
      have length : start + tree.spelling.length + (spellingAll trees).length =
          start + (spellingAll (tree :: trees)).length := by
        rw [spellingAll, List.length_append, Nat.add_assoc]
      have moved : start < start + tree.spelling.length :=
        Nat.lt_add_of_pos_right (length_spelling_pos tree)
      have first := reads_value_of_spelling tree start _ spelled
      rw [← length] at ends
      have others := reads_many_of_spelling trees _ names (namesFrom_add spelled) ends
      have whole := Reads.manyMore first moved others
      rw [length, ← List.drop_drop] at whole
      exact whole

end

/-! ## What is made of anything else -/

/-- Whether the tokens from a place on start with a tree. -/
def Spells (tokens : List Token) (start : Nat) : Prop :=
  ∃ tree : Tree, ∃ names, namesFrom tokens start = tree.spelling ++ names

/-- From a place on tokens start with some trees, after which there is no value, if everywhere from
there on they start with a tree or there is no value. -/
theorem exists_spellingAll (start : Nat)
    (each : ∀ place, start ≤ place → Spells tokens place ∨
      (Grammar.rule "value").Reads rules tokens place .fail) :
    ∃ trees names, namesFrom tokens start = spellingAll trees ++ names ∧
      (Grammar.rule "value").Reads rules tokens (start + (spellingAll trees).length) .fail := by
  -- Each tree takes a token, so the tokens that are left bound their number.
  induction left : (namesFrom tokens start).length using Nat.strongRecOn generalizing start with
  | ind left' induction =>
      rcases each start (Nat.le_refl start) with ⟨tree, names, ahead⟩ | fails
      · have following := namesFrom_add ahead
        have fewer : (namesFrom tokens (start + tree.spelling.length)).length < left' := by
          have positive := length_spelling_pos tree
          rw [following, ← left, ahead, List.length_append]
          omega
        obtain ⟨trees, others, spelled, ends⟩ := induction _ fewer _
          (fun place le => each place (Nat.le_trans (Nat.le_add_right _ _) le)) rfl
        refine ⟨tree :: trees, others, ?_, ?_⟩
        · rw [ahead, ← following, spelled, spellingAll_cons_append]
        · rwa [spellingAll, List.length_append, ← Nat.add_assoc]
      · exact ⟨[], namesFrom tokens start, rfl, fails⟩

/-- After a bracket tokens start with a list, or there is no value. -/
theorem spells_or_fails_of_bracket (opens : namesFrom tokens start = "[" :: names)
    (each : ∀ place, start + 1 ≤ place → Spells tokens place ∨
      (Grammar.rule "value").Reads rules tokens place .fail) :
    Spells tokens start ∨ (Grammar.rule "value").Reads rules tokens start .fail := by
  have inside : namesFrom tokens (start + 1) = names := namesFrom_succ opens
  obtain ⟨trees, rest, spelled, ends⟩ := exists_spellingAll (start + 1) each
  have after := namesFrom_add spelled
  by_cases closes : rest.head? = some "]"
  · obtain ⟨others, rfl⟩ := List.head?_eq_some_iff.mp closes
    refine .inl ⟨.list trees, others, ?_⟩
    rw [opens, ← inside, spelled, spelling_list_append]
  · -- The repetition has taken all it can get, so there is no other place for the bracket.
    have repeats := reads_many_of_spelling trees (start + 1) rest spelled ends
    have unclosed := reads_eat_fail (after.symm ▸ closes)
    have noList : list.Reads rules tokens start .fail :=
      .allMore (reads_eat opens) (.allMore repeats (.allStop unclosed trivial []))
    exact .inr (reads_value_fail noList (by simp [opens]))

/-- **The grammar makes nothing of anything else.** Tokens start with a tree or the grammar
fails. -/
theorem spells_or_fails (tokens : List Token) (start : Nat) :
    Spells tokens start ∨ (Grammar.rule "value").Reads rules tokens start .fail := by
  -- A value within brackets starts further on, where fewer tokens are left.
  induction left : (namesFrom tokens start).length using Nat.strongRecOn generalizing start with
  | ind left' induction =>
      by_cases isLetter : (namesFrom tokens start).head? = some "x"
      · obtain ⟨names, ahead⟩ := List.head?_eq_some_iff.mp isLetter
        exact .inl ⟨.letter, names, ahead⟩
      by_cases isBracket : (namesFrom tokens start).head? = some "["
      · obtain ⟨names, opens⟩ := List.head?_eq_some_iff.mp isBracket
        refine spells_or_fails_of_bracket opens fun place le => induction _ ?_ place rfl
        have positive : 0 < (namesFrom tokens start).length := by simp [opens]
        simp only [namesFrom, List.length_map, List.length_drop] at left positive ⊢
        omega
      · exact .inr (reads_value_fail (reads_list_fail isBracket) isLetter)

/-- So the grammar fails just where tokens start with no tree. -/
theorem reads_fail_iff :
    (Grammar.rule "value").Reads rules tokens start .fail ↔ ¬ Spells tokens start := by
  constructor
  · rintro fails ⟨tree, names, ahead⟩
    cases fails.unique (reads_value_of_spelling tree start names ahead)
  · exact (spells_or_fails tokens start).resolve_left

/-! ## Runs -/

variable {before : Session} {allowance : Nat}

/-- Without a token the rule comes to an end at once. -/
theorem isSome_run_of_none (absent : before.state.current? = none) :
    ((Grammar.rule "value").run rules (allowance + 1) before).isSome := by
  have noBracket : (Grammar.eat "[").run rules allowance before = some before.failed := by
    change some (before.step (if before.state.peek "[" then before.state.skip? else none)) = _
    rw [ParseState.peek_of_none absent]
    rfl
  have noList : (list.run rules allowance before).isSome := by
    rw [list, Grammar.run_all, List.map_cons, Parser.all_cons, Parser.andThen_of_failed noBracket]
    rfl
  obtain ⟨middle, ran⟩ := Option.isSome_iff_exists.mp (Parser.isSome_node.trans noList)
  change (value.run rules allowance before).isSome
  rw [value, Grammar.run_choice, List.map_cons, Parser.choice_cons, Grammar.run_node]
  exact Parser.isSome_orElse ran fun _ => Parser.isSome_orElse rfl fun _ => rfl

/-- The calls of the rule nest no deeper than there are tokens left. -/
theorem isSome_run (enough : before.state.tokensLeft < allowance) :
    ((Grammar.rule "value").run rules allowance before).isSome := by
  by_cases within : before.state.cursor ≤ before.state.tokens.length
  · refine Grammar.call_finishes rules_peg.combinators rules_guarded
      (Nat.zero_lt_of_lt enough) within fun body _ => ?_
    simpa [rules, Rules.height] using enough
  · have absent : before.state.current? = none :=
      List.getElem?_eq_none (Nat.le_of_lt (Nat.not_le.mp within))
    obtain ⟨less, rfl⟩ := Nat.exists_eq_add_one.mpr (Nat.zero_lt_of_lt enough)
    exact isSome_run_of_none absent

/-- A finished run does what the grammar makes of the tokens. -/
theorem describes_of_run (uncut : before.state.cut = none) {outcome : Outcome}
    (ran : (Grammar.rule "value").run rules allowance before = some outcome) {reading : Reading}
    (reads : (Grammar.rule "value").Reads rules before.state.tokens before.state.cursor reading) :
    reading.Describes before.state outcome := by
  have faithful := Grammar.run_faithful rules_peg reference_peg.combinator reference_peg.tidy
    allowance
  obtain ⟨other, others, admits⟩ := faithful.reads uncut ran
  rw [reads.unique others]
  exact admits.describes reference_peg.rollsBack

/-- A finished run matches a tree that is spelled ahead, and builds what it should of it. -/
theorem matched_of_spelling (uncut : before.state.cut = none) {outcome : Outcome}
    (ran : (Grammar.rule "value").run rules allowance before = some outcome) {tree : Tree}
    (spelled : tree.spelling <+: namesFrom before.state.tokens before.state.cursor) :
    outcome.verdict = .matched ∧ outcome.session.state =
      before.state.further (before.state.cursor + tree.spelling.length)
        (tree.built (before.state.tokens.drop before.state.cursor)) := by
  obtain ⟨rest, ahead⟩ := spelled
  exact describes_of_run uncut ran (reads_value_of_spelling tree _ rest ahead.symm)

/-- A finished run fails where no tree is spelled ahead, and leaves the state as it was. -/
theorem failed_of_no_spelling (uncut : before.state.cut = none) {outcome : Outcome}
    (ran : (Grammar.rule "value").run rules allowance before = some outcome)
    (noTree : ¬ ∃ tree : Tree,
      tree.spelling <+: namesFrom before.state.tokens before.state.cursor) :
    outcome.verdict = .failed ∧ outcome.session.state = before.state := by
  have fails : (Grammar.rule "value").Reads rules before.state.tokens before.state.cursor
      .fail := by
    rw [reads_fail_iff]
    rintro ⟨tree, rest, ahead⟩
    exact noTree ⟨tree, rest, ahead.symm⟩
  exact describes_of_run uncut ran fails

/-- **The grammar matches trees and nothing else.** From a state without a mark of a cut, a run with
an allowance greater than the number of tokens left comes to an end, and any run that does so
matches just if the names of the tokens ahead start with those that spell a tree. There is one such
tree at most. The run moves the cursor past its tokens, adds just what is built of them to the stack
and changes nothing else. A run that does not match fails, and leaves the state as it was. -/
theorem run_value (uncut : before.state.cut = none) :
    let ahead := before.state.tokens.drop before.state.cursor
    let names := ahead.map Token.name
    (∀ left right : Tree, left.spelling <+: names → right.spelling <+: names → left = right) ∧
      (∀ allowance, before.state.tokensLeft < allowance →
        ((Grammar.rule "value").run rules allowance before).isSome) ∧
      ∀ allowance outcome, (Grammar.rule "value").run rules allowance before = some outcome →
        (outcome.verdict = .matched ↔ ∃ tree : Tree, tree.spelling <+: names) ∧
          (∀ tree : Tree, tree.spelling <+: names → outcome.session.state = { before.state with
            cursor := before.state.cursor + tree.spelling.length
            stack := before.state.stack ++ tree.built ahead }) ∧
          (outcome.verdict ≠ .matched →
            outcome.verdict = .failed ∧ outcome.session.state = before.state) ∧
          ∀ error, outcome.verdict ≠ .aborted error := by
  intro ahead names
  refine ⟨?_, fun _ => isSome_run, ?_⟩
  · rintro left right ⟨rest, spelled⟩ ⟨other, spelledToo⟩
    exact (spelling_append_inj left right rest other (spelled.trans spelledToo.symm)).1
  · intro allowance outcome ran
    by_cases spells : ∃ tree : Tree, tree.spelling <+: names
    · obtain ⟨tree, spelled⟩ := spells
      have matched : outcome.verdict = .matched := (matched_of_spelling uncut ran spelled).1
      refine ⟨iff_of_true matched ⟨tree, spelled⟩, ?_, fun unmatched => absurd matched unmatched,
        ?_⟩
      · intro other others
        exact (matched_of_spelling uncut ran others).2
      · intro error aborted
        cases matched.symm.trans aborted
    · have failed := failed_of_no_spelling uncut ran spells
      have unmatched : outcome.verdict ≠ .matched := by
        rw [failed.1]
        exact nofun
      refine ⟨iff_of_false unmatched spells, ?_, fun _ => failed, ?_⟩
      · intro tree spelled
        exact absurd ⟨tree, spelled⟩ spells
      · intro error aborted
        cases failed.1.symm.trans aborted

/-- A list with an empty list and another list in it, between a token that came before and a
bracket that belongs to nothing. -/
theorem run_value_nested :
    let tokens : List Token := ["z", "[", "x", "[", "]", "[", "x", "x", "]", "]", "]"].map
      fun name => ⟨name, name, 0⟩
    let letter : Element := .leaf ⟨"x", "x", 0⟩
    let tree : Tree := .list [.letter, .list [], .list [.letter, .letter]]
    let before : Session := .ofState ⟨tokens, 1, [.leaf ⟨"z", "z", 0⟩], none⟩
    before.state.cut = none ∧
      tree.spelling = ["[", "x", "[", "]", "[", "x", "x", "]", "]"] ∧
      ∃ outcome, (Grammar.rule "value").run rules 11 before = some outcome ∧
        outcome.verdict = .matched ∧ outcome.session.state = ⟨tokens, 10,
          [.leaf ⟨"z", "z", 0⟩, .node "list" [letter, .node "list" [letter, letter]]], none⟩ := by
  intro tokens letter tree before
  obtain ⟨-, finishes, described⟩ := run_value (rfl : before.state.cut = none)
  obtain ⟨outcome, ran⟩ := Option.isSome_iff_exists.mp (finishes 11 (by decide))
  obtain ⟨matched, further, -⟩ := described 11 outcome ran
  have spelled : tree.spelling <+:
      (before.state.tokens.drop before.state.cursor).map Token.name := by decide
  exact ⟨rfl, rfl, outcome, ran, matched.mpr ⟨tree, spelled⟩, further tree spelled⟩

end TokenGrammar.NestedList
