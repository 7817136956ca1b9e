import Mathlib.Data.List.Basic
import Mathlib.Data.List.Induction
import TokenGrammar.Proofs.Tokenizer.Cache

/-! # The list of definitions

A tokenizer holds at most one definition of a name. A definition of a new name goes to the end of the
list, one of a known name takes the place of the other one, and one that is refused changes nothing:
so the list is that of the names in the order in which they came up, each with the definition that
was given last.

* `Definition.latestOfEach`: the list said at once, from all definitions that were given.
* `Definition.insertInto_latestOfEach`: one more definition given is one more inserted.
* `Tokenizer.definitions_run`: what operations make of the definitions.
* `Tokenizer.defineAll_of_valid`, `Tokenizer.defineAll_of_refused`: lists of definitions given at
  once.
* `Tokenizer.run_latestOfEach`: all of it together. -/

namespace TokenGrammar

namespace Definition

/-- For each name in the order of its first definition, the last definition of that name. -/
def latestOfEach (definitions : List Definition) : List Definition :=
  (definitions.map name).eraseDups.filterMap fun name => definitions.findRev? (·.name == name)

/-! ## One more definition -/

/-- Definitions by name, with one of them replaced. -/
def replacing (definition : Definition) (find : String → Option Definition) (name : String) :
    Option Definition :=
  if name = definition.name then some definition else find name

/-- The definition that replaces others is found by its name. -/
theorem replacing_of_eq {definition : Definition} {name : String} (same : name = definition.name)
    (find : String → Option Definition) : replacing definition find name = some definition :=
  if_pos same

/-- Definitions of other names are found as before. -/
theorem replacing_of_ne {definition : Definition} {name : String} (other : name ≠ definition.name)
    (find : String → Option Definition) : replacing definition find name = find name :=
  if_neg other

/-- Where a name does not come up its definition is not looked for. -/
theorem filterMap_replacing_of_not_mem {definition : Definition} {names : List String}
    (absent : definition.name ∉ names) (find : String → Option Definition) :
    names.filterMap (replacing definition find) = names.filterMap find := by
  refine List.filterMap_congr fun name member => replacing_of_ne ?_ find
  rintro rfl
  exact absent member

/-- After one more definition it is the last one of its name. -/
theorem findRev?_concat (definitions : List Definition) (definition : Definition) :
    (fun name => (definitions ++ [definition]).findRev? (·.name == name)) =
      replacing definition fun name => definitions.findRev? (·.name == name) := by
  funext name
  rw [List.findRev?_eq_find?_reverse, List.reverse_append, List.reverse_singleton,
    List.singleton_append, List.find?_cons, ← List.findRev?_eq_find?_reverse]
  by_cases same : name = definition.name
  · rw [replacing_of_eq same, same, beq_self_eq_true]
  · have other : (definition.name == name) = false := beq_eq_false_iff_ne.mpr (Ne.symm same)
    rw [replacing_of_ne same, other]

/-- What has a name has a last definition of that name. -/
theorem exists_findRev? {definitions : List Definition} {name : String}
    (member : name ∈ definitions.map Definition.name) :
    ∃ definition, definitions.findRev? (·.name == name) = some definition ∧
      definition.name = name := by
  obtain ⟨known, isKnown, rfl⟩ := List.mem_map.mp member
  rw [List.findRev?_eq_find?_reverse]
  cases found : definitions.reverse.find? (·.name == known.name) with
  | none =>
      have unnamed := List.find?_eq_none.mp found known (List.mem_reverse.mpr isKnown)
      exact absurd (beq_self_eq_true known.name) unnamed
  | some definition =>
      have named := List.find?_some found
      exact ⟨definition, rfl, beq_iff_eq.mp named⟩

/-- Without repetitions no name comes up twice. -/
theorem nodup_eraseDups : (names : List String) → names.eraseDups.Nodup
  | [] => by simp
  | first :: names => by
      have shorter := List.length_filter_le (fun name => !name == first) names
      rw [List.eraseDups_cons, List.nodup_cons]
      refine ⟨?_, nodup_eraseDups _⟩
      intro again
      have kept := (List.mem_filter.mp (List.mem_eraseDups.mp again)).2
      simp at kept
termination_by names => names.length

/-- In a list with one definition of each name an insertion replaces the one of that name. -/
theorem insertInto_filterMap {find : String → Option Definition} {names : List String}
    (named : ∀ name ∈ names, ∃ known, find name = some known ∧ known.name = name)
    (distinct : names.Nodup) {definition : Definition} (member : definition.name ∈ names) :
    definition.insertInto (names.filterMap find) =
      names.filterMap (replacing definition find) := by
  induction names with
  | nil => cases member
  | cons first names induction =>
      obtain ⟨⟨known, found, sameName⟩, others⟩ := List.forall_mem_cons.mp named
      obtain ⟨new, distinctRest⟩ := List.nodup_cons.mp distinct
      rw [List.filterMap_cons_some found]
      by_cases here : first = definition.name
      · -- The name does not come up again, so the rest stays as it is.
        rw [here] at new
        rw [insertInto_cons_of_eq (sameName.trans here),
          List.filterMap_cons_some (replacing_of_eq here find), filterMap_replacing_of_not_mem new]
      · have later := (List.mem_cons.mp member).resolve_left (Ne.symm here)
        have otherName : known.name ≠ definition.name := by rwa [sameName]
        rw [insertInto_cons_of_ne otherName, induction others distinctRest later,
          List.filterMap_cons_some ((replacing_of_ne here find).trans found)]

/-- The names in the list are those of the definitions given. -/
theorem mem_names_latestOfEach {definitions : List Definition} {name : String}
    (member : name ∈ (latestOfEach definitions).map Definition.name) :
    name ∈ definitions.map Definition.name := by
  obtain ⟨last, isLast, rfl⟩ := List.mem_map.mp member
  obtain ⟨name, -, found⟩ := List.mem_filterMap.mp isLast
  rw [List.findRev?_eq_find?_reverse] at found
  exact List.mem_map_of_mem (List.mem_reverse.mp (List.mem_of_find?_eq_some found))

/-- One more definition given is one more inserted. -/
theorem insertInto_latestOfEach (definitions : List Definition) (definition : Definition) :
    definition.insertInto (latestOfEach definitions) =
      latestOfEach (definitions ++ [definition]) := by
  have added : latestOfEach (definitions ++ [definition]) =
      ((definitions.map name).eraseDups ++
          (([definition].map name).removeAll (definitions.map name)).eraseDups).filterMap
        (replacing definition fun name => definitions.findRev? (·.name == name)) := by
    rw [latestOfEach, findRev?_concat, List.map_append, List.eraseDups_append]
  rw [added]
  by_cases known : definition.name ∈ definitions.map name
  · have nothing : ([definition].map name).removeAll (definitions.map name) = [] := by
      simpa [List.removeAll] using known
    rw [nothing, List.eraseDups_nil, List.append_nil]
    exact insertInto_filterMap (fun _ member => exists_findRev? (List.mem_eraseDups.mp member))
      (nodup_eraseDups _) (List.mem_eraseDups.mpr known)
  · have last : ([definition].map name).removeAll (definitions.map name) =
        [definition.name] := by
      simpa [List.removeAll] using known
    have absent : definition.name ∉ (definitions.map name).eraseDups :=
      fun member => known (List.mem_eraseDups.mp member)
    have new : definition.name ∉ (latestOfEach definitions).map name :=
      fun member => known (mem_names_latestOfEach member)
    rw [last, List.eraseDups_cons, List.filter_nil, List.eraseDups_nil, List.filterMap_append,
      filterMap_replacing_of_not_mem absent, insertInto_of_not_mem new,
      List.filterMap_cons_some (replacing_of_eq rfl _), List.filterMap_nil]
    rfl

/-- A list with distinct names is that of its last definitions. -/
theorem latestOfEach_of_nodup {definitions : List Definition}
    (distinct : (definitions.map name).Nodup) : latestOfEach definitions = definitions := by
  induction definitions using List.reverseRecOn with
  | nil => rfl
  | append_singleton definitions definition induction =>
      rw [List.map_append, List.nodup_append] at distinct
      have new : definition.name ∉ definitions.map name := fun member =>
        distinct.2.2 definition.name member definition.name (by simp) rfl
      rw [← insertInto_latestOfEach, induction distinct.1, insertInto_of_not_mem new]

/-! ## What valid definitions are like -/

/-- A valid definition has a name that may be used, and a source that is a pattern of allowed
size. -/
theorem valid_iff {definition : Definition} :
    definition.Valid ↔ definition.name ≠ "" ∧ definition.name ≠ unknownName ∧
      definition.source ≠ "" ∧
        ∃ expr, Regex.Expr.ofText definition.source = .ok expr ∧ expr.fits = true := by
  unfold Valid fault?
  cases Regex.Expr.ofText definition.source <;> grind

/-- A definition is refused with what is wrong with it. -/
theorem validate_eq_error_iff {definition : Definition} {error : TokenizerError} :
    definition.validate = .error error ↔
      ∃ fault, definition.fault? = some fault ∧ error = .invalidPattern definition.name fault := by
  unfold validate
  cases definition.fault? <;> simp [eq_comm]

end Definition

namespace Tokenizer

open Definition (latestOfEach)

/-! ## What operations make of the definitions -/

/-- The definition that an operation gives. -/
def Operation.definition? : Operation → Option Definition
  | .define definition => some definition
  | _ => none

/-- The definitions that operations give and that are not refused. -/
def accepted (operations : List Operation) : List Definition :=
  (operations.filterMap Operation.definition?).filter (·.Valid)

@[simp] theorem accepted_nil : accepted [] = [] := rfl

/-- An operation that gives no definition adds none. -/
theorem accepted_cons_of_none {first : Operation} (none : first.definition? = none)
    (operations : List Operation) : accepted (first :: operations) = accepted operations := by
  rw [accepted, List.filterMap_cons_none none, accepted]

/-- A valid definition comes before those that are given later. -/
theorem accepted_cons_of_valid {first : Operation} {definition : Definition}
    (gives : first.definition? = some definition) (valid : definition.Valid)
    (operations : List Operation) :
    accepted (first :: operations) = definition :: accepted operations := by
  rw [accepted, List.filterMap_cons_some gives, List.filter_cons_of_pos (by simpa), accepted]

/-- A definition that is not valid does not count. -/
theorem accepted_cons_of_not_valid {first : Operation} {definition : Definition}
    (gives : first.definition? = some definition) (invalid : ¬ definition.Valid)
    (operations : List Operation) : accepted (first :: operations) = accepted operations := by
  rw [accepted, List.filterMap_cons_some gives, List.filter_cons_of_neg (by simpa), accepted]

/-- A definition is accepted just if nothing is wrong with it alone. -/
theorem exists_define_eq_ok_iff (tokenizer : Tokenizer) (definition : Definition) :
    (∃ next, tokenizer.define definition = .ok next) ↔ definition.Valid := by
  rw [← Definition.validate_eq_ok_iff, define]
  cases validated : definition.validate with
  | error error => simp
  | ok _ =>
      simp only [iff_true]
      split <;> exact ⟨_, rfl⟩

/-- A valid definition is inserted. Where it is known already that changes nothing. -/
theorem definitions_after_define {tokenizer : Tokenizer} {definition : Definition}
    (valid : definition.Valid) :
    (tokenizer.after (.define definition)).definitions =
      definition.insertInto tokenizer.definitions := by
  have validated := Definition.validate_eq_ok_iff.mpr valid
  by_cases known : tokenizer.definitions.find? (·.name == definition.name) = some definition
  · simp only [after, define, validated, if_pos known, Except.toOption, Option.getD_some]
    exact (Definition.insertInto_eq_self_iff.mpr known).symm
  · simp only [after, define, validated, if_neg known, Except.toOption, Option.getD_some]

/-- A definition that is refused leaves the tokenizer as it is. -/
theorem after_define_of_error {tokenizer : Tokenizer} {definition : Definition}
    {error : TokenizerError} (refused : tokenizer.define definition = .error error) :
    tokenizer.after (.define definition) = tokenizer := by
  simp only [after, refused, Except.toOption, Option.getD_none]

/-- An operation that gives no definition leaves the definitions as they are. -/
theorem definitions_after_of_none {operation : Operation} (none : operation.definition? = none)
    (tokenizer : Tokenizer) : (tokenizer.after operation).definitions = tokenizer.definitions := by
  cases operation with
  | define definition => cases none
  | keepWhitespace | handleUnknown => rfl
  | scan input | tokenize input => exact tokenizer.definitions_scan input
  | parse rules grammar input =>
      rw [after, parseText_snd]
      exact tokenizer.definitions_scan input

/-- Operations add the definitions that they give to those that were given before. -/
theorem definitions_run {tokenizer : Tokenizer} {given : List Definition}
    (listed : tokenizer.definitions = latestOfEach given) (operations : List Operation) :
    (tokenizer.run operations).definitions = latestOfEach (given ++ accepted operations) := by
  induction operations generalizing tokenizer given with
  | nil => rw [run_nil, listed, accepted_nil, List.append_nil]
  | cons first operations induction =>
      rw [run_cons]
      cases gives : first.definition? with
      | none =>
          rw [accepted_cons_of_none gives]
          exact induction ((definitions_after_of_none gives tokenizer).trans listed)
      | some definition =>
          obtain rfl : first = .define definition := by
            cases first with
            | define other => rw [Option.some.inj gives]
            | _ => cases gives
          by_cases valid : definition.Valid
          · have inserted : (tokenizer.after (.define definition)).definitions =
                latestOfEach (given ++ [definition]) := by
              rw [definitions_after_define valid, listed, Definition.insertInto_latestOfEach]
            rw [accepted_cons_of_valid gives valid, induction inserted, List.append_assoc,
              List.singleton_append]
          · have unchanged : tokenizer.after (.define definition) = tokenizer := by
              cases defined : tokenizer.define definition with
              | error error => exact after_define_of_error defined
              | ok next => exact absurd ((exists_define_eq_ok_iff ..).mp ⟨next, defined⟩) valid
            rw [accepted_cons_of_not_valid gives valid, unchanged]
            exact induction listed

/-! ## Lists of definitions given at once -/

/-- Valid definitions given at once are all accepted. -/
theorem defineAll_of_valid {tokenizer : Tokenizer} {definitions : List Definition}
    (valid : ∀ definition ∈ definitions, definition.Valid) :
    tokenizer.defineAll definitions = .ok (tokenizer.run (definitions.map .define)) := by
  induction definitions generalizing tokenizer with
  | nil => rfl
  | cons first definitions induction =>
      obtain ⟨validFirst, validRest⟩ := List.forall_mem_cons.mp valid
      obtain ⟨next, defined⟩ := (exists_define_eq_ok_iff tokenizer first).mpr validFirst
      have reached : tokenizer.after (.define first) = next := by
        simp only [after, defined, Except.toOption, Option.getD_some]
      rw [defineAll_cons_of_ok defined, induction validRest, List.map_cons, run_cons, reached]

/-- Definitions given at once are refused for the first one that is. -/
theorem defineAll_of_refused {tokenizer : Tokenizer} {definitions : List Definition}
    {refused : Definition}
    (first : definitions.find? (fun definition => !decide definition.Valid) = some refused) :
    ∃ fault, refused.fault? = some fault ∧
      tokenizer.defineAll definitions = .error (.invalidPattern refused.name fault) := by
  induction definitions generalizing tokenizer with
  | nil => cases first
  | cons head definitions induction =>
      by_cases valid : head.Valid
      · obtain ⟨next, defined⟩ := (exists_define_eq_ok_iff tokenizer head).mpr valid
        rw [List.find?_cons_of_neg (by simpa using valid)] at first
        rw [defineAll_cons_of_ok defined]
        exact induction first
      · rw [List.find?_cons_of_pos (by simpa using valid)] at first
        cases Option.some.inj first
        obtain ⟨fault, wrong⟩ := Option.ne_none_iff_exists'.mp valid
        have validated := Definition.validate_eq_error_iff.mpr ⟨fault, wrong, rfl⟩
        refine ⟨fault, wrong, ?_⟩
        rw [defineAll, define, validated]
        rfl

/-! ## The definitions of white space -/

/-- Of definitions with distinct names at most one is of white space. -/
theorem countP_isWhitespace_le_one {definitions : List Definition}
    (distinct : (definitions.map Definition.name).Nodup) :
    definitions.countP Definition.isWhitespace ≤ 1 := by
  have counted : definitions.countP Definition.isWhitespace =
      (definitions.map Definition.name).count whitespaceName := by
    rw [List.count, List.countP_map]
    rfl
  rw [counted]
  exact List.nodup_iff_count.mp distinct whitespaceName

/-- Just one of the definitions that the scanner is made from is of white space. -/
theorem countP_effectiveDefinitions {tokenizer : Tokenizer}
    (distinct : (tokenizer.definitions.map Definition.name).Nodup) :
    tokenizer.effectiveDefinitions.countP Definition.isWhitespace = 1 := by
  rw [effectiveDefinitions]
  split
  · rename_i given
    have some_one : 0 < tokenizer.definitions.countP Definition.isWhitespace :=
      List.countP_pos_iff.mpr (List.any_eq_true.mp given)
    exact Nat.le_antisymm (countP_isWhitespace_le_one distinct) some_one
  · rename_i missing
    have none : tokenizer.definitions.countP Definition.isWhitespace = 0 := by
      rw [List.countP_eq_zero]
      intro definition member isWhitespace
      exact missing (List.any_eq_true.mpr ⟨definition, member, isWhitespace⟩)
    rw [List.countP_append, none]
    rfl

/-! ## All of it together -/

/-- Definitions that are all valid are all accepted. -/
theorem accepted_map_define {definitions : List Definition}
    (valid : ∀ definition ∈ definitions, definition.Valid) :
    accepted (definitions.map .define) = definitions := by
  induction definitions with
  | nil => rfl
  | cons first definitions induction =>
      obtain ⟨validFirst, validRest⟩ := List.forall_mem_cons.mp valid
      rw [List.map_cons, accepted_cons_of_valid rfl validFirst, induction validRest]

/-- Definitions given at once make a tokenizer just if all are valid, and are refused for the first
one that is not. -/
theorem ofDefinitions_cases (given : List Definition) :
    match given.find? (fun definition => !decide definition.Valid) with
    | none => ∃ tokenizer, ofDefinitions given = .ok tokenizer ∧
        tokenizer.definitions = latestOfEach given
    | some refused => ∃ fault, refused.fault? = some fault ∧
        ofDefinitions given = .error (.invalidPattern refused.name fault) := by
  cases first : given.find? (fun definition => !decide definition.Valid) with
  | some refused => exact defineAll_of_refused first
  | none =>
      have valid : ∀ definition ∈ given, definition.Valid := by
        intro definition member
        simpa using List.find?_eq_none.mp first definition member
      refine ⟨_, defineAll_of_valid valid, ?_⟩
      have listed := @definitions_run empty [] rfl (given.map .define)
      rwa [accepted_map_define valid] at listed

/-- **The definitions are those given last, in the order of their names.** After any operations on a
tokenizer that was made from definitions or settings, the definitions are those of the start and the
accepted ones since then: for each name in the order in which it first came up, the definition that
was given last. A definition is accepted just if nothing is wrong with it alone. So the names are
distinct, each definition has a name that may be used and a source that is a pattern, and the scanner
is made from just one definition of white space. A definition that is refused changes nothing, and a
list of definitions given at once is refused just for the first one that is. -/
theorem run_latestOfEach {start : Tokenizer} (made : start.Made) (operations : List Operation) :
    let tokenizer := start.run operations
    tokenizer.definitions = latestOfEach (start.definitions ++ accepted operations) ∧
      (∀ definition, (∃ next, tokenizer.define definition = .ok next) ↔ definition.Valid) ∧
      (tokenizer.definitions.map Definition.name).Nodup ∧
      (∀ definition ∈ tokenizer.definitions,
        definition.name ≠ "" ∧ definition.name ≠ unknownName ∧ definition.source ≠ "" ∧
          ∃ expr, Regex.Expr.ofText definition.source = .ok expr ∧ expr.fits = true) ∧
      tokenizer.effectiveDefinitions.countP Definition.isWhitespace = 1 ∧
      (∀ definition error, tokenizer.define definition = .error error →
        tokenizer.after (.define definition) = tokenizer) ∧
      ∀ given : List Definition,
        match given.find? (fun definition => !decide definition.Valid) with
        | none => ∃ other, ofDefinitions given = .ok other ∧ other.definitions = latestOfEach given
        | some refused => ∃ fault, refused.fault? = some fault ∧
            ofDefinitions given = .error (.invalidPattern refused.name fault) := by
  intro tokenizer
  have soundStart : start.Sound := made.sound.1
  have sound : tokenizer.Sound := soundStart.run operations
  have listed : start.definitions = latestOfEach start.definitions :=
    (Definition.latestOfEach_of_nodup soundStart.distinct).symm
  refine ⟨definitions_run listed operations, exists_define_eq_ok_iff _, sound.distinct, ?_,
    countP_effectiveDefinitions sound.distinct, fun _ _ => after_define_of_error,
    ofDefinitions_cases⟩
  intro definition member
  exact Definition.valid_iff.mp (sound.valid definition member)

/-- Of two names the first one is given again at the end, and a broken definition and a scan come in
between. -/
theorem run_latestOfEach_replaced :
    let start : Tokenizer := ⟨[.regex "word" "[a-z]"], defaultWhitespace, false, rejectUnknown, none⟩
    let operations : List Operation := [.define (.keyword "+"), .define (.regex "word" "[a-z"),
      .scan "a+b", .define (.literal "+" "plus"), .define (.regex "word" "[a-z]+")]
    let tokenizer := start.run operations
    start.Made ∧ tokenizer.definitions = [.regex "word" "[a-z]+", .regex "+" "plus"] ∧
      tokenizer.effectiveDefinitions.countP Definition.isWhitespace = 1 := by
  intro start operations tokenizer
  have valid : ∀ definition ∈ [Definition.regex "word" "[a-z]"], definition.Valid := by
    decide +kernel
  have made : start.Made := .ofDefinitions (defineAll_of_distinct rfl valid (by decide))
  obtain ⟨listed, -, -, -, whitespace, -⟩ := run_latestOfEach made operations
  have latest : latestOfEach (start.definitions ++ accepted operations) =
      [.regex "word" "[a-z]+", .regex "+" "plus"] := by decide +kernel
  exact ⟨made, listed.trans latest, whitespace⟩

end Tokenizer

end TokenGrammar
