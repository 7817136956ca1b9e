import TokenGrammar.Proofs.Regex.Outlasting.Escape
import TokenGrammar.Regex.Parser.Brackets

/-! # Classes before a closing parenthesis

A class ends with a bracket of its own, so that it never ends within a comment.

* `Regex.parseAsciiClass?_append`: the parenthesis makes no named class.
* `Regex.parseClass_append`: a class is read in the same way before a closing parenthesis. -/

namespace TokenGrammar.Regex

open Unicode (isWhiteSpace)

variable {verbose : Bool} {text rest : List Char}

/-- No name of a class has a parenthesis in it. -/
theorem AsciiClass.ofName?_of_mem {name : List Char} (parenthesis : ')' ∈ name) :
    AsciiClass.ofName? (.ofList name) = none := by
  rw [AsciiClass.ofName?, List.lookup_eq_none_iff]
  intro entry member
  have known : ')' ∉ entry.1.toList := by
    have each := List.all_eq_true.mp (by decide : List.all _ fun (entry : String × AsciiClass) =>
      !entry.1.toList.contains ')') entry member
    simpa using each
  rw [bne_iff_ne]
  intro same
  rw [← same, String.toList_ofList] at known
  exact known parenthesis

/-- Before a closing parenthesis the same is a name of a class as at the end of a text. -/
theorem parseAsciiName?_append (negated : Bool) (named more : List Char) :
    parseAsciiName? negated (named ++ ')' :: more) =
      (parseAsciiName? negated named).map (Prod.map id (· ++ ')' :: more)) := by
  unfold parseAsciiName?
  rw [List.dropWhile_append, List.takeWhile_append]
  cases found : named.dropWhile (· != ':') with
  | nil =>
      -- Without a colon the name would have the parenthesis in it.
      have whole : named.takeWhile (· != ':') = named := by
        have parts := List.takeWhile_append_dropWhile (p := (· != ':')) (l := named)
        rwa [found, List.append_nil] at parts
      have unknown : AsciiClass.ofName? (.ofList (named ++ (')' :: more).takeWhile (· != ':'))) =
          none :=
        AsciiClass.ofName?_of_mem (List.mem_append_right _ (List.mem_cons_self ..))
      rw [whole, if_pos List.isEmpty_nil, if_pos rfl, unknown]
      split <;> rfl
  | cons colon following =>
      have short : (named.takeWhile (· != ':')).length ≠ named.length := by
        have parts := congrArg List.length
          (List.takeWhile_append_dropWhile (p := (· != ':')) (l := named))
        rw [found, List.length_append, List.length_cons] at parts
        omega
      rw [if_neg (by rw [List.isEmpty_cons]; exact Bool.false_ne_true), if_neg short]
      cases following with
      | nil =>
          split
          · rename_i closed
            cases closed
          · split
            · rename_i closed
              cases closed
            · rfl
      | cons bracket rest =>
          split
          · rename_i closed
            cases closed
            simp only [Option.map_map]
            rfl
          · rename_i unclosed
            split
            · rename_i closed
              cases closed
              exact (unclosed _ rfl).elim
            · rfl

/-- Before a closing parenthesis the same is a named class as at the end of a text. -/
theorem parseAsciiClass?_append (text more : List Char) :
    parseAsciiClass? (text ++ ')' :: more) =
      (parseAsciiClass? text).map (Prod.map id (· ++ ')' :: more)) := by
  unfold parseAsciiClass?
  split
  · rename_i named marked
    cases text with
    | nil => cases marked
    | cons colon following =>
        cases following with
        | nil => cases marked
        | cons mark named =>
            cases marked
            exact parseAsciiName?_append true named more
  · rename_i named unmarked opened
    cases text with
    | nil => cases opened
    | cons colon following =>
        cases opened
        split
        · rename_i marked
          cases marked
          exact (unmarked _ rfl).elim
        · rename_i again
          cases again
          exact parseAsciiName?_append false following more
        · rename_i unopened
          exact (unopened following rfl).elim
  · rename_i unmarked unopened
    split
    · exact (unmarked _ rfl).elim
    · exact (unopened _ rfl).elim
    · rfl

/-- The text from its next character that means something, if there is one. -/
theorem toSolid_eq_ok_iff :
    toSolid verbose text = .ok rest ↔ skipSpacing verbose text = rest ∧ rest ≠ [] := by
  unfold toSolid
  split
  · rename_i empty
    rw [empty]
    constructor
    · intro failed
      cases failed
    · rintro ⟨rfl, solid⟩
      exact absurd rfl solid
  · rename_i solid
    constructor
    · intro found
      cases found
      exact ⟨rfl, solid⟩
    · rintro ⟨found, -⟩
      rw [found]

/-- The next character that means something is the same whatever comes later. -/
theorem toSolid_append (found : toSolid verbose text = .ok rest) (more : List Char) :
    toSolid verbose (text ++ more) = .ok (rest ++ more) := by
  obtain ⟨rfl, solid⟩ := toSolid_eq_ok_iff.mp found
  exact toSolid_eq_ok_iff.mpr
    ⟨skipSpacing_append solid more, List.append_ne_nil_of_left_ne_nil solid more⟩

/-- The dashes or the bracket at the start of a class are read in the same way whatever comes
later. -/
theorem parseClassDashes_append {negated : Bool} {start : OpenClass}
    (parsed : parseClassDashes verbose negated text = .ok (start, rest)) (more : List Char) :
    parseClassDashes verbose negated (text ++ more) = .ok (start, rest ++ more) := by
  unfold parseClassDashes at parsed ⊢
  split at parsed
  · cases parsed
  · rename_i following taken
    obtain ⟨left, found, done⟩ := bind_eq_ok_iff.mp parsed
    cases done
    rw [takeSpaced_append taken (List.cons_ne_nil _ _)]
    simp only [List.cons_append, toSolid_append found]
    rfl
  · rename_i dashes left solid unbracketed taken
    cases parsed
    rw [takeSpaced_append taken solid]
    cases rest with
    | nil => exact (solid rfl).elim
    | cons c following =>
        split
        · rename_i empty
          cases empty
        · rename_i bracketed
          cases bracketed
          exact (unbracketed following rfl rfl).elim
        · rename_i again
          cases again
          rfl

/-- The start of a class is read in the same way whatever comes later. -/
theorem parseClassStart_append {start : OpenClass}
    (parsed : parseClassStart verbose text = .ok (start, rest)) (more : List Char) :
    parseClassStart verbose (text ++ more) = .ok (start, rest ++ more) := by
  unfold parseClassStart at parsed ⊢
  obtain ⟨begun, first, parsed⟩ := bind_eq_ok_iff.mp parsed
  rw [bind_eq_ok_iff]
  refine ⟨_, toSolid_append first more, ?_⟩
  split at parsed
  · obtain ⟨marked, second, parsed⟩ := bind_eq_ok_iff.mp parsed
    exact bind_eq_ok_iff.mpr ⟨_, toSolid_append second more, parseClassDashes_append parsed more⟩
  · rename_i unmarked
    split
    · exact absurd ‹_› (append_ne_cons (toSolid_eq_ok_iff.mp first).2 unmarked _ _)
    · exact parseClassDashes_append parsed more

/-- A character of a class, or an escape. -/
theorem parseClassPrimitive_outlasts {primitive : Primitive}
    (parsed : parseClassPrimitive verbose text = .ok (primitive, rest)) :
    Outlasts (parseClassPrimitive verbose) text primitive rest := by
  unfold parseClassPrimitive at parsed
  split at parsed
  · cases parsed
  · exact (parseEscape_outlasts parsed).of_eq fun _ => rfl
  · rename_i c following unescaped
    cases parsed
    left
    intro more
    unfold parseClassPrimitive
    split
    · rename_i empty
      cases empty
    · rename_i escaped
      cases escaped
      exact (unescaped rfl).elim
    · rename_i again
      cases again
      rfl

/-- A character past spacing is the same whatever comes later. -/
theorem firstSolid?_append {inComment : Bool} {c : Char}
    (found : firstSolid? inComment text = some c) (more : List Char) :
    firstSolid? inComment (text ++ more) = some c := by
  induction text generalizing inComment with
  | nil => cases found
  | cons d rest induction =>
      rw [List.cons_append]
      simp only [firstSolid?] at found ⊢
      split
      · rename_i blank
        rw [if_pos blank] at found
        exact induction found
      · rename_i blank
        rw [if_neg blank] at found
        split
        · rename_i sign
          rw [if_pos sign] at found
          exact induction found
        · rename_i sign
          rw [if_neg sign] at found
          exact found

/-- Where nothing solid follows the sign of a comment there is nothing but white space. -/
theorem dropSpacing_of_firstSolid?_true (blank : firstSolid? true text = none)
    (inComment : Bool) : dropSpacing inComment text = [] := by
  induction text generalizing inComment with
  | nil => cases inComment <;> rfl
  | cons c rest induction =>
      rw [firstSolid?] at blank
      split at blank
      · rename_i isBlank
        cases inComment with
        | true => exact induction blank _
        | false =>
            rw [dropSpacing, if_pos isBlank]
            exact induction blank _
      · rw [Bool.not_true, Bool.false_and, if_neg Bool.false_ne_true] at blank
        cases blank

/-- Where nothing solid follows there is nothing but spacing. -/
theorem dropSpacing_of_firstSolid? (blank : firstSolid? false text = none) :
    dropSpacing false text = [] := by
  induction text with
  | nil => rfl
  | cons c rest induction =>
      rw [firstSolid?] at blank
      rw [dropSpacing]
      split
      · rename_i isBlank
        rw [if_pos isBlank] at blank
        exact induction blank
      · rename_i isBlank
        simp only [if_neg isBlank, Bool.not_false, Bool.true_and, decide_eq_true_eq] at blank
        split
        · rename_i sign
          rw [if_pos sign] at blank
          exact dropSpacing_of_firstSolid?_true blank true
        · rename_i sign
          rw [if_neg sign] at blank
          cases blank

/-- The character past the current one is the same whatever comes later, unless there is nothing
but spacing. -/
theorem peekSpaced?_append (verbose : Bool) (text : List Char) :
    (∀ more, peekSpaced? verbose (text ++ more) = peekSpaced? verbose text) ∨
      skipSpacing verbose text = [] ∧
        ∀ c, peekSpaced? verbose text = some c → isWhiteSpace c = true ∨ c = '#' := by
  cases text with
  | nil =>
      refine .inr ⟨by cases verbose <;> rfl, fun c found => ?_⟩
      cases verbose <;> cases found
  | cons d rest =>
      cases verbose with
      | false => exact .inl fun _ => rfl
      | true =>
          cases found : firstSolid? false (d :: rest) with
          | some c =>
              left
              intro more
              rw [peekSpaced?, if_pos rfl, firstSolid?_append found, peekSpaced?, if_pos rfl, found]
              rfl
          | none =>
              refine .inr ⟨dropSpacing_of_firstSolid? found, fun c peeked => ?_⟩
              rw [peekSpaced?, if_pos rfl, found] at peeked
              cases peeked
              rw [firstSolid?] at found
              split at found
              · exact .inl ‹_›
              · split at found
                · rename_i sign
                  rw [Bool.not_false, Bool.true_and, decide_eq_true_eq] at sign
                  exact .inr sign
                · cases found

/-- The other end of a range. -/
theorem parseRangeEnd_outlasts {first : Primitive} {range : ClassContents}
    (parsed : parseRangeEnd verbose first text = .ok (range, rest)) :
    Outlasts (parseRangeEnd verbose first) text range rest := by
  unfold parseRangeEnd at parsed
  obtain ⟨ending, solid, parsed⟩ := bind_eq_ok_iff.mp parsed
  obtain ⟨⟨last, remaining⟩, primitive, parsed⟩ := bind_eq_ok_iff.mp parsed
  obtain ⟨_, made, done⟩ := bind_eq_ok_iff.mp parsed
  cases done
  refine ((parseClassPrimitive_outlasts primitive).bind first.rangeTo made).of_eq fun more => ?_
  rw [parseRangeEnd, toSolid_append solid]
  rfl

/-- What comes after the start of an item. -/
theorem parseItemAfter_outlasts {first : Primitive} {item : ClassContents}
    (parsed : parseItemAfter verbose first text = .ok (item, rest)) (solid : text ≠ []) :
    Outlasts (parseItemAfter verbose first) text item rest := by
  unfold parseItemAfter at parsed
  split at parsed
  · rename_i following
    simp only at parsed
    rcases peekSpaced?_append verbose following with same | ⟨blank, peeked⟩
    · split at parsed
      · rename_i alone
        obtain ⟨_, made, done⟩ := bind_eq_ok_iff.mp parsed
        cases done
        left
        intro more
        simp only [List.cons_append, parseItemAfter, same, if_pos alone, made]
        rfl
      · rename_i ranged
        refine (parseRangeEnd_outlasts parsed).of_eq fun more => ?_
        simp only [List.cons_append, parseItemAfter, same, if_neg ranged]
    -- Spacing is neither a bracket nor a dash, and no end of a range comes after it.
    · have ranged : ¬(peekSpaced? verbose following = some ']' ∨
          peekSpaced? verbose following = some '-') := by
        rintro (found | found)
        all_goals exact absurd (peeked _ found) (by decide)
      rw [if_neg ranged, parseRangeEnd, toSolid, blank] at parsed
      cases parsed
  · rename_i undashed
    obtain ⟨_, made, done⟩ := bind_eq_ok_iff.mp parsed
    cases done
    left
    intro more
    unfold parseItemAfter
    split
    · exact absurd ‹_› (append_ne_cons solid undashed _ _)
    · rw [made]
      rfl

/-- An item of a class. -/
theorem parseClassItem_outlasts {item : ClassContents}
    (parsed : parseClassItem verbose text = .ok (item, rest)) :
    Outlasts (parseClassItem verbose) text item rest := by
  unfold parseClassItem at parsed
  obtain ⟨⟨first, after⟩, primitive, parsed⟩ := bind_eq_ok_iff.mp parsed
  obtain ⟨next, found, parsed⟩ := bind_eq_ok_iff.mp parsed
  have left : after ≠ [] := by
    rintro rfl
    cases verbose <;> cases found
  refine (parseItemAfter_outlasts parsed (toSolid_eq_ok_iff.mp found).2).of_eq fun more => ?_
  rw [parseClassItem, (parseClassPrimitive_outlasts primitive).append left]
  change toSolid verbose (after ++ ')' :: more) >>= _ = _
  rw [toSolid_append found]
  rfl

/-- A class does not end with the text. -/
theorem parseClassUpTo_nil (verbose : Bool) (bound : Nat) (current : OpenClass)
    (outer : List OpenClass) :
    parseClassUpTo verbose bound current outer [] = .error .classUnclosed := by
  cases bound with
  | zero => rfl
  | succ bound => cases verbose <;> rfl

/-- A text begins with an item of a class, not with a bracket or an operation. -/
structure StartsItem (text : List Char) : Prop where
  /-- There is something to read. -/
  solid : text ≠ []
  /-- It is no class within the class. -/
  unopened : ∀ after, text ≠ '[' :: after
  /-- It is not the end of the class. -/
  unclosed : ∀ after, text ≠ ']' :: after
  /-- It is no intersection. -/
  noIntersection : ∀ after, text ≠ '&' :: '&' :: after
  /-- It is no difference. -/
  noDifference : ∀ after, text ≠ '-' :: '-' :: after
  /-- It is no symmetric difference. -/
  noSymmetric : ∀ after, text ≠ '~' :: '~' :: after

/-- What begins with an item does so before a closing parenthesis. -/
theorem StartsItem.append (starts : StartsItem text) (more : List Char) :
    StartsItem (text ++ ')' :: more) where
  solid := List.append_ne_nil_of_left_ne_nil starts.solid _
  unopened := append_ne_cons starts.solid starts.unopened _
  unclosed := append_ne_cons starts.solid starts.unclosed _
  noIntersection := append_ne_cons_cons starts.solid starts.noIntersection (by decide) more
  noDifference := append_ne_cons_cons starts.solid starts.noDifference (by decide) more
  noSymmetric := append_ne_cons_cons starts.solid starts.noSymmetric (by decide) more

/-- An item of a class is read where one begins. -/
theorem parseClassUpTo_of_startsItem (starts : StartsItem (skipSpacing verbose text)) (bound : Nat)
    (current : OpenClass) (outer : List OpenClass) :
    parseClassUpTo verbose (bound + 1) current outer text =
      parseClassItem verbose (skipSpacing verbose text) >>= fun (item, rest) =>
        parseClassUpTo verbose bound (current.add item) outer rest := by
  rw [parseClassUpTo]
  split
  · exact absurd ‹_› starts.solid
  · exact absurd ‹_› (starts.unopened _)
  · exact absurd ‹_› (starts.unclosed _)
  · exact absurd ‹_› (starts.noIntersection _)
  · exact absurd ‹_› (starts.noDifference _)
  · exact absurd ‹_› (starts.noSymmetric _)
  · rfl

/-- The rest of a class is read in the same way before a closing parenthesis: its bracket comes
before. -/
theorem parseClassUpTo_append {bound larger : Nat} {current whole : OpenClass}
    {outer : List OpenClass}
    (parsed : parseClassUpTo verbose bound current outer text = .ok (whole, rest))
    (le : bound ≤ larger) (more : List Char) :
    parseClassUpTo verbose larger current outer (text ++ ')' :: more) =
      .ok (whole, rest ++ ')' :: more) := by
  induction bound generalizing larger current outer text with
  | zero => cases parsed
  | succ bound induction =>
      obtain ⟨larger, rfl⟩ : ∃ less, larger = less + 1 := ⟨larger - 1, by omega⟩
      have le := Nat.le_of_succ_le_succ le
      unfold parseClassUpTo at parsed
      split at parsed
      · cases parsed
      · rename_i inside opened
        rw [parseClassUpTo, skipSpacing_append_cons opened]
        split at parsed
        · rename_i item remaining named
          simp only [parseAsciiClass?_append, named, Option.map_some, Prod.map, id]
          exact induction parsed le
        · rename_i unnamed
          obtain ⟨⟨inner, remaining⟩, start, parsed⟩ := bind_eq_ok_iff.mp parsed
          simp only [parseAsciiClass?_append, unnamed, Option.map_none]
          exact bind_eq_ok_iff.mpr ⟨_, parseClassStart_append start _, induction parsed le⟩
      · rename_i after closed
        rw [parseClassUpTo, skipSpacing_append_cons closed]
        split at parsed
        · cases parsed
          rfl
        · exact induction parsed le
      · rename_i after operation
        rw [parseClassUpTo, skipSpacing_append_cons operation]
        exact induction parsed le
      · rename_i after operation
        rw [parseClassUpTo, skipSpacing_append_cons operation]
        exact induction parsed le
      · rename_i after operation
        rw [parseClassUpTo, skipSpacing_append_cons operation]
        exact induction parsed le
      · rename_i solid unopened unclosed noIntersection noDifference noSymmetric
        have starts : StartsItem (skipSpacing verbose text) :=
          ⟨solid, unopened, unclosed, noIntersection, noDifference, noSymmetric⟩
        obtain ⟨⟨item, remaining⟩, read, further⟩ := bind_eq_ok_iff.mp parsed
        have left : remaining ≠ [] := by
          rintro rfl
          have unfinished := parseClassUpTo_nil verbose bound (current.add item) outer
          cases further.symm.trans unfinished
        have again := (parseClassItem_outlasts read).append left more
        rw [← skipSpacing_append solid] at again
        have startsToo : StartsItem (skipSpacing verbose (text ++ ')' :: more)) := by
          rw [skipSpacing_append solid]
          exact starts.append more
        rw [parseClassUpTo_of_startsItem startsToo]
        exact bind_eq_ok_iff.mpr ⟨_, again, induction further le⟩

/-- A class. -/
theorem parseClass_append {pattern : Pattern}
    (parsed : parseClass verbose text = .ok (pattern, rest)) (more : List Char) :
    parseClass verbose (text ++ ')' :: more) = .ok (pattern, rest ++ ')' :: more) := by
  unfold parseClass at parsed
  obtain ⟨⟨start, after⟩, started, parsed⟩ := bind_eq_ok_iff.mp parsed
  obtain ⟨⟨whole, remaining⟩, read, done⟩ := bind_eq_ok_iff.mp parsed
  cases done
  have longer : after.length + 1 ≤ (after ++ ')' :: more).length + 1 := by
    rw [List.length_append]
    omega
  refine bind_eq_ok_iff.mpr ⟨_, parseClassStart_append started _, ?_⟩
  exact bind_eq_ok_iff.mpr ⟨_, parseClassUpTo_append read longer more, rfl⟩

end TokenGrammar.Regex
