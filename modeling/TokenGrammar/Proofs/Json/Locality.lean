import TokenGrammar.Proofs.Json.Parts
import TokenGrammar.Proofs.Pairing

/-! # Values are read whatever follows

What a reader makes of the text of a value depends on that text alone. So a part of a text can be
exchanged for another one of which the same is made.

* `Json.Reading.valueUpTo_reads`: any value.
* `Json.Reading.reads_objectText_iff`: what is read as an object.
* `Json.Reading.boolean_eq_ok_iff`, `Json.Reading.text_eq_ok_iff`: values of a given shape. -/

namespace TokenGrammar.Json.Reading

open Layout
open Text (Breaks breaks_cons breaks_nil)

variable {α : Type} {text rest : Input} {json : Json} {bound depth : Nat}

/-! ## Single values -/

/-- A number is read from its first digit on. -/
theorem valueUpTo_digit {c : Char} {d : Nat} (digit : Numeral.decimalDigit? c = some d)
    (bound depth : Nat) (rest : Input) :
    valueUpTo (bound + 1) depth (some c :: rest) =
      (number false (some c :: rest)).map fun read => (.number read.1.shape.describe, read.2) := by
  have among := mem_of_decimalDigit? digit
  simp only [List.mem_cons, List.not_mem_nil, or_false] at among
  rcases among with rfl | rfl | rfl | rfl | rfl | rfl | rfl | rfl | rfl | rfl <;> rfl

/-- A number is read after its sign. -/
theorem valueUpTo_minus (bound depth : Nat) (rest : Input) :
    valueUpTo (bound + 1) depth (some '-' :: rest) =
      (number true rest).map fun read => (.number read.1.shape.describe, read.2) := by
  rfl

/-- What a reader makes of a text whatever follows, be it a fault, it makes with more room too. -/
theorem reads_of_outcome (outcome : Except ReadError Json)
    (same : ∀ bound rest, Breaks continuesNumber rest →
      valueUpTo (bound + 1) depth (text ++ rest) = outcome.map fun value => (value, rest))
    {bound' : Nat} {after : Input} (breaks : Breaks continuesNumber rest)
    (read : valueUpTo (bound + 1) depth (text ++ rest) = .ok (json, after)) :
    after = rest ∧ Reads (valueUpTo (bound' + 1) depth) text json := by
  rw [same bound rest breaks] at read
  obtain ⟨value, isOk, done⟩ := map_eq_ok_iff.mp read
  cases done
  refine ⟨rfl, fun rest breaks => ?_⟩
  rw [same bound' rest breaks, isOk]
  rfl

/-- What is read as a number does not depend on what follows. -/
theorem valueUpTo_number (depth : Nat) (isNumber : IsNumber text) :
    ∃ outcome : Except ReadError Json, ∀ bound rest, Breaks continuesNumber rest →
      valueUpTo (bound + 1) depth (text ++ rest) = outcome.map fun value => (value, rest) := by
  rcases isNumber with isSize | ⟨size, isSize, rfl⟩
  · obtain ⟨c, following, d, rfl, digit⟩ := exists_digit_of_isSize isSize
    obtain ⟨outcome, reads⟩ := number_uniform false isSize
    refine ⟨outcome.map fun number => .number number.shape.describe, fun bound rest breaks => ?_⟩
    rw [List.cons_append, valueUpTo_digit digit, ← List.cons_append, reads rest breaks]
    cases outcome <;> rfl
  · obtain ⟨outcome, reads⟩ := number_uniform true isSize
    refine ⟨outcome.map fun number => .number number.shape.describe, fun bound rest breaks => ?_⟩
    rw [List.cons_append, valueUpTo_minus, reads rest breaks]
    cases outcome <;> rfl

/-! ## Lists and objects -/

/-- There are fewer items than characters in the rest of the text from the first of them on. -/
theorem length_lt_of_items {items : List Item} (solid : ∀ item ∈ items, IsValue item.value)
    (closing rest : Input) :
    items.length <
      (separated true (items.map Item.text) ++ (closing ++ some ']' :: rest)).length + 1 := by
  have notNil : ∀ text ∈ items.map Item.text, text ≠ [] := by
    intro text among
    obtain ⟨item, member, rfl⟩ := List.mem_map.mp among
    obtain ⟨c, following, isText, -⟩ := exists_first_of_isValue (solid item member)
    simp [Item.text, isText]
  have count := length_le_length_separated notNil true
  rw [List.length_map] at count
  rw [List.length_append]
  omega

/-- There are fewer members than characters in the rest of the text from the first of them on. -/
theorem length_lt_of_laidOut (members : List Member) (closing rest : Input) :
    members.length < (separated true (members.map Member.text) ++
      (closing ++ some '\x7d' :: rest)).length + 1 := by
  have notNil : ∀ text ∈ members.map Member.text, text ≠ [] := by
    intro text among
    obtain ⟨member, -, rfl⟩ := List.mem_map.mp among
    simp [Member.text, Member.colonText]
  have count := length_le_length_separated notNil true
  rw [List.length_map] at count
  rw [List.length_append]
  omega

/-- The text of an item is part of that of its list. -/
theorem length_lt_listText {items : List Item} {item : Item} (member : item ∈ items)
    (closing : Input) : item.value.length + 1 < (listText items closing).length := by
  have le := length_le_length_separated_of_mem (List.mem_map_of_mem (f := Item.text) member) true
  simp only [Item.text, listText, List.length_cons, List.length_append, List.length_nil] at le ⊢
  omega

/-- The text of a member is part of that of its object. -/
theorem length_lt_objectText {members : List Member} {member : Member} (among : member ∈ members)
    (closing : Input) : member.value.length + 1 < (objectText members closing).length := by
  have le := length_le_length_separated_of_mem (List.mem_map_of_mem (f := Member.text) among) true
  simp only [Member.text, Member.colonText, objectText, List.length_cons, List.length_append,
    List.length_nil] at le ⊢
  omega

/-- A list is read from its opening bracket on, if there is room for it. -/
theorem valueUpTo_openList {depth : Nat} (room : 1 < depth) (bound : Nat) (rest : Input) :
    valueUpTo (bound + 1) depth (some '[' :: rest) =
      (readList (appendItem (valueUpTo bound (depth - 1))) (rest.length + 1) true [] rest).map
        fun read => (.array read.1, read.2) := by
  rw [valueUpTo_bracket room, readList]
  generalize foldItems _ _ _ _ _ = folded
  cases folded with
  | error error => rfl
  | ok read =>
      change (endList read.2 >>= _) = (endList read.2 >>= _).map _
      cases endList read.2 <;> rfl

/-- An object is read from its opening brace on, if there is room for it. -/
theorem valueUpTo_openObject {depth : Nat} (room : 1 < depth) (bound : Nat) (rest : Input) :
    valueUpTo (bound + 1) depth (some '\x7b' :: rest) =
      (readObject (appendMember (valueUpTo bound (depth - 1))) (rest.length + 1) true [] rest).map
        fun read => (.object read.1, read.2) := by
  rw [valueUpTo_brace room, readObject]
  generalize foldMembers _ _ _ _ _ = folded
  cases folded with
  | error error => rfl
  | ok read =>
      change (endObject read.2 >>= _) = (endObject read.2 >>= _).map _
      cases endObject read.2 <;> rfl

/-- No list or object is read where there is no room for it. -/
theorem valueUpTo_full {depth : Nat} (full : depth ≤ 1) (bound : Nat) (rest : Input) {c : Char}
    (opens : c = '[' ∨ c = '\x7b') :
    valueUpTo (bound + 1) depth (some c :: rest) = .error .recursionLimit := by
  rcases opens with rfl | rfl <;> exact if_pos full

/-- Blanks before a value do not matter. -/
theorem valueUpTo_append {blanks : Input} (blank : Blank blanks) (bound depth : Nat)
    (input : Input) : valueUpTo bound depth (blanks ++ input) = valueUpTo bound depth input := by
  cases bound with
  | zero => rfl
  | succ bound =>
      rw [valueUpTo, skipSpace_append blank]
      rfl

/-! ## Readers with their results changed -/

section

variable {β : Type} {reader : Input → Except ReadError (α × Input)} {change : α → β}

/-- A reader with its result changed takes the same text. -/
theorem Reads.map {value : α} (reads : Reads reader text value) (change : α → β) :
    Reads (fun input => (reader input).map fun read => (change read.1, read.2)) text
      (change value) := by
  intro rest breaks
  simp [reads rest breaks, Except.map]

/-- What a reader with its result changed makes of a text is made of what the reader does. -/
theorem Reads.exists_of_map (change : α → β) {value : β} (alone : ReadsAlone reader text)
    (reads : Reads (fun input => (reader input).map fun read => (change read.1, read.2)) text
      value) : ∃ inner, Reads reader text inner ∧ change inner = value := by
  obtain ⟨⟨inner, after⟩, read, done⟩ := map_eq_ok_iff.mp (reads [] breaks_nil)
  exact ⟨inner, (alone _ _ _ breaks_nil read).2, (Prod.mk.inj done).1⟩

/-- A reader with its result changed takes a text with nothing of what follows, if the reader
does. -/
theorem ReadsAlone.map (alone : ReadsAlone reader text) (change : α → β) :
    ReadsAlone (fun input => (reader input).map fun read => (change read.1, read.2)) text := by
  intro rest value after breaks read
  obtain ⟨⟨inner, after'⟩, readInner, done⟩ := map_eq_ok_iff.mp read
  cases done
  obtain ⟨rfl, reads⟩ := alone _ _ _ breaks readInner
  exact ⟨rfl, reads.map change⟩

end

/-! ## Any value -/

/-- Whether a member has a name and a value that is read. -/
def Gives (reader : Input → Except ReadError (Json × Input)) (member : Member)
    (entry : String × Json) : Prop :=
  member.Named entry.1 ∧ Reads reader member.value entry.2

/-- A member is read after those before it. -/
theorem appendMember_colonText {reader : Input → Except ReadError (Json × Input)}
    (skips : ∀ {blanks input}, Blank blanks → reader (blanks ++ input) = reader input)
    {member : Member} (spaced : member.Spaced) (before : List (String × Json)) (name : String)
    (input : Input) :
    appendMember reader before name (member.colonText input) =
      (reader input).map fun read => (before ++ [(name, read.1)], read.2) := by
  rw [appendMember, colon_colonText spaced]
  change reader (member.beforeValue ++ input) >>= _ = _
  rw [skips spaced.beforeValue]
  rfl

/-- The members of an object are read with their names and values. -/
theorem chain_appendMember_iff {reader : Input → Except ReadError (Json × Input)}
    (skips : ∀ {blanks input}, Blank blanks → reader (blanks ++ input) = reader input)
    {members : List Member} (spaced : ∀ member ∈ members, member.Spaced)
    (alone : ∀ member ∈ members, ReadsAlone reader member.value)
    {before list : List (String × Json)} :
    Chain (appendMember reader) before members list ↔
      ∃ entries, list = before ++ entries ∧ List.Forall₂ (Gives reader) members entries := by
  induction members generalizing before with
  | nil =>
      constructor
      · rintro ⟨⟩
        exact ⟨[], by simp, .nil⟩
      · rintro ⟨_, rfl, ⟨⟩⟩
        rw [List.append_nil]
        exact .nil _
  | cons member members induction =>
      obtain ⟨firstSpaced, restSpaced⟩ := List.forall_mem_cons.mp spaced
      obtain ⟨firstAlone, restAlone⟩ := List.forall_mem_cons.mp alone
      have later : ∀ {before}, Chain (appendMember reader) before members list ↔ ∃ entries,
          list = before ++ entries ∧ List.Forall₂ (Gives reader) members entries :=
        induction restSpaced restAlone
      have same : ∀ name, (fun input => appendMember reader before name (member.colonText input)) =
          fun input => (reader input).map fun read => (before ++ [(name, read.1)], read.2) :=
        fun name => funext (appendMember_colonText skips firstSpaced before name)
      constructor
      · intro chain
        cases chain with
        | @cons _ _ _ _ _ name named reads further =>
            rw [same] at reads
            obtain ⟨value, readsValue, rfl⟩ := Reads.exists_of_map
              (fun value => before ++ [(name, value)]) firstAlone reads
            obtain ⟨entries, rfl, each⟩ := later.mp further
            exact ⟨(name, value) :: entries, by simp, .cons ⟨named, readsValue⟩ each⟩
      · rintro ⟨_, rfl, each⟩
        cases each with
        | @cons _ entry _ entries gives each =>
            have reads := gives.2.map fun value => before ++ [(entry.1, value)]
            rw [← same entry.1] at reads
            exact .cons gives.1 reads (later.mpr ⟨entries, by simp, each⟩)

/-- **What is read as a list of values.** -/
theorem valueUpTo_listText_eq_ok_iff {items : List Item} {closing : Input}
    (wellFormed : ∀ item ∈ items, item.WellFormed) (blank : Blank closing)
    (alone : ∀ item ∈ items, ReadsAlone (valueUpTo bound (depth - 1)) item.value)
    {rest after : Input} :
    valueUpTo (bound + 1) depth (listText items closing ++ rest) = .ok (json, after) ↔
      1 < depth ∧ after = rest ∧ ∃ values, json = .array values ∧
        List.Forall₂ (fun item => Reads (valueUpTo bound (depth - 1)) item.value) items values := by
  by_cases room : 1 < depth
  · have short := length_lt_of_items
      (fun item member => (wellFormed item member).value) closing rest
    rw [listText_append, valueUpTo_openList room, map_eq_ok_iff]
    constructor
    · rintro ⟨⟨list, remaining⟩, read, done⟩
      cases done
      obtain ⟨rfl, values, rfl, each⟩ := (readList_eq_ok_iff wellFormed alone short blank true
        []).mp read
      exact ⟨room, rfl, _, rfl, each⟩
    · rintro ⟨-, rfl, values, rfl, each⟩
      exact ⟨_, (readList_eq_ok_iff wellFormed alone short blank true []).mpr
        ⟨rfl, values, rfl, each⟩, rfl⟩
  · rw [listText_append, valueUpTo_full (Nat.not_lt.mp room) bound _ (.inl rfl)]
    simp [room]

/-- **What is read as an object of values.** -/
theorem valueUpTo_objectText_eq_ok_iff {members : List Member} {closing : Input}
    (wellFormed : ∀ member ∈ members, member.WellFormed) (blank : Blank closing)
    (alone : ∀ member ∈ members, ReadsAlone (valueUpTo bound (depth - 1)) member.value)
    {rest after : Input} :
    valueUpTo (bound + 1) depth (objectText members closing ++ rest) = .ok (json, after) ↔
      1 < depth ∧ after = rest ∧ ∃ entries, json = .object entries ∧
        List.Forall₂ (Gives (valueUpTo bound (depth - 1))) members entries := by
  by_cases room : 1 < depth
  · have spaced := fun member among => (wellFormed member among).spaced
    have short := length_lt_of_laidOut members closing rest
    have skips : ∀ {blanks input}, Blank blanks → valueUpTo bound (depth - 1) (blanks ++ input) =
        valueUpTo bound (depth - 1) input := fun blank => valueUpTo_append blank _ _ _
    have aloneMember : ∀ member ∈ members, ∀ state name, ReadsAlone (fun input =>
        appendMember (valueUpTo bound (depth - 1)) state name (member.colonText input))
          member.value := by
      intro member among state name
      have mapped := (alone member among).map fun value => state ++ [(name, value)]
      rwa [← funext (appendMember_colonText skips (spaced member among) state name)] at mapped
    rw [objectText_append, valueUpTo_openObject room, map_eq_ok_iff]
    constructor
    · rintro ⟨⟨list, remaining⟩, read, done⟩
      cases done
      obtain ⟨rfl, chain⟩ :=
        (readObject_eq_ok_iff wellFormed aloneMember short blank true []).mp read
      obtain ⟨entries, rfl, each⟩ := (chain_appendMember_iff skips spaced alone).mp chain
      exact ⟨room, rfl, _, rfl, each⟩
    · rintro ⟨-, rfl, entries, rfl, each⟩
      have chain : Chain (appendMember (valueUpTo bound (depth - 1))) [] members entries :=
        (chain_appendMember_iff skips spaced alone).mpr ⟨entries, rfl, each⟩
      exact ⟨_, (readObject_eq_ok_iff wellFormed aloneMember short blank true []).mpr
        ⟨rfl, chain⟩, rfl⟩
  · rw [objectText_append, valueUpTo_full (Nat.not_lt.mp room) bound _ (.inr rfl)]
    simp [room]

/-- A bound that is above the length of the text of a value allows for one step. -/
theorem exists_bound_of_isValue (isValue : IsValue text) (enough : text.length ≤ bound) :
    ∃ less, bound = less + 1 := by
  obtain ⟨c, following, rfl, -⟩ := exists_first_of_isValue isValue
  exact Nat.exists_eq_add_one.mpr (Nat.lt_of_lt_of_le (Nat.succ_pos _) enough)

/-- **What is read as a value does not depend on what follows**, nor on how much room there is
beyond the length of the text. -/
theorem valueUpTo_reads (isValue : IsValue text) {bound bound' depth : Nat}
    (enough : text.length ≤ bound) (enough' : text.length ≤ bound') {rest after : Input}
    {json : Json} (breaks : Breaks continuesNumber rest)
    (read : valueUpTo bound depth (text ++ rest) = .ok (json, after)) :
    after = rest ∧ Reads (valueUpTo bound' depth) text json := by
  -- The texts of the parts are shorter than the whole, so that there is room for them too.
  induction isValue generalizing bound bound' depth rest after json with
  | null =>
      obtain ⟨bound, rfl⟩ := exists_bound_of_isValue .null enough
      obtain ⟨bound', rfl⟩ := exists_bound_of_isValue .null enough'
      exact reads_of_outcome (.ok .null) (fun _ _ _ => rfl) breaks read
  | bool value =>
      obtain ⟨bound, rfl⟩ := exists_bound_of_isValue (.bool value) enough
      obtain ⟨bound', rfl⟩ := exists_bound_of_isValue (.bool value) enough'
      refine reads_of_outcome (.ok (.bool value)) (fun _ _ _ => ?_) breaks read
      cases value <;> rfl
  | number isNumber =>
      obtain ⟨bound, rfl⟩ := exists_bound_of_isValue (.number isNumber) enough
      obtain ⟨bound', rfl⟩ := exists_bound_of_isValue (.number isNumber) enough'
      obtain ⟨outcome, same⟩ := valueUpTo_number depth isNumber
      exact reads_of_outcome outcome same breaks read
  | string isString =>
      obtain ⟨bound, rfl⟩ := exists_bound_of_isValue (.string isString) enough
      obtain ⟨bound', rfl⟩ := exists_bound_of_isValue (.string isString) enough'
      obtain ⟨body, isBody, rfl⟩ := isString
      rw [quotes_append, valueUpTo_quote] at read
      obtain ⟨⟨string, remaining⟩, readString, done⟩ := map_eq_ok_iff.mp read
      cases done
      obtain ⟨rfl, spells⟩ := spells_of_stringBody isBody readString
      refine ⟨rfl, fun rest _ => ?_⟩
      rw [quotes_append, valueUpTo_quote, stringBody_of_spells spells]
      rfl
  | @list items closing spaced values blank induction =>
      obtain ⟨bound, rfl⟩ := exists_bound_of_isValue (.list spaced values blank) enough
      obtain ⟨bound', rfl⟩ := exists_bound_of_isValue (.list spaced values blank) enough'
      have wellFormed : ∀ item ∈ items, item.WellFormed :=
        fun item member => ⟨spaced item member, values item member⟩
      have shorter : ∀ item ∈ items, item.value.length ≤ bound ∧ item.value.length ≤ bound' := by
        intro item member
        have lt := length_lt_listText member closing
        omega
      obtain ⟨room, rfl, jsons, rfl, each⟩ := (valueUpTo_listText_eq_ok_iff wellFormed blank
        fun item member _ _ _ => induction item member (shorter item member).1
          (shorter item member).1).mp read
      refine ⟨rfl, fun rest _ => (valueUpTo_listText_eq_ok_iff wellFormed blank
        fun item member _ _ _ => induction item member (shorter item member).2
          (shorter item member).2).mpr ⟨room, rfl, jsons, rfl, ?_⟩⟩
      exact forall₂_imp_of_mem each fun item member json reads =>
        (induction item member (shorter item member).1 (shorter item member).2 breaks_nil
          (reads [] breaks_nil)).2
  | @object members closing spaced values blank induction =>
      obtain ⟨bound, rfl⟩ := exists_bound_of_isValue (.object spaced values blank) enough
      obtain ⟨bound', rfl⟩ := exists_bound_of_isValue (.object spaced values blank) enough'
      have wellFormed : ∀ member ∈ members, member.WellFormed :=
        fun member among => ⟨spaced member among, values member among⟩
      have shorter : ∀ member ∈ members,
          member.value.length ≤ bound ∧ member.value.length ≤ bound' := by
        intro member among
        have lt := length_lt_objectText among closing
        omega
      obtain ⟨room, rfl, entries, rfl, each⟩ := (valueUpTo_objectText_eq_ok_iff wellFormed blank
        fun member among _ _ _ => induction member among (shorter member among).1
          (shorter member among).1).mp read
      refine ⟨rfl, fun rest _ => (valueUpTo_objectText_eq_ok_iff wellFormed blank
        fun member among _ _ _ => induction member among (shorter member among).2
          (shorter member among).2).mpr ⟨room, rfl, entries, rfl, ?_⟩⟩
      exact forall₂_imp_of_mem each fun member among entry gives =>
        ⟨gives.1, (induction member among (shorter member among).1 (shorter member among).2
          breaks_nil (gives.2 [] breaks_nil)).2⟩

/-! ## Values read to their end -/

/-- The bound of a reader is above the length of a text it starts with. -/
theorem length_le_bound (text rest : Input) : text.length ≤ (text ++ rest).length + 1 := by
  rw [List.length_append]
  omega

/-- What is read as a value does not depend on what follows. -/
theorem value_readsAlone (isValue : IsValue text) (depth : Nat) :
    ReadsAlone (value depth) text := by
  intro rest json after breaks read
  have reads := fun {bound : Nat} (enough : text.length ≤ bound) =>
    valueUpTo_reads isValue (length_le_bound text rest) enough breaks read
  exact ⟨(reads (length_le_bound text rest)).1, fun rest' breaks' =>
    (reads (length_le_bound text rest')).2 rest' breaks'⟩

/-- What is read as a value is read so with every bound that allows for its text. -/
theorem reads_value_iff (isValue : IsValue text) (enough : text.length ≤ bound) :
    Reads (value depth) text json ↔ Reads (valueUpTo bound depth) text json := by
  constructor
  · intro reads
    exact (valueUpTo_reads isValue (length_le_bound text []) enough breaks_nil
      (reads [] breaks_nil)).2
  · intro reads rest breaks
    have read := reads rest breaks
    exact (valueUpTo_reads isValue enough (length_le_bound text rest) breaks read).2 rest breaks

/-- **What is read as an object**, each of its members by itself. -/
theorem reads_objectText_iff {members : List Member} {closing : Input}
    (wellFormed : ∀ member ∈ members, member.WellFormed) (blank : Blank closing) :
    Reads (value depth) (objectText members closing) json ↔
      1 < depth ∧ ∃ entries, json = .object entries ∧
        List.Forall₂ (Gives (value (depth - 1))) members entries := by
  let length := (objectText members closing).length
  have isValue := isValue_objectText wellFormed blank
  have enough : ∀ member ∈ members, member.value.length ≤ length := by
    intro member among
    have lt := length_lt_objectText among closing
    omega
  have alone : ∀ member ∈ members,
      ReadsAlone (valueUpTo length (depth - 1)) member.value := by
    intro member among rest json after breaks read
    exact valueUpTo_reads (wellFormed member among).value (enough member among)
      (enough member among) breaks read
  have sameMember : ∀ member ∈ members, ∀ entry,
      Gives (valueUpTo length (depth - 1)) member entry ↔ Gives (value (depth - 1)) member entry :=
    fun member among entry => and_congr_right fun _ =>
      (reads_value_iff (wellFormed member among).value (enough member among)).symm
  rw [reads_value_iff isValue (Nat.le_succ length)]
  constructor
  · intro reads
    obtain ⟨room, -, entries, rfl, each⟩ :=
      (valueUpTo_objectText_eq_ok_iff wellFormed blank alone).mp (reads [] breaks_nil)
    exact ⟨room, entries, rfl, forall₂_imp_of_mem each fun member among entry =>
      (sameMember member among entry).mp⟩
  · rintro ⟨room, entries, rfl, each⟩ rest -
    have each' := forall₂_imp_of_mem each fun member among entry =>
      (sameMember member among entry).mpr
    exact (valueUpTo_objectText_eq_ok_iff wellFormed blank alone).mpr
      ⟨room, rfl, entries, rfl, each'⟩

/-- A text that spells a string is read as that string. -/
theorem reads_string {string : String} (isString : IsStringOf text string) (depth : Nat) :
    Reads (value depth) text (.string string) := by
  obtain ⟨body, spells, rfl⟩ := isString
  intro rest _
  rw [value, quotes_append, valueUpTo_quote, stringBody_of_spells spells]
  rfl

/-- What is read as a number from its text is one. -/
theorem isNumber_of_reads {json : Json} (isNumber : IsNumber text)
    (reads : Reads (value depth) text json) : ∃ literal, json = .number literal := by
  have read := reads [] breaks_nil
  rcases isNumber with isSize | ⟨size, -, rfl⟩
  · obtain ⟨c, following, d, rfl, digit⟩ := exists_digit_of_isSize isSize
    rw [value, List.cons_append, valueUpTo_digit digit] at read
    obtain ⟨_, -, done⟩ := map_eq_ok_iff.mp read
    exact ⟨_, (Prod.mk.inj done).1.symm⟩
  · rw [value, List.cons_append, valueUpTo_minus] at read
    obtain ⟨_, -, done⟩ := map_eq_ok_iff.mp read
    exact ⟨_, (Prod.mk.inj done).1.symm⟩

/-- What is read as a string from its text is spelled there. -/
theorem isStringOf_of_reads {json : Json} (isString : IsString text)
    (reads : Reads (value depth) text json) : ∃ string, IsStringOf text string := by
  obtain ⟨body, isBody, rfl⟩ := isString
  have read := reads [] breaks_nil
  rw [value, quotes_append, valueUpTo_quote] at read
  obtain ⟨⟨string, after⟩, readString, -⟩ := map_eq_ok_iff.mp read
  exact ⟨string, body, (spells_of_stringBody isBody readString).2, rfl⟩

/-- What is read as a list from its text is one. -/
theorem isArray_of_reads {items : List Item} {closing : Input}
    (reads : Reads (value depth) (listText items closing) json) : ∃ jsons, json = .array jsons := by
  have read := reads [] breaks_nil
  by_cases room : 1 < depth
  · rw [value, listText_append, valueUpTo_openList room] at read
    obtain ⟨_, -, done⟩ := map_eq_ok_iff.mp read
    exact ⟨_, (Prod.mk.inj done).1.symm⟩
  · rw [value, listText_append, valueUpTo_full (Nat.not_lt.mp room) _ _ (.inl rfl)] at read
    cases read

/-! ## Values of a given shape -/

/-- Blanks before a truth value do not matter. -/
theorem boolean_append {blanks : Input} (blank : Blank blanks) (input : Input) :
    boolean (blanks ++ input) = boolean input := by
  rw [boolean, skipSpace_append blank]
  rfl

/-- Blanks before a string do not matter. -/
theorem text_append {blanks : Input} (blank : Blank blanks) (input : Input) :
    Reading.text (blanks ++ input) = Reading.text input := by
  rw [Reading.text, skipSpace_append blank]
  rfl

/-- **What is read as a truth value.** -/
theorem boolean_eq_ok_iff (isValue : IsValue text) {truth : Bool} {after : Input} :
    boolean (text ++ rest) = .ok (truth, after) ↔ text = written (.bool truth) ∧ after = rest := by
  have reads : ∀ truth, boolean (written (.bool truth) ++ rest) = .ok (truth, rest) := by
    intro truth
    cases truth <;> rfl
  constructor
  · intro read
    obtain ⟨c, following, isText, starts, isTruth, -⟩ := exists_kind_of_isValue isValue
    by_cases first : c = 't' ∨ c = 'f'
    · obtain ⟨truth', rfl⟩ := isTruth first
      rw [reads] at read
      cases read
      exact ⟨rfl, rfl⟩
    · exfalso
      rw [isText, List.cons_append, boolean, starts.skipSpace_cons] at read
      split at read <;> simp_all
  · rintro ⟨rfl, rfl⟩
    exact reads truth

/-- **What is read as a string.** -/
theorem text_eq_ok_iff (isValue : IsValue text) {string : String} {after : Input} :
    Reading.text (text ++ rest) = .ok (string, after) ↔ IsStringOf text string ∧ after = rest := by
  have opened : ∀ body,
      Reading.text (quotes body ++ rest) = stringBody (body ++ some '"' :: rest) := by
    intro body
    rw [quotes_append]
    rfl
  constructor
  · intro read
    obtain ⟨c, following, isText, starts, -, isString, -⟩ := exists_kind_of_isValue isValue
    by_cases first : c = '"'
    · obtain ⟨body, isBody, rfl⟩ := isString first
      rw [opened] at read
      obtain ⟨rfl, spells⟩ := spells_of_stringBody isBody read
      exact ⟨⟨body, spells, rfl⟩, rfl⟩
    · exfalso
      rw [isText, List.cons_append, Reading.text, starts.skipSpace_cons] at read
      split at read <;> simp_all
  · rintro ⟨⟨body, spells, rfl⟩, rfl⟩
    rw [opened, stringBody_of_spells spells]

end TokenGrammar.Json.Reading
