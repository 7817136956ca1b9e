import TokenGrammar.Proofs.Json.Values
import TokenGrammar.Proofs.Text.Breaks

/-! # Texts of values are unambiguous

The text of a value is the text of no other value, and it tells where it ends. A string ends at its
quote, a list or object at its bracket, and a number, which has no end of its own, where something
follows that is not part of a number.

* `Json.Legible`: values whose numbers look like numbers.
* `Json.Kind`, `Json.kindOfChar?`: what a value is, by the first character of its text.
* `Json.Reading.TellsApart`: two items with texts that are told apart, whatever follows them.
* `Json.Reading.separated_append_inj`: lists of items are told apart if the items are.
* `Json.Reading.tellsApart_written`, `Json.render_inj`: values are told apart by their texts. -/

namespace TokenGrammar.Json

open Text (Breaks breaks_cons breaks_nil append_inj_of_breaks)

/-- Whether a character can be part of a number. -/
def isOfNumber (c : Char) : Bool :=
  c.isDigit || c == '-' || c == '+' || c == '.' || c == 'e' || c == 'E'

/-- A value whose numbers are written in the characters of numbers. -/
inductive Legible : Json → Prop where
  /-- The null value. -/
  | null : Legible .null
  /-- A truth value. -/
  | bool (value : Bool) : Legible (.bool value)
  /-- A number of one character or more. -/
  | number {literal : String} (solid : literal.toList ≠ [])
      (ofNumber : ∀ c ∈ literal.toList, isOfNumber c = true) : Legible (.number literal)
  /-- A string. -/
  | string (text : String) : Legible (.string text)
  /-- A list of such values. -/
  | array {items : List Json} (legible : ∀ item ∈ items, Legible item) : Legible (.array items)
  /-- An object of such values. -/
  | object {members : List (String × Json)} (legible : ∀ member ∈ members, Legible member.2) :
      Legible (.object members)

/-- A whole number is written in digits. -/
theorem toList_toString (n : Nat) : (toString n).toList = Nat.toDigits 10 n :=
  Nat.toList_repr

/-- Whole numbers look like numbers. -/
theorem legible_ofNat (n : Nat) : Legible (.ofNat n) := by
  refine .number ?_ ?_
  · rw [toList_toString]
    exact Nat.toDigits_ne_nil
  · intro c member
    rw [toList_toString] at member
    have digit := Nat.isDigit_of_mem_toDigits (by decide) (by decide) member
    simp [isOfNumber, digit]

/-- Whole numbers are told apart. -/
theorem ofNat_inj {n other : Nat} : ofNat n = ofNat other ↔ n = other := by
  constructor
  · intro same
    have digits := congrArg String.toList (number.inj same)
    rw [toList_toString, toList_toString] at digits
    exact Numeral.toDigits_inj.mp digits
  · exact congrArg ofNat

/-- What a value can be. -/
inductive Kind where
  /-- The null value. -/
  | null
  /-- A truth value. -/
  | bool
  /-- A number. -/
  | number
  /-- A string. -/
  | string
  /-- A list. -/
  | array
  /-- An object. -/
  | object
  deriving DecidableEq

/-- What a value is. -/
def kind : Json → Kind
  | .null => .null
  | .bool _ => .bool
  | .number _ => .number
  | .string _ => .string
  | .array _ => .array
  | .object _ => .object

/-- What the value is whose text starts with a character. -/
def kindOfChar? (c : Char) : Option Kind :=
  if c = 'n' then some .null
  else if c = 't' ∨ c = 'f' then some .bool
  else if c = '"' then some .string
  else if c = '[' then some .array
  else if c = '\x7b' then some .object
  else if isOfNumber c then some .number
  else none

/-- A character of a number starts numbers only. -/
theorem kindOfChar?_of_isOfNumber {c : Char} (ofNumber : isOfNumber c = true) :
    kindOfChar? c = some .number := by
  have other : ∀ d, isOfNumber d = false → c ≠ d := by
    rintro d notOfNumber rfl
    cases ofNumber.symm.trans notOfNumber
  rw [kindOfChar?, if_neg (other 'n' (by decide)),
    if_neg (not_or.mpr ⟨other 't' (by decide), other 'f' (by decide)⟩),
    if_neg (other '"' (by decide)), if_neg (other '[' (by decide)),
    if_neg (other '\x7b' (by decide)), if_pos ofNumber]

namespace Reading

/-- Whether a number goes on with a character. -/
def continuesNumber (c : Option Char) : Bool :=
  c.any isOfNumber

/-- The first character of a text tells what the value is. -/
theorem exists_written_of_kind {json : Json} (legible : json.Legible) :
    ∃ c rest, written json = some c :: rest ∧ kindOfChar? c = some json.kind := by
  cases legible with
  | null => exact ⟨'n', _, rfl, by decide⟩
  | bool value =>
      cases value with
      | false => exact ⟨'f', _, rfl, by decide⟩
      | true => exact ⟨'t', _, rfl, by decide⟩
  | @number literal solid ofNumber =>
      obtain ⟨c, others, isWritten⟩ := List.exists_cons_of_ne_nil solid
      have first : isOfNumber c = true := by
        apply ofNumber
        rw [isWritten]
        exact List.mem_cons_self
      refine ⟨c, others.map some, ?_, kindOfChar?_of_isOfNumber first⟩
      change literal.toList.map some = _
      rw [isWritten, List.map_cons]
  | string text => exact ⟨'"', _, written_string text, rfl⟩
  | array legible => exact ⟨'[', _, written_array _, rfl⟩
  | object legible => exact ⟨'\x7b', _, written_object _, rfl⟩

/-- Values with texts that start alike are of one kind. -/
theorem kind_eq_of_written {left right : Json} (legible : left.Legible)
    (legibleToo : right.Legible) {rest other : Input}
    (same : written left ++ rest = written right ++ other) : left.kind = right.kind := by
  obtain ⟨c, following, isWritten, kindLeft⟩ := exists_written_of_kind legible
  obtain ⟨d, followingToo, isWrittenToo, kindRight⟩ := exists_written_of_kind legibleToo
  rw [isWritten, isWrittenToo, List.cons_append, List.cons_append] at same
  cases (List.cons.inj same).1
  exact Option.some.inj (kindLeft.symm.trans kindRight)

/-- Whether two items have texts that are told apart, whatever follows them, unless a number goes on
there. -/
def TellsApart {α : Type} (write : α → Input) (left right : α) : Prop :=
  ∀ rest other, Breaks continuesNumber rest → Breaks continuesNumber other →
    write left ++ rest = write right ++ other → left = right ∧ rest = other

/-! ## Parts -/

/-- A string in quotes tells where it ends. -/
theorem inQuotes_append_inj {left right : String} {rest other : Input}
    (same : inQuotes left ++ rest = inQuotes right ++ other) : left = right ∧ rest = other := by
  rw [inQuotes_append, inQuotes_append] at same
  -- Both are read back from what follows the opening quote.
  have read := stringBody_quoted left rest
  rw [(List.cons.inj same).2, stringBody_quoted] at read
  exact Prod.mk.inj (Except.ok.inj read.symm)

/-- A truth value tells where it ends. -/
theorem bool_append_inj {left right : Bool} {rest other : Input}
    (same : written (.bool left) ++ rest = written (.bool right) ++ other) :
    left = right ∧ rest = other := by
  cases left <;> cases right
  · exact ⟨rfl, List.append_cancel_left same⟩
  · exact absurd (Option.some.inj (List.cons.inj same).1) (by decide)
  · exact absurd (Option.some.inj (List.cons.inj same).1) (by decide)
  · exact ⟨rfl, List.append_cancel_left same⟩

/-- A number ends where nothing follows that is part of a number. -/
theorem number_append_inj {left right : String} (ofNumber : ∀ c ∈ left.toList, isOfNumber c = true)
    (ofNumberToo : ∀ c ∈ right.toList, isOfNumber c = true) {rest other : Input}
    (breaks : Breaks continuesNumber rest) (breaksToo : Breaks continuesNumber other)
    (same : inputOfText left ++ rest = inputOfText right ++ other) :
    left = right ∧ rest = other := by
  have isWord : ∀ {text : String}, (∀ c ∈ text.toList, isOfNumber c = true) →
      ∀ c ∈ inputOfText text, continuesNumber c = true := by
    intro text each c member
    obtain ⟨d, among, rfl⟩ := List.mem_map.mp member
    exact each d among
  obtain ⟨words, rests⟩ :=
    append_inj_of_breaks (isWord ofNumber) (isWord ofNumberToo) breaks breaksToo same
  have letters := (List.map_inj_right fun _ _ => Option.some.inj).mp words
  exact ⟨String.toList_inj.mp letters, rests⟩

/-- Members with names are told apart if their values are. -/
theorem TellsApart.member {left right : String × Json}
    (apart : TellsApart written left.2 right.2) : TellsApart writtenMember left right := by
  intro rest other breaks breaksToo same
  rw [writtenMember, writtenMember, List.append_assoc, List.append_assoc] at same
  obtain ⟨names, following⟩ := inQuotes_append_inj same
  obtain ⟨values, rests⟩ := apart rest other breaks breaksToo (List.cons.inj following).2
  exact ⟨Prod.ext names values, rests⟩

/-- After an item comes a comma or what closes the list, and no number goes on there. -/
theorem breaks_separated {close : Char} (closes : isOfNumber close = false) (texts : List Input)
    (rest : Input) : Breaks continuesNumber (separated false texts ++ some close :: rest) := by
  cases texts with
  | nil => exact breaks_cons.mpr closes
  | cons text texts =>
      rw [separated_cons, separator_false]
      have comma : isOfNumber ',' = false := by decide
      exact breaks_cons.mpr comma

/-- An item or its comma is not what closes the list. -/
theorem separated_cons_ne {close : Char} (noComma : close ≠ ',') {text : Input}
    (inside : ∀ following rest, text ++ following ≠ some close :: rest) (first : Bool)
    (texts : List Input) (following rest : Input) :
    separated first (text :: texts) ++ following ≠ some close :: rest := by
  intro same
  rw [separated_cons, List.append_assoc, List.append_assoc] at same
  cases first with
  | true => exact inside _ _ same
  | false => exact noComma (Option.some.inj (List.cons.inj same).1).symm

/-- **Lists of items are told apart if the items are.** -/
theorem separated_append_inj {α : Type} {write : α → Input} {close : Char} (noComma : close ≠ ',')
    (closes : isOfNumber close = false) {lefts rights : List α}
    (inside : ∀ item, item ∈ lefts ∨ item ∈ rights →
      ∀ following rest, write item ++ following ≠ some close :: rest)
    (apart : ∀ left ∈ lefts, ∀ right ∈ rights, TellsApart write left right) (first : Bool)
    {rest other : Input}
    (same : separated first (lefts.map write) ++ some close :: rest =
      separated first (rights.map write) ++ some close :: other) :
    lefts = rights ∧ rest = other := by
  induction lefts generalizing rights first with
  | nil =>
      cases rights with
      | nil => exact ⟨rfl, (List.cons.inj same).2⟩
      | cons right rights =>
          have insideRight := inside right (.inr List.mem_cons_self)
          exact absurd same.symm (separated_cons_ne noComma insideRight first _ _ _)
  | cons left lefts induction =>
      cases rights with
      | nil =>
          have insideLeft := inside left (.inl List.mem_cons_self)
          exact absurd same (separated_cons_ne noComma insideLeft first _ _ _)
      | cons right rights =>
          rw [List.map_cons, List.map_cons, separated_cons, separated_cons] at same
          simp only [List.append_assoc] at same
          obtain ⟨heads, following⟩ := apart left List.mem_cons_self right List.mem_cons_self _ _
            (breaks_separated closes _ rest) (breaks_separated closes _ other)
            (List.append_cancel_left same)
          have insideLater : ∀ item, item ∈ lefts ∨ item ∈ rights →
              ∀ following rest, write item ++ following ≠ some close :: rest :=
            fun item member => inside item
              (member.imp (List.mem_cons_of_mem left) (List.mem_cons_of_mem right))
          obtain ⟨tails, rests⟩ := induction insideLater
            (fun one among another amongToo => apart one (List.mem_cons_of_mem left among) another
              (List.mem_cons_of_mem right amongToo)) false following
          exact ⟨by rw [heads, tails], rests⟩

/-! ## Values -/

/-- The text of a value does not start with what closes a list. -/
theorem written_append_ne_bracket {json : Json} (legible : json.Legible)
    (following rest : Input) : written json ++ following ≠ some ']' :: rest := by
  intro same
  obtain ⟨c, others, isWritten, isKind⟩ := exists_written_of_kind legible
  rw [isWritten, List.cons_append] at same
  cases (List.cons.inj same).1
  have none : kindOfChar? ']' = none := by decide
  cases none.symm.trans isKind

/-- The text of a member does not start with what closes an object. -/
theorem writtenMember_append_ne_brace (member : String × Json) (following rest : Input) :
    writtenMember member ++ following ≠ some '\x7d' :: rest := by
  intro same
  rw [writtenMember, List.append_assoc, inQuotes_append] at same
  exact absurd (Option.some.inj (List.cons.inj same).1) (by decide)

/-- **Values are told apart by their texts.** -/
theorem tellsApart_written {left : Json} (legible : left.Legible) {right : Json}
    (legibleToo : right.Legible) : TellsApart written left right := by
  -- The first characters show that both are of one kind, so each case has to deal with its own.
  induction legible generalizing right with
  | null =>
      intro rest other _ _ same
      have kinds := kind_eq_of_written .null legibleToo same
      cases legibleToo with
      | null => exact ⟨rfl, List.append_cancel_left same⟩
      | _ => cases kinds
  | bool value =>
      intro rest other _ _ same
      have kinds := kind_eq_of_written (.bool value) legibleToo same
      cases legibleToo with
      | bool value' =>
          obtain ⟨values, rests⟩ := bool_append_inj same
          exact ⟨congrArg _ values, rests⟩
      | _ => cases kinds
  | @number literal solid ofNumber =>
      intro rest other breaks breaksToo same
      have kinds := kind_eq_of_written (.number solid ofNumber) legibleToo same
      cases legibleToo with
      | @number literal' solid' ofNumber' =>
          obtain ⟨literals, rests⟩ := number_append_inj ofNumber ofNumber' breaks breaksToo same
          exact ⟨congrArg _ literals, rests⟩
      | _ => cases kinds
  | string text =>
      intro rest other _ _ same
      have kinds := kind_eq_of_written (.string text) legibleToo same
      cases legibleToo with
      | string text' =>
          rw [written_string, written_string] at same
          obtain ⟨texts, rests⟩ := inQuotes_append_inj same
          exact ⟨congrArg _ texts, rests⟩
      | _ => cases kinds
  | @array items legible induction =>
      intro rest other _ _ same
      have kinds := kind_eq_of_written (.array legible) legibleToo same
      cases legibleToo with
      | @array items' legible' =>
          rw [written_array_append, written_array_append] at same
          have inside : ∀ item, item ∈ items ∨ item ∈ items' →
              ∀ following rest, written item ++ following ≠ some ']' :: rest :=
            fun item member =>
              written_append_ne_bracket (member.elim (legible item) (legible' item))
          obtain ⟨lists, rests⟩ := separated_append_inj (by decide) (by decide) inside
            (fun one among another amongToo => induction one among (legible' another amongToo))
            true (List.cons.inj same).2
          exact ⟨congrArg _ lists, rests⟩
      | _ => cases kinds
  | @object members legible induction =>
      intro rest other _ _ same
      have kinds := kind_eq_of_written (.object legible) legibleToo same
      cases legibleToo with
      | @object members' legible' =>
          rw [written_object_append, written_object_append] at same
          obtain ⟨lists, rests⟩ := separated_append_inj (by decide) (by decide)
            (fun member _ => writtenMember_append_ne_brace member)
            (fun one among another amongToo =>
              (induction one among (legible' another amongToo)).member)
            true (List.cons.inj same).2
          exact ⟨congrArg _ lists, rests⟩
      | _ => cases kinds

end Reading

/-- **The text of a value is the text of no other value.** -/
theorem render_inj {left right : Json} (legible : left.Legible) (legibleToo : right.Legible) :
    left.render = right.render ↔ left = right := by
  constructor
  · intro same
    have texts : Reading.written left ++ [] = Reading.written right ++ [] := by
      rw [Reading.written, same]
      rfl
    exact (Reading.tellsApart_written legible legibleToo [] [] breaks_nil breaks_nil texts).1
  · exact congrArg render

end TokenGrammar.Json
