import TokenGrammar.Proofs.Json.Numbers
import TokenGrammar.Proofs.Json.Spelling

/-! # Layouts of JSON texts

The same value can be laid out in many ways, with blanks between its parts and with strings spelled
differently. The texts of values are described here as they are written, by the rules of the format,
so that a text can be taken apart and put together again.

* `Json.Layout.Blank`, `Json.Layout.IsString`, `Json.Layout.IsStringOf`: blanks and strings.
* `Json.Layout.Item`, `Json.Layout.Member`: an item of a list and a member of an object.
* `Json.Layout.listText`, `Json.Layout.objectText`: a list and an object.
* `Json.Layout.IsValue`: the texts of values. -/

namespace TokenGrammar.Json.Layout

open Json.Reading (Input StartsItem continuesNumber separated separator skipSpace written)
open Text (Breaks breaks_cons breaks_nil)

/-! ## Parts -/

/-- Whether a character may stand between the parts of a text. -/
def isBlank (next : Option Char) : Bool :=
  next == some ' ' || next == some '\n' || next == some '\t' || next == some '\r'

/-- A text of such characters only. -/
def Blank (text : Input) : Prop :=
  ∀ next ∈ text, isBlank next = true

/-- A text between quotes. -/
def quotes (body : Input) : Input :=
  some '"' :: (body ++ [some '"'])

/-- A text in the form of a string. -/
def IsString (text : Input) : Prop :=
  ∃ body, IsBody body ∧ text = quotes body

/-- A text that spells a string. -/
def IsStringOf (text : Input) (string : String) : Prop :=
  ∃ body, Spells body string.toList ∧ text = quotes body

/-- An item of a list, with what stands around it. -/
structure Item where
  /-- What stands before it. -/
  before : Input
  /-- The text of the value. -/
  value : Input
  /-- What stands behind it. -/
  after : Input

/-- A member of an object, with what stands around its parts. -/
structure Member where
  /-- What stands before the name. -/
  beforeName : Input
  /-- The text of the name. -/
  name : Input
  /-- What stands between the name and the colon. -/
  afterName : Input
  /-- What stands between the colon and the value. -/
  beforeValue : Input
  /-- The text of the value. -/
  value : Input
  /-- What stands behind the value. -/
  after : Input

namespace Item

/-- The text of an item. -/
def text (item : Item) : Input :=
  item.before ++ (item.value ++ item.after)

/-- Whether only blanks stand around an item. -/
def Spaced (item : Item) : Prop :=
  Blank item.before ∧ Blank item.after

end Item

namespace Member

/-- The text of a member from its colon on, with more behind the colon. -/
def colonText (member : Member) (rest : Input) : Input :=
  member.afterName ++ some ':' :: (member.beforeValue ++ rest)

/-- The text of a member. -/
def text (member : Member) : Input :=
  member.beforeName ++ (member.name ++ member.colonText (member.value ++ member.after))

/-- Whether the name has the form of a string and only blanks stand around the parts of a member. -/
structure Spaced (member : Member) : Prop where
  /-- Blanks before the name. -/
  beforeName : Blank member.beforeName
  /-- The name. -/
  name : IsString member.name
  /-- Blanks between the name and the colon. -/
  afterName : Blank member.afterName
  /-- Blanks between the colon and the value. -/
  beforeValue : Blank member.beforeValue
  /-- Blanks behind the value. -/
  after : Blank member.after

/-- Whether a member has a name, however it is spelled. -/
def Named (member : Member) (name : String) : Prop :=
  IsStringOf member.name name

end Member

/-! ## Values -/

/-- The text of a list. -/
def listText (items : List Item) (closing : Input) : Input :=
  some '[' :: (separated true (items.map Item.text) ++ (closing ++ [some ']']))

/-- The text of an object. -/
def objectText (members : List Member) (closing : Input) : Input :=
  some '\x7b' :: (separated true (members.map Member.text) ++ (closing ++ [some '\x7d']))

/-- The texts of values. -/
inductive IsValue : Input → Prop where
  /-- The null value. -/
  | null : IsValue (written .null)
  /-- A truth value. -/
  | bool (value : Bool) : IsValue (written (.bool value))
  /-- A number. -/
  | number {text : Input} (isNumber : IsNumber text) : IsValue text
  /-- A string. -/
  | string {text : Input} (isString : IsString text) : IsValue text
  /-- A list of values. -/
  | list {items : List Item} {closing : Input} (spaced : ∀ item ∈ items, item.Spaced)
      (values : ∀ item ∈ items, IsValue item.value) (blank : Blank closing) :
      IsValue (listText items closing)
  /-- An object of values. -/
  | object {members : List Member} {closing : Input} (spaced : ∀ member ∈ members, member.Spaced)
      (values : ∀ member ∈ members, IsValue member.value) (blank : Blank closing) :
      IsValue (objectText members closing)

/-- An item of a list in the right form. -/
structure Item.WellFormed (item : Item) : Prop where
  /-- Blanks around the value. -/
  spaced : item.Spaced
  /-- The value. -/
  value : IsValue item.value

/-- A member of an object in the right form. -/
structure Member.WellFormed (member : Member) : Prop where
  /-- The name, and blanks around the parts. -/
  spaced : member.Spaced
  /-- The value. -/
  value : IsValue member.value

/-- A text in the form of a list. -/
def IsList (text : Input) : Prop :=
  ∃ items closing, (∀ item ∈ items, item.WellFormed) ∧ Blank closing ∧ text = listText items closing

/-- A list of well-formed items is a value. -/
theorem isValue_listText {items : List Item} {closing : Input}
    (wellFormed : ∀ item ∈ items, item.WellFormed) (blank : Blank closing) :
    IsValue (listText items closing) :=
  .list (fun item member => (wellFormed item member).spaced)
    (fun item member => (wellFormed item member).value) blank

/-- An object of well-formed members is a value. -/
theorem isValue_objectText {members : List Member} {closing : Input}
    (wellFormed : ∀ member ∈ members, member.WellFormed) (blank : Blank closing) :
    IsValue (objectText members closing) :=
  .object (fun member among => (wellFormed member among).spaced)
    (fun member among => (wellFormed member among).value) blank

/-- A text between quotes with more behind it. -/
theorem quotes_append (body rest : Input) :
    quotes body ++ rest = some '"' :: (body ++ some '"' :: rest) := by
  simp [quotes]

/-- The text of a list with more behind it. -/
theorem listText_append (items : List Item) (closing rest : Input) :
    listText items closing ++ rest =
      some '[' :: (separated true (items.map Item.text) ++ (closing ++ some ']' :: rest)) := by
  simp [listText]

/-- The text of an object with more behind it. -/
theorem objectText_append (members : List Member) (closing rest : Input) :
    objectText members closing ++ rest = some '\x7b' ::
      (separated true (members.map Member.text) ++ (closing ++ some '\x7d' :: rest)) := by
  simp [objectText]

/-! ## Blanks -/

variable {blanks text rest : Input}

@[simp] theorem blank_nil : Blank [] := nofun

@[simp] theorem blank_cons {next : Option Char} :
    Blank (next :: rest) ↔ isBlank next = true ∧ Blank rest :=
  List.forall_mem_cons

theorem blank_append : Blank (blanks ++ rest) ↔ Blank blanks ∧ Blank rest :=
  List.forall_mem_append

/-- The characters that may stand between the parts of a text. -/
theorem isBlank_eq_true_iff {next : Option Char} :
    isBlank next = true ↔
      next = some ' ' ∨ next = some '\n' ∨ next = some '\t' ∨ next = some '\r' := by
  simp [isBlank, or_assoc]

/-- Blanks are skipped. -/
theorem skipSpace_append (blank : Blank blanks) (rest : Input) :
    skipSpace (blanks ++ rest) = skipSpace rest := by
  induction blanks with
  | nil => rfl
  | cons next blanks induction =>
      obtain ⟨first, others⟩ := blank_cons.mp blank
      have further := induction others
      rcases isBlank_eq_true_iff.mp first with rfl | rfl | rfl | rfl <;>
        simp [skipSpace, further]

/-- Nothing is skipped where there are no blanks. -/
theorem skipSpace_of_breaks (breaks : Breaks isBlank text) : skipSpace text = text := by
  cases text with
  | nil => rfl
  | cons next rest =>
      have visible := breaks_cons.mp breaks
      have other : ∀ c, isBlank (some c) = true → next ≠ some c := by
        rintro c blank rfl
        simp [blank] at visible
      have space := other ' ' (by decide)
      have lineFeed := other '\n' (by decide)
      have tab := other '\t' (by decide)
      have carriageReturn := other '\r' (by decide)
      rw [Json.Reading.skipSpace.eq_def]
      split <;> simp_all

/-- What is skipped are the blanks that a text starts with. -/
theorem exists_blank_skipSpace (text : Input) :
    ∃ blanks, Blank blanks ∧ text = blanks ++ skipSpace text := by
  induction text with
  | nil => exact ⟨[], blank_nil, rfl⟩
  | cons next rest induction =>
      obtain ⟨blanks, blank, whole⟩ := induction
      by_cases visible : isBlank next = true
      · have single : Blank [next] := by simpa using visible
        have skipped : skipSpace (next :: rest) = skipSpace rest := skipSpace_append single rest
        refine ⟨next :: blanks, blank_cons.mpr ⟨visible, blank⟩, ?_⟩
        rw [skipped, List.cons_append, ← whole]
      · have breaks : Breaks isBlank (next :: rest) := breaks_cons.mpr (by simpa using visible)
        exact ⟨[], blank_nil, by rw [skipSpace_of_breaks breaks, List.nil_append]⟩

/-- What comes first after the blanks. -/
theorem exists_blank_of_skipSpace (skipped : skipSpace text = rest) :
    ∃ blanks, Blank blanks ∧ text = blanks ++ rest := by
  have found := exists_blank_skipSpace text
  rwa [skipped] at found

/-- A text is blank where nothing is left of it after the blanks. -/
theorem skipSpace_eq_nil_iff : skipSpace text = [] ↔ Blank text := by
  constructor
  · intro nothing
    obtain ⟨blanks, blank, whole⟩ := exists_blank_of_skipSpace nothing
    rwa [whole, List.append_nil]
  · intro blank
    have skipped := skipSpace_append blank []
    rwa [List.append_nil] at skipped

/-- A word is read letter by letter. -/
theorem eq_append_of_word {letters : List Char} (read : Json.Reading.word letters text = .ok rest) :
    text = letters.map some ++ rest := by
  induction letters generalizing text with
  | nil => exact Except.ok.inj read
  | cons letter letters induction =>
      cases text with
      | nil => cases read
      | cons next text =>
          rw [Json.Reading.word] at read
          by_cases same : next = some letter
          · rw [if_pos same] at read
            simp [same, induction read]
          · rw [if_neg same] at read
            cases read

/-- Blanks before the items of a list belong to the first of them, or to the end of the list. -/
theorem exists_items_append {items : List Item} {closing : Input} (blank : Blank blanks)
    (wellFormed : ∀ item ∈ items, item.WellFormed) (blankClosing : Blank closing) :
    ∃ (items' : List Item) (closing' : Input), (∀ item ∈ items', item.WellFormed) ∧
      Blank closing' ∧
        ∀ rest, blanks ++ (separated true (items.map Item.text) ++ (closing ++ rest)) =
          separated true (items'.map Item.text) ++ (closing' ++ rest) := by
  cases items with
  | nil =>
      exact ⟨[], blanks ++ closing, nofun, blank_append.mpr ⟨blank, blankClosing⟩,
        by simp [separated]⟩
  | cons item items =>
      obtain ⟨⟨⟨before, after⟩, isValue⟩, others⟩ := List.forall_mem_cons.mp wellFormed
      have first : Item.WellFormed { item with before := blanks ++ item.before } :=
        ⟨⟨blank_append.mpr ⟨blank, before⟩, after⟩, isValue⟩
      exact ⟨{ item with before := blanks ++ item.before } :: items, closing,
        List.forall_mem_cons.mpr ⟨first, others⟩, blankClosing, by
          simp [Json.Reading.separated_cons, separator, Item.text]⟩

/-- Blanks before the members of an object belong to the first of them, or to the end of the
object. -/
theorem exists_members_append {members : List Member} {closing : Input} (blank : Blank blanks)
    (wellFormed : ∀ member ∈ members, member.WellFormed) (blankClosing : Blank closing) :
    ∃ (members' : List Member) (closing' : Input), (∀ member ∈ members', member.WellFormed) ∧
      Blank closing' ∧
        ∀ rest, blanks ++ (separated true (members.map Member.text) ++ (closing ++ rest)) =
          separated true (members'.map Member.text) ++ (closing' ++ rest) := by
  cases members with
  | nil =>
      exact ⟨[], blanks ++ closing, nofun, blank_append.mpr ⟨blank, blankClosing⟩,
        by simp [separated]⟩
  | cons member members =>
      obtain ⟨⟨spaced, isValue⟩, others⟩ := List.forall_mem_cons.mp wellFormed
      have first : Member.WellFormed { member with beforeName := blanks ++ member.beforeName } :=
        ⟨{ spaced with beforeName := blank_append.mpr ⟨blank, spaced.beforeName⟩ }, isValue⟩
      exact ⟨{ member with beforeName := blanks ++ member.beforeName } :: members, closing,
        List.forall_mem_cons.mpr ⟨first, others⟩, blankClosing, by
          simp [Json.Reading.separated_cons, separator, Member.text, Member.colonText]⟩

/-! ## How texts start and end -/

/-- A number without its sign starts with a digit. -/
theorem exists_digit_of_isSize (isSize : IsSize text) :
    ∃ c rest d, text = some c :: rest ∧ Numeral.decimalDigit? c = some d := by
  obtain ⟨whole, fraction, exponent, isWhole, -, -, rfl⟩ := isSize
  have first : ∀ {d : Nat} {values : List Nat}, Digits whole (d :: values) →
      ∃ c rest d, whole ++ (fraction ++ exponent) = some c :: rest ∧
        Numeral.decimalDigit? c = some d := by
    intro d values digits
    cases digits with
    | cons digit _ =>
        obtain ⟨c, rfl, digit⟩ := Option.bind_eq_some_iff.mp digit
        exact ⟨c, _, d, rfl, digit⟩
  cases isWhole with
  | zero digits => exact first digits
  | positive digits => exact first digits

/-- A value starts with a character that is no blank and closes no list. The first character tells
truth values, strings and lists from other values. -/
theorem exists_kind_of_isValue (isValue : IsValue text) :
    ∃ c rest, text = some c :: rest ∧ StartsItem c ∧
      (c = 't' ∨ c = 'f' → ∃ truth, text = written (.bool truth)) ∧
      (c = '"' → IsString text) ∧ (c = '[' → IsList text) := by
  cases isValue with
  | null => exact ⟨'n', _, rfl, by decide, by simp, by simp, by simp⟩
  | bool truth =>
      cases truth with
      | false => exact ⟨'f', _, rfl, by decide, fun _ => ⟨false, rfl⟩, by simp, by simp⟩
      | true => exact ⟨'t', _, rfl, by decide, fun _ => ⟨true, rfl⟩, by simp, by simp⟩
  | number isNumber =>
      rcases isNumber with isSize | ⟨size, -, rfl⟩
      · obtain ⟨c, rest, d, rfl, digit⟩ := exists_digit_of_isSize isSize
        have other : ∀ c', Numeral.decimalDigit? c' = none → c ≠ c' := by
          rintro _ none rfl
          cases digit.symm.trans none
        have starts : StartsItem c := by
          refine ⟨?_, ?_, ?_, ?_, ?_⟩ <;> exact other _ (by decide)
        have noTruth : ¬(c = 't' ∨ c = 'f') :=
          not_or.mpr ⟨other 't' (by decide), other 'f' (by decide)⟩
        exact ⟨c, rest, rfl, starts, fun truth => absurd truth noTruth,
          fun quote => absurd quote (other '"' (by decide)),
          fun bracket => absurd bracket (other '[' (by decide))⟩
      · exact ⟨'-', size, rfl, by decide, by simp, by simp, by simp⟩
  | string isString =>
      obtain ⟨body, isBody, rfl⟩ := isString
      exact ⟨'"', _, rfl, by decide, by simp, fun _ => ⟨body, isBody, rfl⟩, by simp⟩
  | @list items closing spaced values blank =>
      have wellFormed : ∀ item ∈ items, item.WellFormed :=
        fun item member => ⟨spaced item member, values item member⟩
      exact ⟨'[', _, rfl, by decide, by simp, by simp,
        fun _ => ⟨items, closing, wellFormed, blank, rfl⟩⟩
  | object => exact ⟨'\x7b', _, rfl, by decide, by simp, by simp, by simp⟩

/-- A value starts with a character that is no blank and closes no list. -/
theorem exists_first_of_isValue (isValue : IsValue text) :
    ∃ c rest, text = some c :: rest ∧ StartsItem c := by
  obtain ⟨c, rest, isText, starts, -⟩ := exists_kind_of_isValue isValue
  exact ⟨c, rest, isText, starts⟩

/-- No number goes on after a value where there are blanks. -/
theorem breaks_blank_append (blank : Blank blanks) (breaks : Breaks continuesNumber rest) :
    Breaks continuesNumber (blanks ++ rest) := by
  cases blanks with
  | nil => exact breaks
  | cons next blanks =>
      refine breaks_cons.mpr ?_
      rcases isBlank_eq_true_iff.mp (blank_cons.mp blank).1 with rfl | rfl | rfl | rfl <;> decide

/-- No number goes on after a value where there is a comma. -/
theorem breaks_separated_append (texts : List Input) (breaks : Breaks continuesNumber rest) :
    Breaks continuesNumber (separated false texts ++ rest) := by
  cases texts with
  | nil => exact breaks
  | cons text texts => exact breaks_cons.mpr (by decide)

end TokenGrammar.Json.Layout
