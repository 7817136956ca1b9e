import TokenGrammar.Proofs.Json.Parts
import TokenGrammar.Proofs.Json.SkippedNumbers

/-! # Values that do not matter

What is skipped as a value is the text of one, and every text of a value is skipped, however deep
its lists and objects go.

* `Json.Reading.resume`: the rest of the lists and objects around a value.
* `Json.Reading.skipValue_append`: the text of a value is skipped.
* `Json.Reading.Frame.IsRest`, `Json.Reading.Ends`: what is left of the lists and objects around.
* `Json.Reading.exists_isValue_of_skipValue`: what is skipped is the text of a value. -/

namespace TokenGrammar.Json.Reading

open Layout
open Text (Breaks breaks_cons breaks_nil)

variable {frame : Frame} {outer frames : List Frame} {blanks text rest input : Input}

/-! ## Runs in steps -/

/-- The character that a list or object starts with. -/
def Frame.opening : Frame → Char
  | .list => '['
  | .object => '\x7b'

/-- Skip what follows in the lists and objects around, and the values there. -/
def resume (bound : Nat) (started : Bool) (frames : List Frame) (input : Input) :
    Except ReadError Input := do
  let (remaining, next) ← skipToNext frames started input
  match remaining with
  | [] => pure next
  | _ :: _ => skipWithin bound remaining next

/-- Skip an item or member of a list or object from its start on, and what follows. -/
def enter (bound : Nat) (frame : Frame) (outer : List Frame) (input : Input) :
    Except ReadError Input :=
  frame.skipToValue input >>= skipWithin bound (frame :: outer)

/-- A value is skipped by its start, and then what follows that. -/
theorem skipWithin_succ (bound : Nat) (frames : List Frame) (input : Input) :
    skipWithin (bound + 1) frames input =
      skipStart input >>= fun start =>
        resume bound start.1.isNone (start.1.toList ++ frames) start.2 :=
  rfl

/-- What is done at the next visible character of a list or object. -/
theorem resume_cons (bound : Nat) (started : Bool) (frame : Frame) (outer : List Frame)
    (input : Input) :
    resume bound started (frame :: outer) input =
      match skipSpace input with
      | [] => .error frame.unfinished
      | next :: rest =>
          if started && next == some ',' then enter bound frame outer rest
          else if next = some frame.closing then resume bound true outer rest
          else if started then .error frame.unseparated
          else enter bound frame outer (next :: rest) := by
  rw [resume, skipToNext]
  cases skipSpace input with
  | nil => rfl
  | cons next rest =>
      simp only
      split
      · exact bind_assoc (frame.skipToValue rest) _ _
      · split
        · rfl
        · split
          · rfl
          · exact bind_assoc (frame.skipToValue (next :: rest)) _ _

/-- Blanks before a value do not matter. -/
theorem skipWithin_append (blank : Blank blanks) (bound : Nat) (frames : List Frame)
    (input : Input) :
    skipWithin bound frames (blanks ++ input) = skipWithin bound frames input := by
  cases bound with
  | zero => rfl
  | succ bound =>
      have start : skipStart (blanks ++ input) = skipStart input := by
        rw [skipStart, skipSpace_append blank]
        rfl
      rw [skipWithin_succ, skipWithin_succ, start]

/-- Blanks before an item or member do not matter. -/
theorem enter_append (blank : Blank blanks) (bound : Nat) (frame : Frame) (outer : List Frame)
    (input : Input) :
    enter bound frame outer (blanks ++ input) = enter bound frame outer input := by
  cases frame with
  | list => exact skipWithin_append blank bound _ input
  | object =>
      have toValue : Frame.object.skipToValue (blanks ++ input) =
          Frame.object.skipToValue input := by
        simp only [Frame.skipToValue, skipSpace_append blank]
      rw [enter, enter, toValue]

/-- Blanks after a value do not matter where a list or object is around. -/
theorem resume_append (blank : Blank blanks) (bound : Nat) (started : Bool) (frame : Frame)
    (outer : List Frame) (input : Input) :
    resume bound started (frame :: outer) (blanks ++ input) =
      resume bound started (frame :: outer) input := by
  rw [resume_cons, resume_cons, skipSpace_append blank]

/-- What closes a list or object is no blank and no comma. -/
theorem skipSpace_closing (frame : Frame) (rest : Input) :
    skipSpace (some frame.closing :: rest) = some frame.closing :: rest := by
  cases frame <;> rfl

/-- A list or object ends where it is closed. -/
theorem resume_closing (blank : Blank blanks) (bound : Nat) (started : Bool) (frame : Frame)
    (outer : List Frame) (rest : Input) :
    resume bound started (frame :: outer) (blanks ++ some frame.closing :: rest) =
      resume bound true outer rest := by
  have noComma : frame.closing ≠ ',' := by
    cases frame <;> decide
  rw [resume_append blank, resume_cons, skipSpace_closing]
  simp [noComma]

/-! ## Texts of values are skipped -/

/-- Whether the text of an item or member is skipped in a number of steps, whatever follows. -/
structure Frame.Passes (frame : Frame) (steps : Nat) (text : Input) : Prop where
  /-- The text does not start with what closes the list or object. -/
  inside : ∀ rest, ∃ next following,
    skipSpace (text ++ rest) = next :: following ∧ next ≠ some frame.closing
  /-- Behind the text, what follows is skipped. -/
  passes : ∀ bound outer rest, Breaks continuesNumber rest →
    enter (bound + steps) frame outer (text ++ rest) = resume bound true (frame :: outer) rest

/-- An item or member is entered after its comma. -/
theorem resume_separator {steps : Nat} (passes : frame.Passes steps text) (bound : Nat)
    (first : Bool) (outer : List Frame) (rest : Input) :
    resume bound (!first) (frame :: outer) (separator first ++ (text ++ rest)) =
      enter bound frame outer (text ++ rest) := by
  cases first with
  | true =>
      obtain ⟨next, following, skipped, inside⟩ := passes.inside rest
      obtain ⟨blanks, blank, whole⟩ := exists_blank_of_skipSpace skipped
      change resume bound false (frame :: outer) (text ++ rest) = _
      rw [resume_cons, skipped, whole, enter_append blank]
      simp [inside]
  | false => exact resume_cons bound true frame outer (some ',' :: (text ++ rest))

/-- The items or members of a list or object are skipped if each of them is. -/
theorem exists_resume_separated {texts : List Input}
    (each : ∀ text ∈ texts, ∃ steps ≤ text.length, frame.Passes steps text) (blank : Blank blanks)
    (first : Bool) :
    ∃ steps ≤ (separated first texts).length, ∀ bound outer rest,
      resume (bound + steps) (!first) (frame :: outer)
          (separated first texts ++ (blanks ++ some frame.closing :: rest)) =
        resume bound true outer rest := by
  induction texts generalizing first with
  | nil =>
      exact ⟨0, Nat.le_refl _, fun bound outer rest =>
        resume_closing blank bound _ frame outer rest⟩
  | cons text texts induction =>
      obtain ⟨⟨steps, short, passes⟩, others⟩ := List.forall_mem_cons.mp each
      obtain ⟨further, shortToo, done⟩ := induction others false
      -- The steps add up, and so do the characters of the texts.
      refine ⟨further + steps, ?_, fun bound outer rest => ?_⟩
      · rw [separated_cons, List.length_append, List.length_append]
        omega
      · have notOfNumber : isOfNumber frame.closing = false := by
          cases frame <;> decide
        have breaks : Breaks continuesNumber
            (separated false texts ++ (blanks ++ some frame.closing :: rest)) :=
          breaks_separated_append texts (breaks_blank_append blank (breaks_cons.mpr notOfNumber))
        rw [separated_cons, List.append_assoc, List.append_assoc, resume_separator passes,
          ← Nat.add_assoc, passes.passes _ outer _ breaks]
        exact done bound outer rest

/-- Whether the text of a value is skipped in a number of steps, whatever follows. -/
def SkippedIn (steps : Nat) (text : Input) : Prop :=
  ∀ bound frames rest, Breaks continuesNumber rest →
    skipWithin (bound + steps) frames (text ++ rest) = resume bound true frames rest

/-- A value that is skipped by its start takes one step. -/
theorem skippedIn_one (starts : ∀ rest, Breaks continuesNumber rest →
    skipStart (text ++ rest) = .ok (none, rest)) : SkippedIn 1 text := by
  intro bound frames rest breaks
  rw [skipWithin_succ, starts rest breaks]
  rfl

/-- A number is skipped from its first digit on. -/
theorem skipStart_digit {c : Char} {d : Nat} (digit : Numeral.decimalDigit? c = some d)
    (rest : Input) :
    skipStart (some c :: rest) = (skipNumber (some c :: rest)).map fun after => (none, after) := by
  have among := mem_of_decimalDigit? digit
  simp only [List.mem_cons, List.not_mem_nil, or_false] at among
  rcases among with rfl | rfl | rfl | rfl | rfl | rfl | rfl | rfl | rfl | rfl <;> rfl

/-- A number is skipped by its start. -/
theorem skipStart_number (isNumber : IsNumber text) (breaks : Breaks continuesNumber rest) :
    skipStart (text ++ rest) = .ok (none, rest) := by
  rcases isNumber with isSize | ⟨size, isSize, rfl⟩
  · have skipped := skipNumber_append isSize breaks
    obtain ⟨c, following, d, rfl, digit⟩ := exists_digit_of_isSize isSize
    rw [List.cons_append, skipStart_digit digit, ← List.cons_append, skipped]
    rfl
  · change skipNumber (size ++ rest) >>= _ = _
    rw [skipNumber_append isSize breaks]
    rfl

/-- The text of an item is skipped if that of its value is. -/
theorem Frame.Passes.item {item : Item} (wellFormed : item.WellFormed) {steps : Nat}
    (skipped : SkippedIn steps item.value) : Frame.list.Passes steps item.text := by
  obtain ⟨⟨before, after⟩, isValue⟩ := wellFormed
  refine ⟨fun rest => ?_, fun bound outer rest breaks => ?_⟩
  · obtain ⟨c, following, isText, starts⟩ := exists_first_of_isValue isValue
    refine ⟨some c, following ++ (item.after ++ rest), ?_, ?_⟩
    · rw [Item.text, List.append_assoc, skipSpace_append before, isText]
      simpa using starts.skipSpace_cons _
    · exact fun same => starts.2.2.2.2 (Option.some.inj same)
  · rw [Item.text, List.append_assoc, enter_append before, List.append_assoc]
    change skipWithin (bound + steps) (.list :: outer) (item.value ++ (item.after ++ rest)) = _
    rw [skipped bound _ _ (breaks_blank_append after breaks), resume_append after]

/-- The text of a member is skipped if that of its value is. -/
theorem Frame.Passes.member {member : Member} (wellFormed : member.WellFormed) {steps : Nat}
    (skipped : SkippedIn steps member.value) : Frame.object.Passes steps member.text := by
  obtain ⟨spaced, isValue⟩ := wellFormed
  obtain ⟨body, isBody, isName⟩ := spaced.name
  have isText : ∀ rest, member.text ++ rest = member.beforeName ++ some '"' ::
      (body ++ some '"' :: member.colonText (member.value ++ (member.after ++ rest))) := by
    intro rest
    simp [Member.text, Member.colonText, isName, quotes]
  refine ⟨fun rest => ?_, fun bound outer rest breaks => ?_⟩
  · rw [isText, skipSpace_append spaced.beforeName]
    exact ⟨some '"', _, rfl, by decide⟩
  · rw [isText, enter_append spaced.beforeName, enter]
    change (skipString (body ++ _) >>= colon) >>= _ = _
    rw [skipString_append isBody]
    change colon (member.colonText _) >>= _ = _
    rw [colon_colonText spaced]
    change skipWithin (bound + steps) (.object :: outer) (member.beforeValue ++ _) = _
    rw [skipWithin_append spaced.beforeValue, skipped bound _ _
      (breaks_blank_append spaced.after breaks), resume_append spaced.after]

/-- The text of a value is skipped in no more steps than it has characters. -/
theorem exists_skippedIn (isValue : IsValue text) :
    ∃ steps ≤ text.length, SkippedIn steps text := by
  -- A list or object takes one step more than its parts, for the character that opens it.
  induction isValue with
  | null => exact ⟨1, by decide, skippedIn_one fun _ _ => rfl⟩
  | bool value =>
      refine ⟨1, ?_, skippedIn_one fun _ _ => ?_⟩ <;> cases value <;> first | rfl | decide
  | number isNumber =>
      obtain ⟨c, following, rfl, -⟩ := exists_first_of_isValue (.number isNumber)
      exact ⟨1, Nat.succ_pos _, skippedIn_one fun _ breaks => skipStart_number isNumber breaks⟩
  | string isString =>
      obtain ⟨body, isBody, rfl⟩ := isString
      refine ⟨1, Nat.succ_pos _, skippedIn_one fun rest _ => ?_⟩
      rw [quotes_append]
      change skipString (body ++ some '"' :: rest) >>= _ = _
      rw [skipString_append isBody]
      rfl
  | @list items closing spaced values blank induction =>
      have each : ∀ text ∈ items.map Item.text, ∃ steps ≤ text.length,
          Frame.list.Passes steps text := by
        intro text among
        obtain ⟨item, member, rfl⟩ := List.mem_map.mp among
        obtain ⟨steps, short, skipped⟩ := induction item member
        refine ⟨steps, ?_, .item ⟨spaced item member, values item member⟩ skipped⟩
        simp only [Item.text, List.length_append]
        omega
      obtain ⟨steps, short, done⟩ := exists_resume_separated each blank true
      refine ⟨steps + 1, ?_, fun bound frames rest _ => ?_⟩
      · simp only [listText, List.length_cons, List.length_append]
        omega
      · rw [listText_append]
        exact done bound frames rest
  | @object members closing spaced values blank induction =>
      have each : ∀ text ∈ members.map Member.text, ∃ steps ≤ text.length,
          Frame.object.Passes steps text := by
        intro text among
        obtain ⟨member, memberOf, rfl⟩ := List.mem_map.mp among
        obtain ⟨steps, short, skipped⟩ := induction member memberOf
        refine ⟨steps, ?_, .member ⟨spaced member memberOf, values member memberOf⟩ skipped⟩
        simp only [Member.text, Member.colonText, List.length_append, List.length_cons]
        omega
      obtain ⟨steps, short, done⟩ := exists_resume_separated each blank true
      refine ⟨steps + 1, ?_, fun bound frames rest _ => ?_⟩
      · simp only [objectText, List.length_cons, List.length_append]
        omega
      · rw [objectText_append]
        exact done bound frames rest

/-- **The text of a value is skipped**, with blanks before it, if no number goes on behind it. -/
theorem skipValue_append (blank : Blank blanks) (isValue : IsValue text)
    (breaks : Breaks continuesNumber rest) : skipValue (blanks ++ (text ++ rest)) = .ok rest := by
  obtain ⟨steps, short, skipped⟩ := exists_skippedIn isValue
  obtain ⟨bound, enough⟩ : ∃ bound, (blanks ++ (text ++ rest)).length + 1 = bound + steps := by
    refine ⟨(blanks ++ (text ++ rest)).length + 1 - steps, ?_⟩
    simp only [List.length_append]
    omega
  rw [skipValue, enough, skipWithin_append blank, skipped bound [] rest breaks]
  rfl

/-! ## What is skipped is a value -/

/-- Whether a text is the rest of a list or object from an item or member on, up to its end. -/
def Frame.IsRest (frame : Frame) (first : Bool) (text : Input) : Prop :=
  match frame with
  | .list => ∃ (items : List Item) (closing : Input), (∀ item ∈ items, item.WellFormed) ∧
      Blank closing ∧ text = separated first (items.map Item.text) ++ (closing ++ [some ']'])
  | .object => ∃ (members : List Member) (closing : Input),
      (∀ member ∈ members, member.WellFormed) ∧ Blank closing ∧
        text = separated first (members.map Member.text) ++ (closing ++ [some '\x7d'])

/-- Whether a text goes on with the rests of the lists and objects around, the innermost first, and
then with a given text. `started` tells whether a value stands before it in the innermost one. -/
def Ends : (started : Bool) → List Frame → Input → Input → Prop
  | _, [], input, rest => input = rest
  | started, frame :: outer, input, rest => ∃ blanks text after, Blank blanks ∧
      frame.IsRest (!started) text ∧ input = blanks ++ (text ++ after) ∧ Ends true outer after rest

/-- A list or object can end at once. -/
theorem Frame.IsRest.closing (frame : Frame) (first : Bool) :
    frame.IsRest first [some frame.closing] := by
  cases frame with
  | list => exact ⟨[], [], nofun, blank_nil, rfl⟩
  | object => exact ⟨[], [], nofun, blank_nil, rfl⟩

/-- What comes before the value of a member. -/
theorem exists_of_skipToValue (toValue : Frame.object.skipToValue input = .ok rest) :
    ∃ blanks body blanks', Blank blanks ∧ IsBody body ∧ Blank blanks' ∧
      input = blanks ++ (quotes body ++ (blanks' ++ some ':' :: rest)) := by
  rw [Frame.skipToValue] at toValue
  split at toValue
  · cases toValue
  · rename_i following visible
    obtain ⟨blanks, blank, rfl⟩ := exists_blank_of_skipSpace visible
    obtain ⟨_, skippedName, colonRead⟩ := bind_eq_ok_iff.mp toValue
    obtain ⟨body, isBody, rfl⟩ := exists_isBody_of_skipString skippedName
    obtain ⟨blanks', blank', rfl⟩ := exists_blank_of_colon colonRead
    exact ⟨blanks, body, blanks', blank, isBody, blank', by rw [quotes_append]⟩
  · cases toValue

/-- A list or object goes on with an item or member, and then as before. -/
theorem Frame.IsRest.cons {following value after : Input}
    (toValue : frame.skipToValue input = .ok following) (first : Bool)
    (blank : Blank blanks) (isValue : IsValue value) (blankAfter : Blank after)
    (isRest : frame.IsRest false text)
    (whole : following = blanks ++ (value ++ (after ++ (text ++ rest)))) :
    ∃ text', frame.IsRest first text' ∧ separator first ++ input = text' ++ rest := by
  cases frame with
  | list =>
      obtain ⟨items, closing, wellFormed, blankClosing, rfl⟩ := isRest
      obtain rfl : input = following := Except.ok.inj toValue
      have itemWellFormed : Item.WellFormed ⟨blanks, value, after⟩ := ⟨⟨blank, blankAfter⟩, isValue⟩
      refine ⟨_, ⟨⟨blanks, value, after⟩ :: items, closing,
        List.forall_mem_cons.mpr ⟨itemWellFormed, wellFormed⟩, blankClosing, rfl⟩, ?_⟩
      simp [whole, separated_cons, Item.text]
  | object =>
      obtain ⟨members, closing, wellFormed, blankClosing, rfl⟩ := isRest
      obtain ⟨beforeName, body, afterName, blankName, isBody, blankColon, rfl⟩ :=
        exists_of_skipToValue toValue
      have memberWellFormed :
          Member.WellFormed ⟨beforeName, quotes body, afterName, blanks, value, after⟩ :=
        ⟨⟨blankName, ⟨body, isBody, rfl⟩, blankColon, blank, blankAfter⟩, isValue⟩
      refine ⟨_, ⟨⟨beforeName, quotes body, afterName, blanks, value, after⟩ :: members, closing,
        List.forall_mem_cons.mpr ⟨memberWellFormed, wellFormed⟩, blankClosing, rfl⟩, ?_⟩
      simp [whole, separated_cons, Member.text, Member.colonText]

/-- Blanks can stand before the first item or member of a list or object, or before its end. -/
theorem Frame.IsRest.append (isRest : frame.IsRest true text) (blank : Blank blanks) :
    frame.IsRest true (blanks ++ text) := by
  cases frame with
  | list =>
      obtain ⟨items, closing, wellFormed, blankClosing, rfl⟩ := isRest
      obtain ⟨items', closing', wellFormed', blankClosing', same⟩ :=
        exists_items_append blank wellFormed blankClosing
      exact ⟨items', closing', wellFormed', blankClosing', same _⟩
  | object =>
      obtain ⟨members, closing, wellFormed, blankClosing, rfl⟩ := isRest
      obtain ⟨members', closing', wellFormed', blankClosing', same⟩ :=
        exists_members_append blank wellFormed blankClosing
      exact ⟨members', closing', wellFormed', blankClosing', same _⟩

/-- A list or object with all of its items or members is a value. -/
theorem Frame.IsRest.isValue (isRest : frame.IsRest true text) :
    IsValue (some frame.opening :: text) := by
  cases frame with
  | list =>
      obtain ⟨items, closing, wellFormed, blank, rfl⟩ := isRest
      exact isValue_listText wellFormed blank
  | object =>
      obtain ⟨members, closing, wellFormed, blank, rfl⟩ := isRest
      exact isValue_objectText wellFormed blank

/-- What is skipped as the start of a value is a value, or the opening of a list or object. -/
theorem exists_of_skipStart {frame? : Option Frame}
    (skipped : skipStart input = .ok (frame?, rest)) :
    ∃ blanks text, Blank blanks ∧ input = blanks ++ (text ++ rest) ∧
      match frame? with
      | none => IsValue text
      | some frame => text = [some frame.opening] := by
  obtain ⟨blanks, blank, whole⟩ := exists_blank_skipSpace input
  have found : ∀ text, skipSpace input = text ++ rest → (match frame? with
      | none => IsValue text
      | some frame => text = [some frame.opening]) → ∃ blanks text, Blank blanks ∧
        input = blanks ++ (text ++ rest) ∧ match frame? with
          | none => IsValue text
          | some frame => text = [some frame.opening] :=
    fun text isText isStart => ⟨blanks, text, blank, by rw [whole, isText], isStart⟩
  -- Where only the start of a value decides, the rest of it is skipped by a function of its own.
  rw [skipStart] at skipped
  split at skipped
  · cases skipped
  · rename_i following visible
    obtain ⟨_, isWord, done⟩ := bind_eq_ok_iff.mp skipped
    cases done
    exact found (written .null) (by rw [visible, eq_append_of_word isWord]; rfl) .null
  · rename_i following visible
    obtain ⟨_, isWord, done⟩ := bind_eq_ok_iff.mp skipped
    cases done
    exact found (written (.bool true)) (by rw [visible, eq_append_of_word isWord]; rfl) (.bool true)
  · rename_i following visible
    obtain ⟨_, isWord, done⟩ := bind_eq_ok_iff.mp skipped
    cases done
    exact found (written (.bool false)) (by rw [visible, eq_append_of_word isWord]; rfl)
      (.bool false)
  · rename_i following visible
    obtain ⟨_, skippedNumber, done⟩ := bind_eq_ok_iff.mp skipped
    cases done
    obtain ⟨size, isSize, rfl⟩ := exists_isSize_of_skipNumber skippedNumber
    exact found (some '-' :: size) visible (.number (.inr ⟨size, isSize, rfl⟩))
  · rename_i following visible
    obtain ⟨_, skippedString, done⟩ := bind_eq_ok_iff.mp skipped
    cases done
    obtain ⟨body, isBody, rfl⟩ := exists_isBody_of_skipString skippedString
    exact found (quotes body) (by rw [visible, quotes_append]) (.string ⟨body, isBody, rfl⟩)
  · rename_i following visible
    cases skipped
    exact found [some '['] visible rfl
  · rename_i following visible
    cases skipped
    exact found [some '\x7b'] visible rfl
  · by_cases digit : (digit? (skipSpace input)).isSome
    · rw [if_pos digit] at skipped
      obtain ⟨_, skippedNumber, done⟩ := bind_eq_ok_iff.mp skipped
      cases done
      obtain ⟨size, isSize, isText⟩ := exists_isSize_of_skipNumber skippedNumber
      exact found size isText (.number (.inl isSize))
    · rw [if_neg digit] at skipped
      cases skipped

/-- What is skipped in the lists and objects around are their rests, if what is skipped as a value
is one. -/
theorem ends_of_resume {bound : Nat}
    (within : ∀ frames input rest, skipWithin bound frames input = .ok rest →
      ∃ blanks text after, Blank blanks ∧ IsValue text ∧ input = blanks ++ (text ++ after) ∧
        Ends true frames after rest)
    {started : Bool} (skipped : resume bound started frames input = .ok rest) :
    Ends started frames input rest := by
  -- Nothing is entered behind what closes a list or object, so that one less is around.
  induction frames generalizing started input with
  | nil => exact Except.ok.inj skipped
  | cons frame outer induction =>
      obtain ⟨blanks, blank, whole⟩ := exists_blank_skipSpace input
      -- An item or member is followed by the rest of the list or object.
      have entered : ∀ (first : Bool) {following : Input},
          enter bound frame outer following = .ok rest → ∃ text after, frame.IsRest first text ∧
            separator first ++ following = text ++ after ∧ Ends true outer after rest := by
        intro first following entered
        obtain ⟨atValue, toValue, skippedValue⟩ := bind_eq_ok_iff.mp entered
        obtain ⟨before, value, after, blankBefore, isValue, isText, ends⟩ :=
          within _ _ _ skippedValue
        obtain ⟨between, text, behind, blankBetween, isRest, isAfter, ends⟩ := ends
        rw [isAfter] at isText
        obtain ⟨text', isRest', isText'⟩ :=
          isRest.cons toValue first blankBefore isValue blankBetween isText
        exact ⟨text', behind, isRest', isText', ends⟩
      rw [resume_cons] at skipped
      cases visible : skipSpace input with
      | nil =>
          rw [visible] at skipped
          cases skipped
      | cons next following =>
          rw [visible] at skipped whole
          simp only at skipped
          by_cases comma : (started && next == some ',') = true
          · rw [if_pos comma] at skipped
            obtain ⟨text, after, isRest, isText, ends⟩ := entered false skipped
            obtain ⟨isStarted, isComma⟩ : started = true ∧ next = some ',' := by
              simpa using comma
            refine ⟨blanks, text, after, blank, by simpa [isStarted] using isRest, ?_, ends⟩
            rw [whole, ← isText, isComma]
            rfl
          rw [if_neg comma] at skipped
          by_cases closed : next = some frame.closing
          · rw [if_pos closed] at skipped
            exact ⟨blanks, [next], following, blank, closed ▸ .closing frame _, whole,
              induction skipped⟩
          rw [if_neg closed] at skipped
          cases started with
          | true => cases skipped
          | false =>
              obtain ⟨text, after, isRest, isText, ends⟩ := entered true skipped
              exact ⟨blanks, text, after, blank, isRest, by rw [whole, ← isText]; rfl, ends⟩

/-- What is skipped as a value with the rest of the lists and objects around is so. -/
theorem exists_of_skipWithin {bound : Nat} (skipped : skipWithin bound frames input = .ok rest) :
    ∃ blanks text after, Blank blanks ∧ IsValue text ∧ input = blanks ++ (text ++ after) ∧
      Ends true frames after rest := by
  induction bound generalizing frames input rest with
  | zero => cases skipped
  | succ bound induction =>
      rw [skipWithin_succ] at skipped
      obtain ⟨⟨frame?, following⟩, started, resumed⟩ := bind_eq_ok_iff.mp skipped
      obtain ⟨blanks, text, blank, rfl, isStart⟩ := exists_of_skipStart started
      have ends := ends_of_resume (fun _ _ _ => induction) resumed
      cases frame? with
      | none => exact ⟨blanks, text, following, blank, isStart, rfl, ends⟩
      | some frame =>
          obtain ⟨between, text', after, blankBetween, isRest, rfl, ends⟩ := ends
          obtain rfl : text = [some frame.opening] := isStart
          exact ⟨blanks, _, after, blank, (isRest.append blankBetween).isValue, by simp, ends⟩

/-- **What is skipped is the text of a value.** -/
theorem exists_isValue_of_skipValue (skipped : skipValue input = .ok rest) :
    ∃ blanks text, Blank blanks ∧ IsValue text ∧ input = blanks ++ (text ++ rest) := by
  -- With no list or object around, nothing comes between the value and the rest.
  obtain ⟨blanks, text, after, blank, isValue, rfl, rfl⟩ := exists_of_skipWithin skipped
  exact ⟨blanks, text, blank, isValue, rfl⟩

end TokenGrammar.Json.Reading
