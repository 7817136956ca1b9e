import TokenGrammar.Proofs.Json.Layout

/-! # Lists and objects, part by part

A list is read item by item, and an object member by member. If what is made of each part does not
depend on what follows it, then neither does what is made of the whole, and the parts tell what
that is.

* `Json.Reading.Reads`, `Json.Reading.ReadsAlone`: a reader takes a text whatever follows.
* `Json.Reading.readList_eq_ok_iff`: what is read as a list.
* `Json.Reading.Chain`, `Json.Reading.readObject_eq_ok_iff`: what is read as an object.
* `Json.Reading.Covers`, `Json.Reading.exists_items_of_readList`,
  `Json.Reading.exists_members_of_readObject`: what is read as a list or an object is one. -/

namespace TokenGrammar.Json.Reading

open Layout
open Text (Breaks breaks_cons breaks_nil)

variable {α σ : Type}

/-- Whether a reader takes a text and no more, whatever follows, and what it makes of the text. -/
def Reads (reader : Input → Except ReadError (α × Input)) (text : Input) (value : α) : Prop :=
  ∀ rest, Breaks continuesNumber rest → reader (text ++ rest) = .ok (value, rest)

/-- Whether a reader that accepts a text with something behind it takes that text and no more, and
would so whatever followed. -/
def ReadsAlone (reader : Input → Except ReadError (α × Input)) (text : Input) : Prop :=
  ∀ rest value after, Breaks continuesNumber rest → reader (text ++ rest) = .ok (value, after) →
    after = rest ∧ Reads reader text value

/-- A reader makes one thing of a text. -/
theorem Reads.unique {reader : Input → Except ReadError (α × Input)} {text : Input}
    {value other : α} (reads : Reads reader text value) (reads' : Reads reader text other) :
    value = other := by
  have same := (reads [] breaks_nil).symm.trans (reads' [] breaks_nil)
  exact (Prod.mk.inj (Except.ok.inj same)).1

/-! ## Items -/

/-- Read the items of a list and its closing bracket. -/
def readList (step : σ → Input → Except ReadError (σ × Input)) (bound : Nat) (first : Bool)
    (state : σ) (input : Input) : Except ReadError (σ × Input) := do
  let (final, remaining) ← foldItems step bound first state input
  pure (final, ← endList remaining)

variable {step : σ → Input → Except ReadError (σ × Input)} {blanks rest closing : Input}

/-- Blanks before an item do not matter. -/
theorem readList_append (blank : Blank blanks) (bound : Nat) (first : Bool) (state : σ)
    (input : Input) :
    readList step bound first state (blanks ++ input) = readList step bound first state input := by
  cases bound with
  | zero => rfl
  | succ bound =>
      have next : nextItem? first (blanks ++ input) = nextItem? first input := by
        rw [nextItem?, skipSpace_append blank]
        rfl
      have ending : endList (blanks ++ input) = endList input := by
        rw [endList, skipSpace_append blank]
        rfl
      rw [readList, readList, foldItems, foldItems, next]
      cases nextItem? first input with
      | error error => rfl
      | ok item? =>
          cases item? with
          | none => simp [bind, Except.bind, pure, Except.pure, ending]
          | some item => rfl

/-- A list ends with its closing bracket. -/
theorem readList_end (blank : Blank closing) (bound : Nat) (first : Bool) (state : σ)
    (rest : Input) :
    readList step (bound + 1) first state (closing ++ some ']' :: rest) = .ok (state, rest) := by
  rw [readList_append blank]
  rfl

/-- An item is read after its comma, and then the others. -/
theorem readList_cons {c : Char} (starts : StartsItem c) (blank : Blank blanks) (bound : Nat)
    (first : Bool) (state : σ) (rest : Input) :
    readList step (bound + 1) first state (separator first ++ (blanks ++ some c :: rest)) =
      step state (some c :: rest) >>= fun following =>
        readList step bound false following.1 following.2 := by
  have next : nextItem? first (separator first ++ (blanks ++ some c :: rest)) =
      .ok (some (some c :: rest)) := by
    have inside : c ≠ ']' := starts.2.2.2.2
    have skipped := starts.skipSpace_cons rest
    cases first with
    | true => simp [nextItem?, skipSpace_append blank, skipped, inside]
    | false => simp [nextItem?, skipSpace, skipSpace_append blank, skipped, inside]
  rw [readList, foldItems, next]
  exact bind_assoc (step state (some c :: rest)) _ _

/-- No number goes on after an item. -/
theorem breaks_after (blank : Blank blanks) (texts : List Input) (blank' : Blank closing)
    {close : Char} (closes : isOfNumber close = false) (rest : Input) :
    Breaks continuesNumber (blanks ++ (separated false texts ++ (closing ++ some close :: rest))) :=
  breaks_blank_append blank
    (breaks_separated_append texts (breaks_blank_append blank' (breaks_cons.mpr closes)))

/-- **What is read as a list.** The items are read one by one, and what is made of each does not
depend on the others. -/
theorem readList_eq_ok_iff {reader : Input → Except ReadError (α × Input)} {items : List Item}
    (wellFormed : ∀ item ∈ items, item.WellFormed)
    (alone : ∀ item ∈ items, ReadsAlone reader item.value) {bound : Nat}
    (enough : items.length < bound) (blank : Blank closing) (first : Bool) (before : List α)
    {list : List α} {rest after : Input} :
    readList (appendItem reader) bound first before
        (separated first (items.map Item.text) ++ (closing ++ some ']' :: rest)) =
          .ok (list, after) ↔
      after = rest ∧ ∃ values, list = before ++ values ∧
        List.Forall₂ (fun item => Reads reader item.value) items values := by
  induction items generalizing bound first before with
  | nil =>
      obtain ⟨bound, rfl⟩ := Nat.exists_eq_add_one.mpr enough
      have ended : readList (appendItem reader) (bound + 1) first before
          (closing ++ some ']' :: rest) = .ok (before, rest) :=
        readList_end blank bound first before rest
      simp only [List.map_nil, separated, List.nil_append, ended]
      constructor
      · rintro ⟨⟩
        exact ⟨rfl, [], by simp, .nil⟩
      · rintro ⟨rfl, values, rfl, each⟩
        cases each
        simp
  | cons item items induction =>
      obtain ⟨firstWellFormed, restWellFormed⟩ := List.forall_mem_cons.mp wellFormed
      obtain ⟨firstAlone, restAlone⟩ := List.forall_mem_cons.mp alone
      rw [List.length_cons] at enough
      obtain ⟨bound, rfl⟩ := Nat.exists_eq_add_one.mpr (Nat.zero_lt_of_lt enough)
      obtain ⟨⟨blankBefore, blankAfter⟩, isValue⟩ := firstWellFormed
      obtain ⟨c, more, isText, starts⟩ := exists_first_of_isValue isValue
      -- What follows the value, and what is left after the item.
      let further := separated false (items.map Item.text) ++ (closing ++ some ']' :: rest)
      have breaks : Breaks continuesNumber (item.after ++ further) :=
        breaks_after blankAfter _ blank (by decide) rest
      have later := fun before => induction restWellFormed restAlone (Nat.lt_of_succ_lt_succ enough)
        false before
      have unfolded : readList (appendItem reader) (bound + 1) first before
          (separated first ((item :: items).map Item.text) ++ (closing ++ some ']' :: rest)) =
          reader (item.value ++ (item.after ++ further)) >>= fun read =>
            readList (appendItem reader) bound false (before ++ [read.1]) read.2 := by
        have text : separated first ((item :: items).map Item.text) ++
            (closing ++ some ']' :: rest) =
              separator first ++ (item.before ++ (item.value ++ (item.after ++ further))) := by
          simp [separated_cons, Item.text, further]
        rw [text, isText, List.cons_append, readList_cons starts blankBefore]
        exact bind_assoc _ _ _
      rw [unfolded, bind_eq_ok_iff]
      constructor
      · rintro ⟨⟨value, remaining⟩, read, done⟩
        obtain ⟨rfl, reads⟩ := firstAlone _ _ _ breaks read
        rw [readList_append blankAfter] at done
        obtain ⟨rfl, values, rfl, each⟩ := (later _).mp done
        exact ⟨rfl, value :: values, by simp, .cons reads each⟩
      · rintro ⟨rfl, values, rfl, each⟩
        cases each with
        | @cons _ value _ values reads each =>
            refine ⟨_, reads _ breaks, ?_⟩
            rw [readList_append blankAfter]
            exact (later _).mpr ⟨rfl, values, by simp, each⟩

/-! ## Members -/

/-- Read the members of an object and its closing brace. -/
def readObject (step : σ → String → Input → Except ReadError (σ × Input)) (bound : Nat)
    (first : Bool) (state : σ) (input : Input) : Except ReadError (σ × Input) := do
  let (final, remaining) ← foldMembers step bound first state input
  pure (final, ← endObject remaining)

section

variable {step : σ → String → Input → Except ReadError (σ × Input)}

/-- Blanks before a member do not matter. -/
theorem readObject_append (blank : Blank blanks) (bound : Nat) (first : Bool) (state : σ)
    (input : Input) :
    readObject step bound first state (blanks ++ input) =
      readObject step bound first state input := by
  cases bound with
  | zero => rfl
  | succ bound =>
      have next : nextKey? first (blanks ++ input) = nextKey? first input := by
        rw [nextKey?, skipSpace_append blank]
        rfl
      have ending : endObject (blanks ++ input) = endObject input := by
        rw [endObject, skipSpace_append blank]
        rfl
      rw [readObject, readObject, foldMembers, foldMembers, next]
      cases nextKey? first input with
      | error error => rfl
      | ok key? =>
          cases key? with
          | none => simp [bind, Except.bind, pure, Except.pure, ending]
          | some key => rfl

/-- An object ends with its closing brace. -/
theorem readObject_end (blank : Blank closing) (bound : Nat) (first : Bool) (state : σ)
    (rest : Input) :
    readObject step (bound + 1) first state (closing ++ some '\x7d' :: rest) =
      .ok (state, rest) := by
  rw [readObject_append blank]
  rfl

/-- The name of a member is read after the comma. -/
theorem readObject_cons (blank : Blank blanks) (bound : Nat) (first : Bool) (state : σ)
    (body rest : Input) :
    readObject step (bound + 1) first state
        (separator first ++ (blanks ++ (quotes body ++ rest))) =
      stringBody (body ++ some '"' :: rest) >>= fun read => step state read.1 read.2 >>=
        fun following => readObject step bound false following.1 following.2 := by
  have next : nextKey? first (separator first ++ (blanks ++ (quotes body ++ rest))) =
      (stringBody (body ++ some '"' :: rest)).map some := by
    rw [quotes_append]
    cases first with
    | true =>
        simp [nextKey?, skipSpace_append blank, skipSpace]
        rfl
    | false =>
        simp [nextKey?, skipSpace, skipSpace_append blank]
        rfl
  rw [readObject, foldMembers, next]
  cases stringBody (body ++ some '"' :: rest) with
  | error error => rfl
  | ok read => exact bind_assoc (step state read.1 read.2) _ _

/-- What is read from one member after the other, with the state before and behind each of them. -/
inductive Chain (step : σ → String → Input → Except ReadError (σ × Input)) :
    σ → List Member → σ → Prop where
  /-- No members. -/
  | nil (state : σ) : Chain step state [] state
  /-- A member, and others. -/
  | cons {state next final : σ} {member : Member} {members : List Member} {name : String}
      (named : member.Named name)
      (reads : Reads (fun input => step state name (member.colonText input)) member.value next)
      (further : Chain step next members final) : Chain step state (member :: members) final

/-- A text that spells a string is read as that string. -/
theorem stringBody_of_spells {body : Input} {string : String} (spells : Spells body string.toList)
    (rest : Input) : stringBody (body ++ some '"' :: rest) = .ok (string, rest) := by
  rw [stringBody_append spells, String.ofList_toList]

/-- A string in quotes spells the string. -/
theorem isStringOf_inQuotes (string : String) : IsStringOf (inQuotes string) string := by
  obtain ⟨body, spells, same⟩ := exists_spells_of_stringBody (stringBody_quoted string [])
  obtain rfl := List.append_cancel_right same
  exact ⟨_, spells, rfl⟩

/-- A member has one name. -/
theorem named_unique {member : Member} {name other : String} (named : member.Named name)
    (named' : member.Named other) : name = other := by
  obtain ⟨body, spells, isName⟩ := named
  obtain ⟨body', spells', isName'⟩ := named'
  have read := stringBody_of_spells spells []
  obtain rfl : body = body' := by
    simpa [quotes] using isName.symm.trans isName'
  rw [stringBody_of_spells spells'] at read
  exact (Prod.mk.inj (Except.ok.inj read)).1.symm

/-- What stands behind a member stands behind its value. -/
theorem colonText_append (member : Member) (text rest : Input) :
    member.colonText text ++ rest = member.colonText (text ++ rest) := by
  simp [Member.colonText]

/-- The value of a member is read after the colon. -/
theorem colon_colonText {member : Member} (spaced : member.Spaced) (input : Input) :
    colon (member.colonText input) = .ok (member.beforeValue ++ input) := by
  rw [colon, Member.colonText, skipSpace_append spaced.afterName]
  rfl

/-- **What is read as an object.** The members are read one by one, and what is made of each depends
on those before it at most. -/
theorem readObject_eq_ok_iff {members : List Member}
    (wellFormed : ∀ member ∈ members, member.WellFormed)
    (alone : ∀ member ∈ members, ∀ state name,
      ReadsAlone (fun input => step state name (member.colonText input)) member.value)
    {bound : Nat} (enough : members.length < bound) (blank : Blank closing) (first : Bool)
    (state : σ) {final : σ} {rest after : Input} :
    readObject step bound first state
        (separated first (members.map Member.text) ++ (closing ++ some '\x7d' :: rest)) =
          .ok (final, after) ↔
      after = rest ∧ Chain step state members final := by
  induction members generalizing bound first state with
  | nil =>
      obtain ⟨bound, rfl⟩ := Nat.exists_eq_add_one.mpr enough
      have ended : readObject step (bound + 1) first state (closing ++ some '\x7d' :: rest) =
          .ok (state, rest) := readObject_end blank bound first state rest
      simp only [List.map_nil, separated, List.nil_append, ended]
      constructor
      · rintro ⟨⟩
        exact ⟨rfl, .nil _⟩
      · rintro ⟨rfl, ⟨⟩⟩
        rfl
  | cons member members induction =>
      obtain ⟨firstWellFormed, restWellFormed⟩ := List.forall_mem_cons.mp wellFormed
      obtain ⟨firstAlone, restAlone⟩ := List.forall_mem_cons.mp alone
      rw [List.length_cons] at enough
      obtain ⟨bound, rfl⟩ := Nat.exists_eq_add_one.mpr (Nat.zero_lt_of_lt enough)
      have spaced := firstWellFormed.spaced
      -- What follows the value, and what is left after the member.
      let further := separated false (members.map Member.text) ++ (closing ++ some '\x7d' :: rest)
      have breaks : Breaks continuesNumber (member.after ++ further) :=
        breaks_after spaced.after _ blank (by decide) rest
      have later := fun state => induction restWellFormed restAlone
        (Nat.lt_of_succ_lt_succ enough) false state
      have unfolded : ∀ body, member.name = quotes body →
          readObject step (bound + 1) first state
              (separated first ((member :: members).map Member.text) ++
                (closing ++ some '\x7d' :: rest)) =
            stringBody (body ++ some '"' :: member.colonText (member.value ++
                (member.after ++ further))) >>= fun read => step state read.1 read.2 >>=
              fun following => readObject step bound false following.1 following.2 := by
        intro body isName
        have text : separated first ((member :: members).map Member.text) ++
            (closing ++ some '\x7d' :: rest) =
              separator first ++ (member.beforeName ++ (quotes body ++
                member.colonText (member.value ++ (member.after ++ further)))) := by
          simp [separated_cons, Member.text, colonText_append, isName, further]
        rw [text, readObject_cons spaced.beforeName]
      constructor
      · intro read
        obtain ⟨body, isBody, isName⟩ := spaced.name
        rw [unfolded body isName] at read
        obtain ⟨⟨name, remaining⟩, readName, readRest⟩ := bind_eq_ok_iff.mp read
        obtain ⟨rfl, spells⟩ := spells_of_stringBody isBody readName
        obtain ⟨⟨next, remaining⟩, readValue, done⟩ := bind_eq_ok_iff.mp readRest
        obtain ⟨rfl, reads⟩ := firstAlone _ _ _ _ _ breaks readValue
        rw [readObject_append spaced.after] at done
        obtain ⟨rfl, chain⟩ := (later _).mp done
        exact ⟨rfl, .cons ⟨body, spells, isName⟩ reads chain⟩
      · rintro ⟨rfl, chain⟩
        cases chain with
        | @cons _ next _ _ _ name named reads chain =>
            obtain ⟨body, spells, isName⟩ := named
            rw [unfolded body isName, stringBody_of_spells spells]
            refine bind_eq_ok_iff.mpr ⟨_, rfl, bind_eq_ok_iff.mpr ⟨_, reads _ breaks, ?_⟩⟩
            rw [readObject_append spaced.after]
            exact (later _).mpr ⟨rfl, chain⟩

end

/-! ## What is read as a list or an object -/

/-- Whether a reader accepts values only, with blanks before them. -/
def Covers (reader : Input → Except ReadError (α × Input)) : Prop :=
  ∀ input value rest, reader input = .ok (value, rest) →
    ∃ blanks text, Blank blanks ∧ IsValue text ∧ input = blanks ++ (text ++ rest)

/-- What comes before an item, if one is found. -/
theorem exists_of_nextItem? {first : Bool} {input item : Input}
    (found : nextItem? first input = .ok (some item)) :
    ∃ blanks blanks', Blank blanks ∧ Blank blanks' ∧
      input = blanks ++ (separator first ++ (blanks' ++ item)) := by
  obtain ⟨blanks, blank, whole⟩ := exists_blank_skipSpace input
  rw [nextItem?] at found
  split at found
  · cases found
  · cases found
  · rename_i next rest _ isText
    rw [isText] at whole
    by_cases isFirst : first = true
    · rw [if_pos isFirst] at found
      cases found
      exact ⟨blanks, [], blank, blank_nil, by simp [isFirst, whole]⟩
    rw [if_neg isFirst] at found
    by_cases comma : next = some ','
    · rw [if_pos comma] at found
      split at found
      · cases found
      · cases found
      · cases found
        obtain ⟨blanks', blank', wholeRest⟩ := exists_blank_skipSpace rest
        refine ⟨blanks, blanks', blank, blank', ?_⟩
        rw [← wholeRest, whole, comma]
        simp [isFirst]
    · rw [if_neg comma] at found
      cases found

/-- What comes before the end of a list is blank. -/
theorem exists_blank_of_endList {input : Input} (ended : endList input = .ok rest) :
    ∃ blanks, Blank blanks ∧ input = blanks ++ some ']' :: rest := by
  rw [endList] at ended
  split at ended
  · cases ended
  · rename_i following isText
    cases ended
    exact exists_blank_of_skipSpace isText
  · split at ended <;> cases ended
  · cases ended

/-- **What is read as a list is one**, if what is read as an item is a value. -/
theorem exists_items_of_readList {reader : Input → Except ReadError (α × Input)}
    (covers : Covers reader) {bound : Nat} {first : Bool} {before list : List α} {input : Input}
    (read : readList (appendItem reader) bound first before input = .ok (list, rest)) :
    ∃ (blanks : Input) (items : List Item) (closing : Input), Blank blanks ∧
      (∀ item ∈ items, item.WellFormed) ∧ Blank closing ∧
        input = blanks ++
          (separated first (items.map Item.text) ++ (closing ++ some ']' :: rest)) := by
  induction bound generalizing first before input with
  | zero => cases read
  | succ bound induction =>
      obtain ⟨⟨final, remaining⟩, folded, done⟩ := bind_eq_ok_iff.mp read
      obtain ⟨item?, found, folded⟩ := bind_eq_ok_iff.mp folded
      cases item? with
      | none =>
          cases folded
          obtain ⟨_, ended, done⟩ := bind_eq_ok_iff.mp done
          cases done
          obtain ⟨blanks, blank, rfl⟩ := exists_blank_of_endList ended
          exact ⟨blanks, [], [], blank, nofun, blank_nil, rfl⟩
      | some item =>
          obtain ⟨⟨next, following⟩, stepped, folded⟩ := bind_eq_ok_iff.mp folded
          obtain ⟨⟨value, after⟩, readItem, appended⟩ := bind_eq_ok_iff.mp stepped
          cases appended
          -- The blanks before what comes next are those behind this item.
          obtain ⟨lead, items, closing, blankLead, wellFormed, blankClosing, rfl⟩ :=
            induction (bind_eq_ok_iff.mpr ⟨_, folded, done⟩)
          obtain ⟨blanks, blanks', blank, blank', rfl⟩ := exists_of_nextItem? found
          obtain ⟨inner, text, blankInner, isValue, rfl⟩ := covers _ _ _ readItem
          refine ⟨blanks, ⟨blanks' ++ inner, text, lead⟩ :: items, closing, blank, ?_, blankClosing,
            ?_⟩
          · refine List.forall_mem_cons.mpr ⟨⟨⟨blank_append.mpr ⟨blank', blankInner⟩, blankLead⟩,
              isValue⟩, wellFormed⟩
          · simp [separated_cons, Item.text]

/-- What is read as a list after its opening bracket is the rest of the text of one. -/
theorem exists_listText_of_readList {reader : Input → Except ReadError (α × Input)}
    (covers : Covers reader) {bound : Nat} {before list : List α} {input : Input}
    (read : readList (appendItem reader) bound true before input = .ok (list, rest)) :
    ∃ (items : List Item) (closing : Input), (∀ item ∈ items, item.WellFormed) ∧ Blank closing ∧
      some '[' :: input = listText items closing ++ rest := by
  obtain ⟨lead, items, closing, blankLead, wellFormed, blank, rfl⟩ :=
    exists_items_of_readList covers read
  obtain ⟨items', closing', wellFormed', blank', same⟩ :=
    exists_items_append blankLead wellFormed blank
  exact ⟨items', closing', wellFormed', blank', by rw [listText_append, same]⟩

/-- Whether a reader of members accepts a colon and a value only, with blanks around the colon. -/
def CoversMember (step : σ → String → Input → Except ReadError (σ × Input)) : Prop :=
  ∀ state name input next rest, step state name input = .ok (next, rest) →
    ∃ blanks blanks' text, Blank blanks ∧ Blank blanks' ∧ IsValue text ∧
      input = blanks ++ some ':' :: (blanks' ++ (text ++ rest))

/-- What comes before the rest of a member, if one is found. -/
theorem exists_of_nextKey? {first : Bool} {input : Input} {name : String}
    (found : nextKey? first input = .ok (some (name, rest))) :
    ∃ blanks blanks' body, Blank blanks ∧ Blank blanks' ∧ Spells body name.toList ∧
      input = blanks ++ (separator first ++ (blanks' ++ (quotes body ++ rest))) := by
  obtain ⟨blanks, blank, whole⟩ := exists_blank_skipSpace input
  -- The name stands at the end of the blanks, or after a comma and more blanks.
  obtain ⟨blanks', following, blank', isText, readName⟩ : ∃ blanks' following, Blank blanks' ∧
      skipSpace input = separator first ++ (blanks' ++ some '"' :: following) ∧
        stringBody following = .ok (name, rest) := by
    rw [nextKey?] at found
    split at found
    · cases found
    · cases found
    · rename_i next after _ isText
      by_cases isFirst : first = true
      · rw [if_pos isFirst] at found
        dsimp only at found
        split at found
        · cases found
        · rename_i following opening
          obtain ⟨_, readName, done⟩ := bind_eq_ok_iff.mp found
          cases done
          exact ⟨[], following, blank_nil, by simp [isText, isFirst, opening], readName⟩
        · cases found
        · cases found
      rw [if_neg isFirst] at found
      by_cases comma : next = some ','
      · rw [if_pos comma] at found
        dsimp only at found
        split at found
        · cases found
        · rename_i following opening
          obtain ⟨_, readName, done⟩ := bind_eq_ok_iff.mp found
          cases done
          obtain ⟨blanks, blank, whole⟩ := exists_blank_of_skipSpace opening
          exact ⟨blanks, following, blank, by simp [isText, isFirst, comma, whole], readName⟩
        · cases found
        · cases found
      · rw [if_neg comma] at found
        cases found
  obtain ⟨body, spells, rfl⟩ := exists_spells_of_stringBody readName
  exact ⟨blanks, blanks', body, blank, blank', spells,
    by rw [whole, isText, quotes_append]⟩

/-- A colon is read behind blanks. -/
theorem exists_blank_of_colon (read : colon input = .ok rest) :
    ∃ blanks, Blank blanks ∧ input = blanks ++ some ':' :: rest := by
  rw [colon] at read
  split at read
  · cases read
  · rename_i next following visible
    by_cases isColon : next = some ':'
    · rw [if_pos isColon] at read
      cases read
      exact exists_blank_of_skipSpace (isColon ▸ visible)
    · rw [if_neg isColon] at read
      cases read

/-- What comes before the end of an object is blank. -/
theorem exists_blank_of_endObject {input : Input} (ended : endObject input = .ok rest) :
    ∃ blanks, Blank blanks ∧ input = blanks ++ some '\x7d' :: rest := by
  rw [endObject] at ended
  split at ended
  · cases ended
  · rename_i following isText
    cases ended
    exact exists_blank_of_skipSpace isText
  · cases ended
  · cases ended

/-- **What is read as an object is one**, if what is read of a member is a colon and a value. -/
theorem exists_members_of_readObject {step : σ → String → Input → Except ReadError (σ × Input)}
    (covers : CoversMember step) {bound : Nat} {first : Bool} {state final : σ} {input : Input}
    (read : readObject step bound first state input = .ok (final, rest)) :
    ∃ (blanks : Input) (members : List Member) (closing : Input), Blank blanks ∧
      (∀ member ∈ members, member.WellFormed) ∧ Blank closing ∧
        input = blanks ++
          (separated first (members.map Member.text) ++ (closing ++ some '\x7d' :: rest)) := by
  induction bound generalizing first state input with
  | zero => cases read
  | succ bound induction =>
      obtain ⟨⟨_, remaining⟩, folded, done⟩ := bind_eq_ok_iff.mp read
      obtain ⟨key?, found, folded⟩ := bind_eq_ok_iff.mp folded
      cases key? with
      | none =>
          cases folded
          obtain ⟨_, ended, done⟩ := bind_eq_ok_iff.mp done
          cases done
          obtain ⟨blanks, blank, rfl⟩ := exists_blank_of_endObject ended
          exact ⟨blanks, [], [], blank, nofun, blank_nil, rfl⟩
      | some key =>
          obtain ⟨name, input'⟩ := key
          obtain ⟨⟨next, following⟩, stepped, folded⟩ := bind_eq_ok_iff.mp folded
          -- The blanks before what comes next are those behind this member.
          obtain ⟨lead, members, closing, blankLead, wellFormed, blankClosing, rfl⟩ :=
            induction (bind_eq_ok_iff.mpr ⟨_, folded, done⟩)
          obtain ⟨blanks, blanks', body, blank, blank', spells, rfl⟩ := exists_of_nextKey? found
          obtain ⟨before, inner, text, blankBefore, blankInner, isValue, rfl⟩ :=
            covers _ _ _ _ _ stepped
          refine ⟨blanks, ⟨blanks', quotes body, before, inner, text, lead⟩ :: members, closing,
            blank, ?_, blankClosing, ?_⟩
          · exact List.forall_mem_cons.mpr ⟨⟨⟨blank', ⟨body, spells.isBody, rfl⟩, blankBefore,
              blankInner, blankLead⟩, isValue⟩, wellFormed⟩
          · simp [separated_cons, Member.text, Member.colonText]

/-- What is read as an object after its opening brace is the rest of the text of one. -/
theorem exists_objectText_of_readObject {step : σ → String → Input → Except ReadError (σ × Input)}
    (covers : CoversMember step) {bound : Nat} {state final : σ} {input : Input}
    (read : readObject step bound true state input = .ok (final, rest)) :
    ∃ (members : List Member) (closing : Input), (∀ member ∈ members, member.WellFormed) ∧
      Blank closing ∧ some '\x7b' :: input = objectText members closing ++ rest := by
  obtain ⟨lead, members, closing, blankLead, wellFormed, blank, rfl⟩ :=
    exists_members_of_readObject covers read
  obtain ⟨members', closing', wellFormed', blank', same⟩ :=
    exists_members_append blankLead wellFormed blank
  exact ⟨members', closing', wellFormed', blank', by rw [objectText_append, same]⟩

end TokenGrammar.Json.Reading
