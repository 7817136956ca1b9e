import TokenGrammar.Proofs.Json.Strings

/-! # Values that are written and read

The text of a value is read as that value, whatever follows it. Numbers are left out: they are held
as they are written, and a reader reports what they amount to.

* `Json.Plain`: values without numbers that are not nested too deeply.
* `Json.Reading.written`: the text of a value.
* `Json.Reading.separated`: texts with commas between them.
* `Json.Reading.foldItems_written`, `Json.Reading.foldMembers_written`: what a reader makes of all
  the parts, if it reads each of them.
* `Json.Reading.value_written`: a value is read back. -/

namespace TokenGrammar.Json

/-- A value without numbers in which fewer than `depth` lists and objects stand within each
other. -/
inductive Plain : (depth : Nat) → Json → Prop where
  /-- The null value. -/
  | null (depth : Nat) : Plain depth .null
  /-- A truth value. -/
  | bool (depth : Nat) (value : Bool) : Plain depth (.bool value)
  /-- A string. -/
  | string (depth : Nat) (text : String) : Plain depth (.string text)
  /-- A list of such values, one level down. -/
  | array {depth : Nat} {items : List Json} (room : 1 < depth)
      (plain : ∀ item ∈ items, Plain (depth - 1) item) : Plain depth (.array items)
  /-- An object of such values, one level down. -/
  | object {depth : Nat} {members : List (String × Json)} (room : 1 < depth)
      (plain : ∀ member ∈ members, Plain (depth - 1) member.2) : Plain depth (.object members)

namespace Reading

/-! ## Texts -/

/-- The text of a value. -/
def written (json : Json) : Input :=
  inputOfText json.render

/-- A string in quotes. -/
def inQuotes (text : String) : Input :=
  some '"' :: (quoted text.toList ++ [some '"'])

/-- The comma before an item or member, unless it is the first one. -/
def separator (first : Bool) : Input :=
  if first then [] else [some ',']

/-- Texts with commas between them, from one of them on. -/
def separated : (first : Bool) → List Input → Input
  | _, [] => []
  | first, text :: texts => separator first ++ text ++ separated false texts

/-- The text of a member of an object. -/
def writtenMember (member : String × Json) : Input :=
  inQuotes member.1 ++ some ':' :: written member.2

@[simp] theorem separator_true : separator true = [] := rfl

@[simp] theorem separator_false : separator false = [some ','] := rfl

theorem separated_cons (first : Bool) (text : Input) (texts : List Input) :
    separated first (text :: texts) = separator first ++ text ++ separated false texts := rfl

/-- There are at most as many texts as characters in all of them, if none is empty. -/
theorem length_le_length_separated {texts : List Input} (solid : ∀ text ∈ texts, text ≠ [])
    (first : Bool) : texts.length ≤ (separated first texts).length := by
  induction texts generalizing first with
  | nil => exact Nat.le_refl 0
  | cons text texts induction =>
      obtain ⟨solidFirst, solidRest⟩ := List.forall_mem_cons.mp solid
      have positive := List.length_pos_iff.mpr solidFirst
      have le := induction solidRest false
      simp only [separated_cons, List.length_append, List.length_cons]
      omega

/-- Each text takes part in the whole. -/
theorem length_le_length_separated_of_mem {texts : List Input} {text : Input}
    (member : text ∈ texts) (first : Bool) : text.length ≤ (separated first texts).length := by
  induction texts generalizing first with
  | nil => cases member
  | cons head texts induction =>
      simp only [separated_cons, List.length_append]
      rcases List.mem_cons.mp member with rfl | later
      · omega
      · have le := induction later false
        omega

/-- One text after another. -/
theorem inputOfText_append (first second : String) :
    inputOfText (first ++ second) = inputOfText first ++ inputOfText second := by
  simp [inputOfText]

/-- A string is written in quotes. -/
theorem inputOfText_quote (text : String) : inputOfText (quote text) = inQuotes text := by
  simp [inputOfText, quote, inQuotes, quoted]

/-- After a string in quotes a text follows. -/
theorem inQuotes_append (text : String) (rest : Input) :
    inQuotes text ++ rest = some '"' :: (quoted text.toList ++ some '"' :: rest) := by
  rw [inQuotes, List.cons_append, List.append_assoc, List.singleton_append]

theorem written_string (text : String) : written (.string text) = inQuotes text :=
  inputOfText_quote text

/-- The items of a list are written with commas between them. -/
theorem inputOfText_renderItems (items : List Json) :
    inputOfText (renderItems items) = separated true (items.map written) := by
  have comma : inputOfText "," = separator false := rfl
  induction items with
  | nil => rfl
  | cons item items induction =>
      cases items with
      | nil => exact (List.append_nil (written item)).symm
      | cons next items =>
          have text : renderItems (item :: next :: items) =
              render item ++ "," ++ renderItems (next :: items) := rfl
          rw [text, inputOfText_append, inputOfText_append, induction, comma, List.append_assoc]
          rfl

/-- A member of an object is written with a colon after its name. -/
theorem inputOfText_member (name : String) (value : Json) :
    inputOfText (quote name ++ ":" ++ render value) = writtenMember (name, value) := by
  have colon : inputOfText ":" = [some ':'] := rfl
  rw [inputOfText_append, inputOfText_append, inputOfText_quote, colon, List.append_assoc]
  rfl

/-- The members of an object are written with commas between them. -/
theorem inputOfText_renderMembers (members : List (String × Json)) :
    inputOfText (renderMembers members) = separated true (members.map writtenMember) := by
  have comma : inputOfText "," = separator false := rfl
  induction members with
  | nil => rfl
  | cons member members induction =>
      obtain ⟨name, value⟩ := member
      cases members with
      | nil =>
          have text : renderMembers [(name, value)] = quote name ++ ":" ++ render value := rfl
          rw [text, inputOfText_member]
          exact (List.append_nil _).symm
      | cons next members =>
          have text : renderMembers ((name, value) :: next :: members) =
              quote name ++ ":" ++ render value ++ "," ++ renderMembers (next :: members) := rfl
          rw [text, inputOfText_append, inputOfText_append, inputOfText_member, induction, comma,
            List.append_assoc]
          rfl

/-- A list is written in brackets. -/
theorem written_array (items : List Json) :
    written (.array items) =
      some '[' :: (separated true (items.map written) ++ [some ']']) := by
  have opening : inputOfText "[" = [some '['] := rfl
  have closing : inputOfText "]" = [some ']'] := rfl
  have text : (array items).render = "[" ++ renderItems items ++ "]" := rfl
  rw [written, text, inputOfText_append, inputOfText_append, inputOfText_renderItems, opening,
    closing]
  rfl

/-- An object is written in braces. -/
theorem written_object (members : List (String × Json)) :
    written (.object members) =
      some '\x7b' :: (separated true (members.map writtenMember) ++ [some '\x7d']) := by
  have opening : inputOfText "\x7b" = [some '\x7b'] := rfl
  have closing : inputOfText "\x7d" = [some '\x7d'] := rfl
  have text : (object members).render = "\x7b" ++ renderMembers members ++ "\x7d" := rfl
  rw [written, text, inputOfText_append, inputOfText_append, inputOfText_renderMembers, opening,
    closing]
  rfl

/-- A list is written in brackets, and a text follows. -/
theorem written_array_append (items : List Json) (rest : Input) :
    written (.array items) ++ rest =
      some '[' :: (separated true (items.map written) ++ some ']' :: rest) := by
  rw [written_array, List.cons_append, List.append_assoc, List.singleton_append]

/-- An object is written in braces, and a text follows. -/
theorem written_object_append (members : List (String × Json)) (rest : Input) :
    written (.object members) ++ rest =
      some '\x7b' :: (separated true (members.map writtenMember) ++ some '\x7d' :: rest) := by
  rw [written_object, List.cons_append, List.append_assoc, List.singleton_append]

/-! ## How texts start -/

/-- Whether an item of a list can start with a character, which is then no space and does not end
the list. -/
def StartsItem (c : Char) : Prop :=
  c ≠ ' ' ∧ c ≠ '\n' ∧ c ≠ '\t' ∧ c ≠ '\r' ∧ c ≠ ']'

instance (c : Char) : Decidable (StartsItem c) :=
  inferInstanceAs (Decidable (_ ∧ _))

/-- Nothing is skipped before such a character. -/
theorem StartsItem.skipSpace_cons {c : Char} (starts : StartsItem c) (rest : Input) :
    skipSpace (some c :: rest) = some c :: rest := by
  obtain ⟨space, lineFeed, tab, carriageReturn, -⟩ := starts
  simp [skipSpace, space, lineFeed, tab, carriageReturn]

/-- The text of a value without numbers starts so. -/
theorem exists_written_eq_cons {depth : Nat} {json : Json} (plain : Plain depth json) :
    ∃ c rest, written json = some c :: rest ∧ StartsItem c := by
  cases plain with
  | null => exact ⟨'n', _, rfl, by decide⟩
  | bool _ value =>
      cases value with
      | false => exact ⟨'f', _, rfl, by decide⟩
      | true => exact ⟨'t', _, rfl, by decide⟩
  | string _ text => exact ⟨'"', _, written_string text, by decide⟩
  | array room plain => exact ⟨'[', _, written_array _, by decide⟩
  | object room plain => exact ⟨'\x7b', _, written_object _, by decide⟩

/-! ## Items and members -/

/-- The next item of a list is found after its comma. -/
theorem nextItem?_separator {c : Char} (starts : StartsItem c) (first : Bool) (rest : Input) :
    nextItem? first (separator first ++ some c :: rest) = .ok (some (some c :: rest)) := by
  have skipped := starts.skipSpace_cons rest
  have inside : c ≠ ']' := starts.2.2.2.2
  cases first with
  | true => simp [nextItem?, inside, skipped]
  | false => simp [nextItem?, inside, skipped, skipSpace]

/-- Read an item after others. -/
def appendItem {α : Type} (reader : Input → Except ReadError (α × Input)) (items : List α)
    (input : Input) : Except ReadError (List α × Input) := do
  let (item, after) ← reader input
  pure (items ++ [item], after)

/-- A reader that reads each item as it is written reads them all, up to the closing bracket. -/
theorem foldItems_appendItem {α : Type} {write : α → Input}
    {reader : Input → Except ReadError (α × Input)} {items : List α}
    (starts : ∀ item ∈ items, ∃ c rest, write item = some c :: rest ∧ StartsItem c)
    (reads : ∀ item ∈ items, ∀ rest, reader (write item ++ rest) = .ok (item, rest))
    {bound : Nat} (enough : items.length < bound) (first : Bool) (before : List α) (rest : Input) :
    foldItems (appendItem reader) bound first before
        (separated first (items.map write) ++ some ']' :: rest) =
      .ok (before ++ items, some ']' :: rest) := by
  induction items generalizing bound first before with
  | nil =>
      obtain ⟨bound, rfl⟩ := Nat.exists_eq_add_one.mpr enough
      rw [List.append_nil]
      rfl
  | cons item items induction =>
      obtain ⟨startsFirst, startsRest⟩ := List.forall_mem_cons.mp starts
      obtain ⟨readsFirst, readsRest⟩ := List.forall_mem_cons.mp reads
      rw [List.length_cons] at enough
      obtain ⟨bound, rfl⟩ := Nat.exists_eq_add_one.mpr (Nat.zero_lt_of_lt enough)
      have found : ∀ following,
          nextItem? first (separator first ++ (write item ++ following)) =
            .ok (some (write item ++ following)) := by
        obtain ⟨c, others, isWritten, startsItem⟩ := startsFirst
        intro following
        rw [isWritten]
        exact nextItem?_separator startsItem first _
      have further := induction startsRest readsRest (Nat.lt_of_succ_lt_succ enough) false
        (before ++ [item])
      rw [List.append_assoc, List.singleton_append] at further
      simp only [List.map_cons, separated_cons, List.append_assoc]
      rw [foldItems, found]
      simp only [bind, Except.bind, appendItem, readsFirst]
      exact further

/-- **The items of a list are read back** by a reader that reads each of them back. -/
theorem foldItems_written {α : Type} {write : α → Input}
    {reader : Input → Except ReadError (α × Input)} {items : List α}
    (starts : ∀ item ∈ items, ∃ c rest, write item = some c :: rest ∧ StartsItem c)
    (reads : ∀ item ∈ items, ∀ rest, reader (write item ++ rest) = .ok (item, rest))
    (rest : Input) :
    let text := separated true (items.map write) ++ some ']' :: rest
    foldItems (appendItem reader) (text.length + 1) true [] text =
      .ok (items, some ']' :: rest) := by
  have solid : ∀ text ∈ items.map write, text ≠ [] := by
    intro text member
    obtain ⟨item, among, rfl⟩ := List.mem_map.mp member
    obtain ⟨c, others, isWritten, -⟩ := starts item among
    rw [isWritten]
    exact List.cons_ne_nil _ _
  have count := length_le_length_separated solid true
  have enough : items.length <
      (separated true (items.map write) ++ some ']' :: rest).length + 1 := by
    rw [List.length_map] at count
    rw [List.length_append]
    omega
  exact foldItems_appendItem starts reads enough true [] rest

/-- After the items of a list comes the closing bracket. -/
theorem endList_cons (rest : Input) : endList (some ']' :: rest) = .ok rest := rfl

/-- The next member of an object is found after its comma. -/
theorem nextKey?_written (first : Bool) (name : String) (rest : Input) :
    nextKey? first (separator first ++ (inQuotes name ++ rest)) = .ok (some (name, rest)) := by
  have read := stringBody_quoted name rest
  rw [inQuotes_append]
  cases first with
  | true => simp [nextKey?, skipSpace, read, bind, Except.bind, pure, Except.pure]
  | false => simp [nextKey?, skipSpace, read, bind, Except.bind, pure, Except.pure]

/-- After the name of a member comes a colon. -/
theorem colon_cons (rest : Input) : colon (some ':' :: rest) = .ok rest := rfl

/-- After the members of an object comes the closing brace. -/
theorem endObject_cons (rest : Input) : endObject (some '\x7d' :: rest) = .ok rest := rfl

/-- A reader reads the first member, and then the others. -/
theorem foldMembers_cons {σ : Type} (step : σ → String → Input → Except ReadError (σ × Input))
    (bound : Nat) (first : Bool) (state : σ) (name : String) (rest : Input) :
    foldMembers step (bound + 1) first state (separator first ++ (inQuotes name ++ rest)) =
      step state name rest >>= fun following =>
        foldMembers step bound false following.1 following.2 := by
  rw [foldMembers, nextKey?_written]
  rfl

/-- A reader ends before the closing brace. -/
theorem foldMembers_end {σ : Type} (step : σ → String → Input → Except ReadError (σ × Input))
    (bound : Nat) (first : Bool) (state : σ) (rest : Input) :
    foldMembers step (bound + 1) first state (some '\x7d' :: rest) =
      .ok (state, some '\x7d' :: rest) := rfl

/-- Read the value of a member after others. -/
def appendMember (reader : Input → Except ReadError (Json × Input))
    (members : List (String × Json)) (name : String) (input : Input) :
    Except ReadError (List (String × Json) × Input) := do
  let (value, after) ← reader (← colon input)
  pure (members ++ [(name, value)], after)

/-- A reader that reads each value as it is written reads all members, up to the closing brace. -/
theorem foldMembers_appendMember {reader : Input → Except ReadError (Json × Input)}
    {members : List (String × Json)}
    (reads : ∀ member ∈ members, ∀ rest,
      reader (written member.2 ++ rest) = .ok (member.2, rest))
    {bound : Nat} (enough : members.length < bound) (first : Bool)
    (before : List (String × Json)) (rest : Input) :
    foldMembers (appendMember reader) bound first before
        (separated first (members.map writtenMember) ++ some '\x7d' :: rest) =
      .ok (before ++ members, some '\x7d' :: rest) := by
  induction members generalizing bound first before with
  | nil =>
      obtain ⟨bound, rfl⟩ := Nat.exists_eq_add_one.mpr enough
      rw [List.append_nil]
      exact foldMembers_end _ bound first before rest
  | cons member members induction =>
      obtain ⟨readsFirst, readsRest⟩ := List.forall_mem_cons.mp reads
      rw [List.length_cons] at enough
      obtain ⟨bound, rfl⟩ := Nat.exists_eq_add_one.mpr (Nat.zero_lt_of_lt enough)
      have further := induction readsRest (Nat.lt_of_succ_lt_succ enough) false
        (before ++ [member])
      rw [List.append_assoc, List.singleton_append] at further
      simp only [List.map_cons, separated_cons, writtenMember, List.append_assoc,
        List.cons_append]
      rw [foldMembers_cons]
      simp only [appendMember, colon_cons, bind, Except.bind, readsFirst]
      exact further

/-- There are fewer members than characters in the rest of the text from the first of them on. -/
theorem length_lt_of_members (members : List (String × Json)) (rest : Input) :
    members.length <
      (separated true (members.map writtenMember) ++ some '\x7d' :: rest).length + 1 := by
  have solid : ∀ text ∈ members.map writtenMember, text ≠ [] := by
    intro text among
    obtain ⟨member, -, rfl⟩ := List.mem_map.mp among
    exact List.cons_ne_nil _ _
  have count := length_le_length_separated solid true
  rw [List.length_map] at count
  rw [List.length_append]
  omega

/-- **The members of an object are read back** by a reader that reads each value back. -/
theorem foldMembers_written {reader : Input → Except ReadError (Json × Input)}
    {members : List (String × Json)}
    (reads : ∀ member ∈ members, ∀ rest,
      reader (written member.2 ++ rest) = .ok (member.2, rest)) (rest : Input) :
    let text := separated true (members.map writtenMember) ++ some '\x7d' :: rest
    foldMembers (appendMember reader) (text.length + 1) true [] text =
      .ok (members, some '\x7d' :: rest) :=
  foldMembers_appendMember reads (length_lt_of_members members rest) true [] rest

/-! ## Values -/

/-- A bound that is above the length of the text of a value allows for one step. -/
theorem exists_bound_eq {depth : Nat} {json : Json} (plain : Plain depth json) {bound : Nat}
    (enough : (written json).length ≤ bound) : ∃ less, bound = less + 1 := by
  obtain ⟨c, others, isWritten, -⟩ := exists_written_eq_cons plain
  rw [isWritten, List.length_cons] at enough
  exact Nat.exists_eq_add_one.mpr (Nat.lt_of_lt_of_le (Nat.succ_pos _) enough)

/-- A string is read up to the closing quote. -/
theorem valueUpTo_quote (bound depth : Nat) (rest : Input) :
    valueUpTo (bound + 1) depth (some '"' :: rest) =
      (stringBody rest).map fun read => (.string read.1, read.2) := by
  rfl

/-- A list is read item by item. -/
theorem valueUpTo_bracket {depth : Nat} (room : 1 < depth) (bound : Nat) (rest : Input) :
    valueUpTo (bound + 1) depth (some '[' :: rest) =
      foldItems (appendItem (valueUpTo bound (depth - 1))) (rest.length + 1) true [] rest >>=
        fun read => (endList read.2).map fun remaining => (.array read.1, remaining) :=
  if_neg (Nat.not_le.mpr room)

/-- An object is read member by member. -/
theorem valueUpTo_brace {depth : Nat} (room : 1 < depth) (bound : Nat) (rest : Input) :
    valueUpTo (bound + 1) depth (some '\x7b' :: rest) =
      foldMembers (appendMember (valueUpTo bound (depth - 1))) (rest.length + 1) true [] rest >>=
        fun read => (endObject read.2).map fun remaining => (.object read.1, remaining) :=
  if_neg (Nat.not_le.mpr room)

/-- A value is read back within a bound that is above the length of its text. -/
theorem valueUpTo_written {depth : Nat} {json : Json} (plain : Plain depth json) {bound : Nat}
    (enough : (written json).length ≤ bound) (rest : Input) :
    valueUpTo bound depth (written json ++ rest) = .ok (json, rest) := by
  -- The text of a part is shorter than the whole, so the bound that is left is above its length.
  induction plain generalizing bound rest with
  | null depth =>
      obtain ⟨bound, rfl⟩ := exists_bound_eq (.null depth) enough
      rfl
  | bool depth value =>
      obtain ⟨bound, rfl⟩ := exists_bound_eq (.bool depth value) enough
      cases value <;> rfl
  | string depth text =>
      obtain ⟨bound, rfl⟩ := exists_bound_eq (.string depth text) enough
      rw [written_string, inQuotes_append, valueUpTo_quote, stringBody_quoted]
      rfl
  | @array depth items room plain induction =>
      obtain ⟨bound, rfl⟩ := exists_bound_eq (.array room plain) enough
      rw [written_array, List.length_cons, List.length_append] at enough
      have starts := fun item member => exists_written_eq_cons (plain item member)
      have reads : ∀ item ∈ items, ∀ rest,
          valueUpTo bound (depth - 1) (written item ++ rest) = .ok (item, rest) := by
        intro item member rest
        have le : (written item).length ≤ (separated true (items.map written)).length :=
          length_le_length_separated_of_mem (List.mem_map_of_mem member) true
        exact induction item member (by omega) rest
      have folded := foldItems_written starts reads rest
      rw [written_array_append, valueUpTo_bracket room, folded]
      simp [endList_cons, bind, Except.bind, Except.map]
  | @object depth members room plain induction =>
      obtain ⟨bound, rfl⟩ := exists_bound_eq (.object room plain) enough
      rw [written_object, List.length_cons, List.length_append] at enough
      have reads : ∀ member ∈ members, ∀ rest,
          valueUpTo bound (depth - 1) (written member.2 ++ rest) = .ok (member.2, rest) := by
        intro member among rest
        have le : (writtenMember member).length ≤
            (separated true (members.map writtenMember)).length :=
          length_le_length_separated_of_mem (List.mem_map_of_mem among) true
        rw [writtenMember, List.length_append, List.length_cons] at le
        exact induction member among (by omega) rest
      have folded := foldMembers_written reads rest
      rw [written_object_append, valueUpTo_brace room, folded]
      simp [endObject_cons, bind, Except.bind, Except.map]

/-- **A value is read back**, whatever follows its text. -/
theorem value_written {depth : Nat} {json : Json} (plain : Plain depth json) (rest : Input) :
    value depth (written json ++ rest) = .ok (json, rest) := by
  have enough : (written json).length ≤ (written json ++ rest).length + 1 := by
    rw [List.length_append]
    omega
  exact valueUpTo_written plain enough rest

end Reading

end TokenGrammar.Json
