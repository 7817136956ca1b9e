import TokenGrammar.Proofs.Settings.Members

/-! # Objects of settings

Settings are what the members of their object give, with the usual values of the fields that none of
them gives.

* `Settings.Provides`, `Settings.chain_readMember_iff`: what all members give.
* `Settings.Document`, `Settings.Accepted`, `Settings.read_text_eq_ok_iff`: what is read from an
  object of settings.
* `Settings.exists_document_of_read`: what is read as an object of settings is one.
* `Settings.accepted_cons_keepWhitespace_iff`, `Settings.accepted_cons_whitespace_iff`,
  `Settings.accepted_cons_definitions_iff`: what is left without one of the known members. -/

namespace TokenGrammar.Settings

open Json.Layout
open Json.Reading
open Text (breaks_nil)

variable {fields final : Partial} {settings : Settings} {members : List Member} {member : Member}

/-! ## All members -/

/-- Whether a member gives fields, whatever its name is. -/
def Provides (member : Member) (contribution : Partial) : Prop :=
  ∃ name, member.Named name ∧ Contributes name member.value contribution

/-- **What all members give**, one after the other. -/
theorem chain_readMember_iff
    (wellFormed : ∀ member ∈ members, member.WellFormed) :
    Chain readMember fields members final ↔
      ∃ contributions, List.Forall₂ Provides members contributions ∧
        Gathered fields contributions final := by
  induction members generalizing fields with
  | nil =>
      constructor
      · rintro ⟨⟩
        exact ⟨[], .nil, gathered_nil_iff.mpr rfl⟩
      · rintro ⟨_, ⟨⟩, gathered⟩
        rw [gathered_nil_iff.mp gathered]
        exact .nil _
  | cons member members induction =>
      obtain ⟨⟨spaced, isValue⟩, others⟩ := List.forall_mem_cons.mp wellFormed
      constructor
      · intro chain
        cases chain with
        | @cons _ next _ _ _ name named reads further =>
            obtain ⟨-, contribution, contributes, first⟩ :=
              (readMember_eq_ok_iff spaced isValue name breaks_nil).mp (reads [] breaks_nil)
            obtain ⟨contributions, each, rest⟩ := (induction others).mp further
            exact ⟨contribution :: contributions, .cons ⟨name, named, contributes⟩ each,
              gathered_append_iff.mpr ⟨next, first, rest⟩⟩
      · rintro ⟨_, each, gathered⟩
        cases each with
        | @cons _ contribution _ contributions provides each =>
            obtain ⟨name, named, contributes⟩ := provides
            change Gathered fields ([contribution] ++ contributions) final at gathered
            obtain ⟨next, first, rest⟩ := gathered_append_iff.mp gathered
            exact .cons named
              (fun rest breaks => (readMember_eq_ok_iff spaced isValue name breaks).mpr
                ⟨rfl, _, contributes, first⟩)
              ((induction others).mpr ⟨_, each, rest⟩)

/-! ## Texts of objects -/

/-- An object of settings as a text, with what stands around it. -/
structure Document where
  /-- What stands before the object. -/
  before : Input
  /-- The members. -/
  members : List Member
  /-- What stands behind the last member. -/
  closing : Input
  /-- What stands behind the object. -/
  after : Input

namespace Document

/-- The text. -/
def text (document : Document) : Input :=
  document.before ++ (objectText document.members document.closing ++ document.after)

/-- Whether the members have the right form, with blanks around them. -/
structure WellFormed (document : Document) : Prop where
  /-- Blanks before the object. -/
  before : Blank document.before
  /-- The members. -/
  members : ∀ member ∈ document.members, member.WellFormed
  /-- Blanks behind the last member. -/
  closing : Blank document.closing
  /-- Blanks behind the object. -/
  after : Blank document.after

end Document

/-- Whether members give settings, with the usual values of the fields that none of them gives. -/
def Accepted (members : List Member) (settings : Settings) : Prop :=
  ∃ contributions final, List.Forall₂ Provides members contributions ∧
    Gathered .empty contributions final ∧ final.complete = settings

/-- An object of settings is read from its opening brace on. -/
theorem readValue_openObject (rest : Input) :
    readValue (some '\x7b' :: rest) =
      (readObject readMember (rest.length + 1) true .empty rest).map
        fun read => (read.1.complete, read.2) := by
  rw [readValue_brace, readObject]
  generalize foldMembers _ _ _ _ _ = folded
  cases folded with
  | error error => rfl
  | ok read =>
      change (endObject read.2).map _ = (endObject read.2 >>= _).map _
      cases endObject read.2 <;> rfl

/-- Blanks before settings do not matter. -/
theorem readValue_append {blanks : Input} (blank : Blank blanks) (input : Input) :
    readValue (blanks ++ input) = readValue input := by
  rw [readValue, skipSpace_append blank]
  rfl

/-- Settings are read up to the end of the text. -/
theorem read_eq_ok_iff {input : Input} :
    read input = .ok settings ↔
      ∃ rest, readValue input = .ok (settings, rest) ∧ Blank rest := by
  rw [read, bind_eq_ok_iff]
  constructor
  · rintro ⟨⟨settings', rest⟩, readObject, done⟩
    simp only at done
    split at done
    · rename_i nothing
      cases done
      exact ⟨rest, readObject, skipSpace_eq_nil_iff.mp nothing⟩
    · cases done
  · rintro ⟨rest, readObject, blank⟩
    refine ⟨(settings, rest), readObject, ?_⟩
    simp only [skipSpace_eq_nil_iff.mpr blank]
    rfl

/-- **What is read from an object of settings**, by its members. -/
theorem read_text_eq_ok_iff {document : Document} (wellFormed : document.WellFormed) :
    read document.text = .ok settings ↔ Accepted document.members settings := by
  obtain ⟨before, members, closing, after⟩ := wellFormed
  have short := length_lt_of_laidOut document.members document.closing document.after
  have alone := fun member among => readMember_readsAlone (members member among)
  rw [read_eq_ok_iff, Document.text, readValue_append before, objectText_append,
    readValue_openObject]
  constructor
  · rintro ⟨rest, readObject, -⟩
    obtain ⟨⟨final, remaining⟩, readMembers, done⟩ := map_eq_ok_iff.mp readObject
    cases done
    obtain ⟨-, chain⟩ := (readObject_eq_ok_iff members alone short closing true _).mp readMembers
    obtain ⟨contributions, each, gathered⟩ := (chain_readMember_iff members).mp chain
    exact ⟨contributions, final, each, gathered, rfl⟩
  · rintro ⟨contributions, final, each, gathered, rfl⟩
    have chain := (chain_readMember_iff members).mpr ⟨contributions, each, gathered⟩
    refine ⟨document.after, map_eq_ok_iff.mpr ⟨(final, document.after), ?_, rfl⟩, after⟩
    exact (readObject_eq_ok_iff members alone short closing true _).mpr ⟨rfl, chain⟩

/-- **What is read as an object of settings is one.** -/
theorem exists_document_of_read {input : Input}
    (accepted : read input = .ok settings) (opens : startsWith '\x7b' (skipSpace input) = true) :
    ∃ document : Document, document.WellFormed ∧ input = document.text := by
  obtain ⟨rest, readObject, blankRest⟩ := read_eq_ok_iff.mp accepted
  obtain ⟨blanks, blank, whole⟩ := exists_blank_skipSpace input
  rw [eq_cons_of_startsWith opens] at whole
  rw [whole, readValue_append blank, readValue_openObject] at readObject
  obtain ⟨_, readMembers, done⟩ := map_eq_ok_iff.mp readObject
  cases done
  obtain ⟨members, closing, wellFormed, blankClosing, isText⟩ :=
    exists_objectText_of_readObject coversMember_readMember readMembers
  exact ⟨⟨blanks, members, closing, _⟩, ⟨blank, wellFormed, blankClosing, blankRest⟩,
    by rw [whole, isText]; rfl⟩

/-! ## Single fields -/

/-- A member with a known name gives the field of that name. -/
theorem Provides.named_iff {contribution : Partial} (provides : Provides member contribution) :
    (member.Named "keep_whitespace" ↔ contribution.keepWhitespace ≠ none) ∧
      (member.Named "whitespace" ↔ contribution.whitespace ≠ none) ∧
      (member.Named "definitions" ↔ contribution.definitions ≠ none) := by
  obtain ⟨name, named, contributes⟩ := provides
  have same : ∀ {known}, member.Named known ↔ name = known := by
    intro known
    constructor
    · exact named_unique named
    · rintro rfl
      exact named
  rw [same, same, same]
  cases contributes with
  | keepWhitespace isName | whitespace isName | definitions isName => simp [isName]
  | other unknown =>
      simp only [fieldNames, List.mem_cons, List.not_mem_nil, or_false, not_or] at unknown
      simp [Partial.empty, unknown]

/-- A field is given by no member where no member has its name. -/
theorem filterMap_eq_nil_iff {α : Type} {name : String} {field : Partial → Option α}
    (isField : ∀ {member contribution}, Provides member contribution →
      (member.Named name ↔ field contribution ≠ none))
    {contributions : List Partial} (each : List.Forall₂ Provides members contributions) :
    contributions.filterMap field = [] ↔ ∀ other ∈ members, ¬other.Named name := by
  induction each with
  | nil => simp
  | @cons _ contribution _ _ provides _ induction =>
      rw [List.forall_mem_cons, ← induction, isField provides]
      cases given : field contribution <;> simp [given]

section

variable {contributions : List Partial}

/-- Whether white space is kept is missing where no member tells it. -/
theorem keepWhitespace_eq_none_iff (each : List.Forall₂ Provides members contributions)
    (gathered : Gathered .empty contributions final) :
    final.keepWhitespace = none ↔ ∀ other ∈ members, ¬other.Named "keep_whitespace" := by
  rw [← filterMap_eq_nil_iff (fun provides => provides.named_iff.1) each,
    ← Option.toList_eq_nil_iff, gathered.keepWhitespace]
  rfl

/-- The pattern of white space is missing where no member tells it. -/
theorem whitespace_eq_none_iff (each : List.Forall₂ Provides members contributions)
    (gathered : Gathered .empty contributions final) :
    final.whitespace = none ↔ ∀ other ∈ members, ¬other.Named "whitespace" := by
  rw [← filterMap_eq_nil_iff (fun provides => provides.named_iff.2.1) each,
    ← Option.toList_eq_nil_iff, gathered.whitespace]
  rfl

/-- The definitions are missing where no member tells them. -/
theorem definitions_eq_none_iff (each : List.Forall₂ Provides members contributions)
    (gathered : Gathered .empty contributions final) :
    final.definitions = none ↔ ∀ other ∈ members, ¬other.Named "definitions" := by
  rw [← filterMap_eq_nil_iff (fun provides => provides.named_iff.2.2) each,
    ← Option.toList_eq_nil_iff, gathered.definitions]
  rfl

end

/-- What a member gives can come after what the others give. -/
theorem accepted_cons_iff {name : String} (named : member.Named name) :
    Accepted (member :: members) settings ↔
      ∃ contribution contributions next final, Contributes name member.value contribution ∧
        List.Forall₂ Provides members contributions ∧ Gathered .empty contributions next ∧
          Gathered next [contribution] final ∧ final.complete = settings := by
  constructor
  · rintro ⟨_, final, each, gathered, complete⟩
    cases each with
    | @cons _ contribution _ contributions provides each =>
        obtain ⟨name', named', contributes⟩ := provides
        obtain rfl := named_unique named' named
        obtain ⟨next, before, last⟩ := gathered_cons_iff.mp gathered
        exact ⟨contribution, contributions, next, final, contributes, each, before, last, complete⟩
  · rintro ⟨contribution, contributions, next, final, contributes, each, before, last, complete⟩
    exact ⟨contribution :: contributions, final, .cons ⟨name, named, contributes⟩ each,
      gathered_cons_iff.mpr ⟨next, before, last⟩, complete⟩

/-- A member tells whether white space is kept if no other one does. -/
theorem accepted_cons_keepWhitespace_iff (named : member.Named "keep_whitespace") :
    Accepted (member :: members) settings ↔
      member.value = written (.bool settings.keepWhitespace) ∧
        (∀ other ∈ members, ¬other.Named "keep_whitespace") ∧
          Accepted members { settings with keepWhitespace := default.keepWhitespace } := by
  rw [accepted_cons_iff named]
  constructor
  · rintro ⟨_, contributions, next, final, contributes, each, before, last, rfl⟩
    obtain ⟨keep, given, rfl⟩ := contributes_keepWhitespace_iff.mp contributes
    obtain ⟨absent, rfl⟩ := gathered_keepWhitespace_iff.mp last
    have missing := (keepWhitespace_eq_none_iff each before).mp absent
    exact ⟨given, missing, contributions, next, each, before, by simp [Partial.complete, absent]⟩
  · rintro ⟨given, missing, contributions, next, each, before, complete⟩
    have absent := (keepWhitespace_eq_none_iff each before).mpr missing
    refine ⟨_, contributions, next, _, .keepWhitespace rfl given, each, before,
      gathered_keepWhitespace_iff.mpr ⟨absent, rfl⟩, ?_⟩
    simp only [Partial.complete, mk.injEq] at complete
    simp [Partial.complete, complete]

/-- A member tells the pattern of white space if no other one does. -/
theorem accepted_cons_whitespace_iff (named : member.Named "whitespace") :
    Accepted (member :: members) settings ↔
      IsStringOf member.value settings.whitespace ∧
        (∀ other ∈ members, ¬other.Named "whitespace") ∧
          Accepted members { settings with whitespace := default.whitespace } := by
  rw [accepted_cons_iff named]
  constructor
  · rintro ⟨_, contributions, next, final, contributes, each, before, last, rfl⟩
    obtain ⟨source, given, rfl⟩ := contributes_whitespace_iff.mp contributes
    obtain ⟨absent, rfl⟩ := gathered_whitespace_iff.mp last
    have missing := (whitespace_eq_none_iff each before).mp absent
    exact ⟨given, missing, contributions, next, each, before, by simp [Partial.complete, absent]⟩
  · rintro ⟨given, missing, contributions, next, each, before, complete⟩
    have absent := (whitespace_eq_none_iff each before).mpr missing
    refine ⟨_, contributions, next, _, .whitespace rfl given, each, before,
      gathered_whitespace_iff.mpr ⟨absent, rfl⟩, ?_⟩
    simp only [Partial.complete, mk.injEq] at complete
    simp [Partial.complete, complete]

/-- A member tells the definitions if no other one does. -/
theorem accepted_cons_definitions_iff (named : member.Named "definitions") :
    Accepted (member :: members) settings ↔
      Reads readDefinitions member.value settings.definitions ∧
        (∀ other ∈ members, ¬other.Named "definitions") ∧
          Accepted members { settings with definitions := default.definitions } := by
  rw [accepted_cons_iff named]
  constructor
  · rintro ⟨_, contributions, next, final, contributes, each, before, last, rfl⟩
    obtain ⟨definitions, given, rfl⟩ := contributes_definitions_iff.mp contributes
    obtain ⟨absent, rfl⟩ := gathered_definitions_iff.mp last
    have missing := (definitions_eq_none_iff each before).mp absent
    exact ⟨given, missing, contributions, next, each, before, by simp [Partial.complete, absent]⟩
  · rintro ⟨given, missing, contributions, next, each, before, complete⟩
    have absent := (definitions_eq_none_iff each before).mpr missing
    refine ⟨_, contributions, next, _, .definitions rfl given, each, before,
      gathered_definitions_iff.mpr ⟨absent, rfl⟩, ?_⟩
    simp only [Partial.complete, mk.injEq] at complete
    simp [Partial.complete, complete]

end TokenGrammar.Settings
