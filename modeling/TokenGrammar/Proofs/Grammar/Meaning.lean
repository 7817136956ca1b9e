import TokenGrammar.Grammar.Syntax

/-! # The meaning of a grammar

What a grammar makes of tokens from some place on, said without a parse: there is no state and no
rollback, only places among the tokens and the elements that are built from one place to another.
Alternatives are ordered, repetition takes all it can get, and a repetition that could go on for
ever in one place is stuck there. Cuts, actions and host steps have no such meaning.

* `Reading`: what a grammar makes of tokens.
* `Grammar.Reads`: the meaning of a grammar under rules that may refer to each other.
* `Grammar.Reads.unique`: a grammar makes one thing of tokens at most.
* `Grammar.Reads.ahead`: a grammar looks ahead only, and not beyond the last token. -/

namespace TokenGrammar

/-- What a grammar makes of tokens from some place on. -/
inductive Reading where
  /-- Nothing. -/
  | fail
  /-- It matches the tokens up to another place, and builds elements of them. -/
  | upTo (stop : Nat) (elements : List Element)
  /-- It matches over and over again in one place. -/
  | stuck (place : Nat)
  deriving DecidableEq

namespace Reading

/-- What is made of the token at a place, if there is an acceptable one. -/
def ofToken (tokens : List Token) (start : Nat) (accepts : Token → Bool)
    (accepted : Token → Reading) : Reading :=
  match tokens[start]? with
  | some token => if accepts token then accepted token else .fail
  | none => .fail

/-- A reading that goes on from where elements were built already. -/
def prepend (elements : List Element) : Reading → Reading
  | .upTo stop more => .upTo stop (elements ++ more)
  | other => other

/-- A reading with its elements in a node, if these are more than a number of them. -/
def enclose (name : String) (minChildren : Nat) : Reading → Reading
  | .upTo stop elements =>
      .upTo stop (if elements.length ≤ minChildren then elements else [.node name elements])
  | other => other

/-- Whether a reading is not a match up to a place. -/
def Stops : Reading → Prop
  | .upTo .. => False
  | _ => True

end Reading

namespace Grammar

/-- The meaning of a grammar. -/
inductive Reads (rules : Rules) (tokens : List Token) : Grammar → Nat → Reading → Prop where
  /-- A token of the given name is next. -/
  | peek (name : String) (start : Nat) : Reads rules tokens (.peek name) start
      (.ofToken tokens start (·.name == name) fun _ => .upTo start [])
  /-- A token of the given name is kept. -/
  | token (name : String) (start : Nat) : Reads rules tokens (.token name) start
      (.ofToken tokens start (·.name == name) fun token => .upTo (start + 1) [.leaf token])
  /-- A token of another name is kept. -/
  | tokenExcept (name : String) (start : Nat) : Reads rules tokens (.tokenExcept name) start
      (.ofToken tokens start (·.name != name) fun token => .upTo (start + 1) [.leaf token])
  /-- A token of the given name is dropped. -/
  | eat (name : String) (start : Nat) : Reads rules tokens (.eat name) start
      (.ofToken tokens start (·.name == name) fun _ => .upTo (start + 1) [])
  /-- A token is kept. -/
  | any (start : Nat) : Reads rules tokens .any start
      (.ofToken tokens start (fun _ => true) fun token => .upTo (start + 1) [.leaf token])
  /-- A token is dropped. -/
  | skip (start : Nat) : Reads rules tokens .skip start
      (.ofToken tokens start (fun _ => true) fun _ => .upTo (start + 1) [])
  /-- All tokens have been consumed. -/
  | endOfInput (start : Nat) : Reads rules tokens .endOfInput start
      (if start = tokens.length then .upTo start [] else .fail)
  /-- A trace point means nothing. -/
  | trace (label : String) (start : Nat) : Reads rules tokens (.trace label) start (.upTo start [])
  /-- A match of no tokens. -/
  | succeed (start : Nat) : Reads rules tokens .succeed start (.upTo start [])
  /-- No match. -/
  | fail (start : Nat) : Reads rules tokens .fail start .fail
  /-- There are no further parts. -/
  | allNil (start : Nat) : Reads rules tokens (.all []) start (.upTo start [])
  /-- The other parts follow where the first one stops. -/
  | allMore {part : Grammar} {parts : List Grammar} {start middle : Nat}
      {elements : List Element} {reading : Reading}
      (first : Reads rules tokens part start (.upTo middle elements))
      (others : Reads rules tokens (.all parts) middle reading) :
      Reads rules tokens (.all (part :: parts)) start (reading.prepend elements)
  /-- Nothing follows after a part that does not match. -/
  | allStop {part : Grammar} {start : Nat} {reading : Reading}
      (first : Reads rules tokens part start reading) (stops : reading.Stops)
      (parts : List Grammar) : Reads rules tokens (.all (part :: parts)) start reading
  /-- The parts in order. -/
  | sequence {parts : List Grammar} {start : Nat} {reading : Reading}
      (inner : Reads rules tokens (.all parts) start reading) :
      Reads rules tokens (.sequence parts) start reading
  /-- There are no further alternatives. -/
  | choiceNil (start : Nat) : Reads rules tokens (.choice []) start .fail
  /-- The first alternative counts if it does not fail. -/
  | choiceFirst {alternative : Grammar} {start : Nat} {reading : Reading}
      (first : Reads rules tokens alternative start reading) (unfailed : reading ≠ .fail)
      (alternatives : List Grammar) :
      Reads rules tokens (.choice (alternative :: alternatives)) start reading
  /-- The other alternatives count if the first one fails. -/
  | choiceLater {alternative : Grammar} {alternatives : List Grammar} {start : Nat}
      {reading : Reading} (first : Reads rules tokens alternative start .fail)
      (others : Reads rules tokens (.choice alternatives) start reading) :
      Reads rules tokens (.choice (alternative :: alternatives)) start reading
  /-- Nothing is to be rolled back. -/
  | backtrack {body : Grammar} {start : Nat} {reading : Reading}
      (inner : Reads rules tokens body start reading) :
      Reads rules tokens (.backtrack body) start reading
  /-- An optional part is there. -/
  | optionalSome {body : Grammar} {start : Nat} {reading : Reading}
      (inner : Reads rules tokens body start reading) (unfailed : reading ≠ .fail) :
      Reads rules tokens (.optional body) start reading
  /-- An optional part is not there. -/
  | optionalNone {body : Grammar} {start : Nat} (inner : Reads rules tokens body start .fail) :
      Reads rules tokens (.optional body) start (.upTo start [])
  /-- A repetition ends. -/
  | manyEnd {body : Grammar} {start : Nat} (inner : Reads rules tokens body start .fail) :
      Reads rules tokens (.many body) start (.upTo start [])
  /-- A repetition goes on where its body stops, if that is further on. -/
  | manyMore {body : Grammar} {start middle : Nat} {elements : List Element} {reading : Reading}
      (first : Reads rules tokens body start (.upTo middle elements)) (moved : start < middle)
      (others : Reads rules tokens (.many body) middle reading) :
      Reads rules tokens (.many body) start (reading.prepend elements)
  /-- A repetition whose body matches and does not go on is stuck. -/
  | manyStill {body : Grammar} {start : Nat} {elements : List Element}
      (first : Reads rules tokens body start (.upTo start elements)) :
      Reads rules tokens (.many body) start (.stuck start)
  /-- A repetition of something stuck is stuck. -/
  | manyStuck {body : Grammar} {start place : Nat}
      (first : Reads rules tokens body start (.stuck place)) :
      Reads rules tokens (.many body) start (.stuck place)
  /-- A repetition that needs one match has none. -/
  | many1None {body : Grammar} {start : Nat} (first : Reads rules tokens body start .fail) :
      Reads rules tokens (.many1 body) start .fail
  /-- A repetition that needs one match has it. -/
  | many1Some {body : Grammar} {start : Nat} {reading repeated : Reading}
      (first : Reads rules tokens body start reading) (unfailed : reading ≠ .fail)
      (others : Reads rules tokens (.many body) start repeated) :
      Reads rules tokens (.many1 body) start repeated
  /-- A node encloses what its body builds. -/
  | node {body : Grammar} {start : Nat} {reading : Reading}
      (inner : Reads rules tokens body start reading) (name : String) (minChildren : Nat) :
      Reads rules tokens (.node name minChildren body []) start (reading.enclose name minChildren)
  /-- A rule means what its body means. -/
  | rule {name : String} {body : Grammar} {start : Nat} {reading : Reading}
      (found : rules.lookup name = some body) (inner : Reads rules tokens body start reading) :
      Reads rules tokens (.rule name) start reading
  /-- There is no such rule. -/
  | noRule {name : String} (missing : rules.lookup name = none) (start : Nat) :
      Reads rules tokens (.rule name) start .fail

namespace Reads

variable {rules : Rules} {tokens : List Token} {grammar : Grammar} {start : Nat}
  {reading other : Reading}

/-- **A grammar makes one thing of tokens at most.** -/
theorem unique (first : Reads rules tokens grammar start reading)
    (second : Reads rules tokens grammar start other) : reading = other := by
  induction first generalizing other with
  | peek | token | tokenExcept | eat | any | skip | endOfInput | trace | succeed | fail =>
      cases second
      rfl
  | allNil => cases second; rfl
  | allMore _ _ inductionFirst inductionOthers =>
      cases second with
      | allMore first others =>
          cases inductionFirst first
          rw [inductionOthers others]
      | allStop first stops =>
          cases inductionFirst first
          exact stops.elim
  | allStop _ stops _ inductionFirst =>
      cases second with
      | allMore first others =>
          cases inductionFirst first
          exact stops.elim
      | allStop first => exact inductionFirst first
  | sequence _ induction =>
      cases second with
      | sequence inner => exact induction inner
  | choiceNil => cases second; rfl
  | choiceFirst _ unfailed _ induction =>
      cases second with
      | choiceFirst first => exact induction first
      | choiceLater first => exact absurd (induction first) unfailed
  | choiceLater _ _ inductionFirst inductionOthers =>
      cases second with
      | choiceFirst first unfailed => exact absurd (inductionFirst first).symm unfailed
      | choiceLater _ others => exact inductionOthers others
  | backtrack _ induction =>
      cases second with
      | backtrack inner => exact induction inner
  | optionalSome _ unfailed induction =>
      cases second with
      | optionalSome inner => exact induction inner
      | optionalNone inner => exact absurd (induction inner) unfailed
  | optionalNone _ induction =>
      cases second with
      | optionalSome inner unfailed => exact absurd (induction inner).symm unfailed
      | optionalNone => rfl
  | manyEnd _ induction =>
      cases second with
      | manyEnd => rfl
      | manyMore first | manyStill first | manyStuck first => cases induction first
  | manyMore _ moved _ inductionFirst inductionOthers =>
      cases second with
      | manyMore first _ others =>
          cases inductionFirst first
          rw [inductionOthers others]
      | manyStill first =>
          cases inductionFirst first
          exact absurd moved (Nat.lt_irrefl _)
      | manyEnd first | manyStuck first => cases inductionFirst first
  | manyStill _ induction =>
      cases second with
      | manyStill => rfl
      | manyMore first moved =>
          cases induction first
          exact absurd moved (Nat.lt_irrefl _)
      | manyEnd first | manyStuck first => cases induction first
  | manyStuck _ induction =>
      cases second with
      | manyStuck first =>
          cases induction first
          rfl
      | manyEnd first | manyMore first | manyStill first => cases induction first
  | many1None _ induction =>
      cases second with
      | many1None => rfl
      | many1Some first unfailed => exact absurd (induction first).symm unfailed
  | many1Some _ unfailed _ inductionFirst inductionOthers =>
      cases second with
      | many1None first => exact absurd (inductionFirst first) unfailed
      | many1Some _ _ others => exact inductionOthers others
  | node _ name minChildren induction =>
      cases second with
      | node inner => rw [induction inner]
  | rule found _ induction =>
      cases second with
      | rule found' inner =>
          cases Option.some.inj (found.symm.trans found')
          exact induction inner
      | noRule missing => cases found.symm.trans missing
  | noRule missing =>
      cases second with
      | rule found => cases missing.symm.trans found
      | noRule => rfl

end Reads

end Grammar

/-- Whether a match does not go back, and goes on no further than the last token. -/
def Reading.Ahead (tokens : List Token) (start : Nat) : Reading → Prop
  | .upTo stop _ => start ≤ stop ∧ (start < stop → stop ≤ tokens.length)
  | _ => True

namespace Reading.Ahead

variable {tokens : List Token} {start middle : Nat} {reading : Reading}

/-- A match of no tokens. -/
theorem still (tokens : List Token) (start : Nat) (elements : List Element) :
    (Reading.upTo start elements).Ahead tokens start :=
  ⟨Nat.le_refl _, fun less => absurd less (Nat.lt_irrefl _)⟩

/-- One match after another. -/
theorem prepend {elements : List Element}
    (first : (Reading.upTo middle elements).Ahead tokens start)
    (others : reading.Ahead tokens middle) : (reading.prepend elements).Ahead tokens start := by
  cases reading with
  | fail => trivial
  | stuck place => trivial
  | upTo stop more =>
      obtain ⟨le, within⟩ := first
      obtain ⟨leStop, withinStop⟩ := others
      refine ⟨Nat.le_trans le leStop, ?_⟩
      intro less
      by_cases moved : middle < stop
      · exact withinStop moved
      · have same : middle = stop := by omega
        rw [← same] at less ⊢
        exact within less

/-- A node around a match. -/
theorem enclose (ahead : reading.Ahead tokens start) (name : String) (minChildren : Nat) :
    (reading.enclose name minChildren).Ahead tokens start := by
  cases reading with
  | fail => trivial
  | stuck place => trivial
  | upTo stop elements => exact ahead

/-- A match of one token. -/
theorem ofToken (tokens : List Token) (start : Nat) (accepts : Token → Bool)
    {accepted : Token → Reading}
    (next : ∀ token, start < tokens.length → (accepted token).Ahead tokens start) :
    (Reading.ofToken tokens start accepts accepted).Ahead tokens start := by
  cases found : tokens[start]? with
  | none =>
      rw [Reading.ofToken, found]
      trivial
  | some token =>
      have within : start < tokens.length := (List.getElem?_eq_some_iff.mp found).1
      simp only [Reading.ofToken, found]
      by_cases accepted : accepts token = true
      · rw [if_pos accepted]
        exact next token within
      · rw [if_neg accepted]
        trivial

/-- A match of the next token. -/
theorem next {tokens : List Token} {start : Nat} (within : start < tokens.length)
    (elements : List Element) : (Reading.upTo (start + 1) elements).Ahead tokens start :=
  ⟨Nat.le_succ start, fun _ => within⟩

end Reading.Ahead

/-- A grammar looks ahead only, and not beyond the last token. -/
theorem Grammar.Reads.ahead {rules : Rules} {tokens : List Token} {grammar : Grammar} {start : Nat}
    {reading : Reading} (reads : grammar.Reads rules tokens start reading) :
    reading.Ahead tokens start := by
  induction reads with
  | peek name start => exact .ofToken _ _ _ fun _ _ => .still tokens start []
  | token | tokenExcept | any => exact .ofToken _ _ _ fun token within => .next within [.leaf token]
  | eat | skip => exact .ofToken _ _ _ fun _ within => .next within []
  | endOfInput start =>
      split
      · exact .still tokens start []
      · trivial
  | trace | succeed | allNil | optionalNone | manyEnd => exact .still tokens _ []
  | fail | choiceNil | many1None | noRule => trivial
  | allMore _ _ first others => exact first.prepend others
  | manyMore _ _ _ first others => exact first.prepend others
  | manyStill | manyStuck => trivial
  | allStop _ _ _ ahead | sequence _ ahead | choiceFirst _ _ _ ahead => exact ahead
  | choiceLater _ _ _ ahead => exact ahead
  | backtrack _ ahead | optionalSome _ _ ahead | rule _ _ ahead => exact ahead
  | many1Some _ _ _ _ ahead => exact ahead
  | node _ name minChildren ahead => exact ahead.enclose name minChildren

end TokenGrammar
