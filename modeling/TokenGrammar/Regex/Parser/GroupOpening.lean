import TokenGrammar.Regex.Parser.Spacing
import TokenGrammar.Regex.Pattern
import TokenGrammar.Regex.PatternError
import TokenGrammar.Unicode.Display

/-! # Openings of groups

What an opening parenthesis introduces: a numbered group, a named one, a group with flags, or flags
alone.

* `Regex.GroupOpening`: the four cases.
* `Regex.parseGroupOpening`: read an opening, after its parenthesis. -/

namespace TokenGrammar.Regex

/-- What an opening parenthesis introduces. -/
inductive GroupOpening where
  /-- A numbered group, perhaps with a name. -/
  | capture (name : Option String)
  /-- A group without a number, with flags for its body. -/
  | plain (setting : FlagSetting)
  /-- Flags for the rest of the group around it, and nothing more. -/
  | directive (setting : FlagSetting)

/-- The name that an opening gives to its group. -/
def GroupOpening.name? : GroupOpening → Option String
  | .capture name => name
  | _ => none

/-- The flags by letter. -/
def Flag.ofChar? : Char → Option Flag
  | 'i' => some .ignoreCase
  | 'm' => some .multiLine
  | 's' => some .dotAll
  | 'U' => some .swapGreed
  | 'u' => some .unicode
  | 'R' => some .crlf
  | 'x' => some .ignoreWhitespace
  | _ => none

/-- Flags that have been read: those on, those off, and where the minus sign was. -/
structure FlagRun where
  /-- The flags so far. -/
  setting : FlagSetting
  /-- Whether a minus sign has been read. -/
  negated : Bool
  /-- Whether it was the last thing read. -/
  afterMinus : Bool

/-- Add a flag. -/
def FlagRun.add (run : FlagRun) (flag : Flag) : FlagRun :=
  { run with
    setting :=
      if run.negated then { run.setting with off := run.setting.off ++ [flag] }
      else { run.setting with on := run.setting.on ++ [flag] }
    afterMinus := false }

/-- Read flags up to the colon or parenthesis that ends them. -/
def parseFlags (run : FlagRun) : List Char → Except PatternError (GroupOpening × List Char)
  | [] => .error .flagUnexpectedEnd
  | c :: rest =>
      if c = ':' ∨ c = ')' then
        if run.afterMinus then .error .flagDanglingNegation
        else if c = ':' then .ok (.plain run.setting, rest)
        -- Without flags the question mark is a repetition of nothing.
        else if run.setting = ⟨[], []⟩ then .error .repetitionMissing
        else .ok (.directive run.setting, rest)
      else if c = '-' then
        if run.negated then .error .flagRepeatedNegation
        else parseFlags { run with negated := true, afterMinus := true } rest
      else
        match Flag.ofChar? c with
        | none => .error .flagUnrecognized
        | some flag =>
            if run.setting.on.contains flag || run.setting.off.contains flag then
              .error .flagDuplicate
            else parseFlags (run.add flag) rest

/-- The characters that names of groups start with. -/
def isNameStart (c : Char) : Bool :=
  c == '_' || Unicode.isNameAlphabetic c

/-- The characters that names of groups go on with. -/
def isNamePart (c : Char) : Bool :=
  isNameStart c || c == '.' || c == '[' || c == ']' || Unicode.isNameNumeric c

/-- Read the rest of the name of a group, after the characters `name` of it. -/
def parseNameFrom (name : List Char) : List Char → Except PatternError (List Char × List Char)
  | [] => .error .groupNameUnexpectedEnd
  | c :: rest =>
      if c = '>' then .ok (name, rest)
      else if if name = [] then isNameStart c else isNamePart c then
        parseNameFrom (name ++ [c]) rest
      else .error .groupNameInvalid

/-- Read the name of a group. -/
def parseGroupName (text : List Char) : Except PatternError (GroupOpening × List Char) := do
  let (name, rest) ← parseNameFrom [] text
  if name = [] then throw .groupNameEmpty
  pure (.capture (some (.ofList name)), rest)

/-- Read what the question mark after an opening parenthesis introduces. -/
def parseMarkedGroup : List Char → Except PatternError (GroupOpening × List Char)
  | [] => .error .groupUnclosed
  | '=' :: _ => .error .lookAround
  | '!' :: _ => .error .lookAround
  | '<' :: '=' :: _ => .error .lookAround
  | '<' :: '!' :: _ => .error .lookAround
  | '<' :: rest => parseGroupName rest
  | 'P' :: '<' :: rest => parseGroupName rest
  | rest => parseFlags ⟨⟨[], []⟩, false, false⟩ rest

/-- Read what an opening parenthesis introduces. -/
def parseGroupOpening (verbose : Bool) (text : List Char) :
    Except PatternError (GroupOpening × List Char) :=
  match skipSpacing verbose text with
  | '?' :: rest => parseMarkedGroup rest
  | rest => .ok (.capture none, rest)

end TokenGrammar.Regex
