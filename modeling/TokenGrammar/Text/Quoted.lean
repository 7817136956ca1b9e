import TokenGrammar.Text.Numeral
import TokenGrammar.Unicode.Display

/-! # Quoted text in messages

* `Text.quoted`: a text in quotes, with everything escaped that would not show. -/

namespace TokenGrammar.Text

/-- How a character is written within quotes: quotes, backslashes and the common controls by a
letter, and what is not visible on its own by its code point. -/
def quotedChar (c : Char) : String :=
  if c = '"' then "\\\""
  else if c = '\\' then "\\\\"
  else if c = '\n' then "\\n"
  else if c = '\r' then "\\r"
  else if c = '\t' then "\\t"
  else if c.toNat = 0 then "\\0"
  else if Unicode.isVisible c then String.singleton c
  else "\\u\x7b" ++ Numeral.hex c.toNat ++ "\x7d"

/-- A text in quotes, with everything escaped that would not show. -/
def quoted (text : String) : String :=
  "\"" ++ String.join (text.toList.map quotedChar) ++ "\""

end TokenGrammar.Text
