import TokenGrammar.Unicode.CharSet

/-! # White space

* `Unicode.whiteSpace`: the characters with the White_Space property.
* `Unicode.isWhiteSpace`: whether a character is one of them. -/

namespace TokenGrammar.Unicode

/-- The controls from tab to carriage return, the space, the next-line control, and the spaces,
line and paragraph separators of other scripts. -/
def whiteSpace : CharSet :=
  .ofRanges
    [(0x9, 0xD), (0x20, 0x20), (0x85, 0x85), (0xA0, 0xA0), (0x1680, 0x1680), (0x2000, 0x200A),
     (0x2028, 0x2029), (0x202F, 0x202F), (0x205F, 0x205F), (0x3000, 0x3000)]

/-- Whether a character is white space. -/
def isWhiteSpace (c : Char) : Bool :=
  whiteSpace.contains c

end TokenGrammar.Unicode
