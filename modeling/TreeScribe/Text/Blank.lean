import TreeScribe.Text.CodeRange

/-!
# White space

The characters with the Unicode property `White_Space`.  A byte order mark is not among them.
-/

namespace TreeScribe.Text

/-- The white space beyond ASCII. -/
def blankRanges : List CodeRange :=
  [⟨0x85, 0x85, 1⟩, ⟨0xA0, 0xA0, 1⟩, ⟨0x1680, 0x1680, 1⟩, ⟨0x2000, 0x200A, 1⟩,
    ⟨0x2028, 0x2029, 1⟩, ⟨0x202F, 0x202F, 1⟩, ⟨0x205F, 0x205F, 1⟩, ⟨0x3000, 0x3000, 1⟩]

/-- Whether a character is white space. -/
def isBlank (c : Char) : Bool :=
  if isAscii c then c == ' ' || (decide ('\t' ≤ c) && decide (c ≤ '\r')) else inRanges blankRanges c

end TreeScribe.Text
