/-!
# Sets of characters as ranges of code points

A property of characters beyond ASCII is a list of ranges, each with a stride: capital and small
letters often alternate, and then every second code point of a range has the property.
-/

namespace TreeScribe.Text

/-- Every `stride`-th code point from `first` to `last`. -/
structure CodeRange where
  first : Nat
  last : Nat
  stride : Nat

/-- Whether a range holds a code point. -/
def CodeRange.contains (r : CodeRange) (n : Nat) : Bool :=
  decide (r.first ≤ n) && decide (n ≤ r.last) && (n - r.first) % r.stride == 0

/-- Whether one of the ranges holds the character. -/
def inRanges (ranges : List CodeRange) (c : Char) : Bool :=
  ranges.any (·.contains c.toNat)

/-- Whether the character is one of the first 128. -/
def isAscii (c : Char) : Bool := decide (c.toNat < 128)

end TreeScribe.Text
