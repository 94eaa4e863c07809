/-!
# Arithmetic that leaves its word

Offsets are 32-bit words and indents are 64-bit words.  An operation whose result does not fit its
word fails with an `Overflow` instead of wrapping.
-/

namespace TreeScribe

/-- The operation whose result did not fit. -/
inductive Overflow
  | addition
  | subtraction
deriving DecidableEq, Repr

/-- The wording of an overflow. -/
def Overflow.message : Overflow → String
  | .addition => "attempt to add with overflow"
  | .subtraction => "attempt to subtract with overflow"

end TreeScribe
