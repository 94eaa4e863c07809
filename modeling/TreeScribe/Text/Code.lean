/-!
# Numbers that stand for characters

Escapes write a character as a hexadecimal number: its code point, or the units of its UTF-16 form.
A number that is no character's code point stands for the replacement character.
-/

namespace TreeScribe.Text

/-! ## Hexadecimal digits -/

/-- The value of a hexadecimal digit of either case. -/
def hexDigit? (c : Char) : Option Nat :=
  if '0' ≤ c ∧ c ≤ '9' then some (c.toNat - '0'.toNat)
  else if 'a' ≤ c ∧ c ≤ 'f' then some (c.toNat - 'a'.toNat + 10)
  else if 'A' ≤ c ∧ c ≤ 'F' then some (c.toNat - 'A'.toNat + 10)
  else none

/-- Whether a character is a hexadecimal digit. -/
def isHexDigit (c : Char) : Bool := (hexDigit? c).isSome

/-- The number that hexadecimal digits write behind those already read. -/
def hexFrom? : Nat → List Char → Option Nat
  | n, [] => some n
  | n, c :: cs => (hexDigit? c).bind fun d => hexFrom? (16 * n + d) cs

/-- The number that a text of hexadecimal digits writes. -/
def hex? (cs : List Char) : Option Nat := hexFrom? 0 cs

/-- The number that the first `count` characters write, if there are so many and all are digits. -/
def hexHead? (count : Nat) (cs : List Char) : Option Nat :=
  if count ≤ cs.length then hex? (cs.take count) else none

/-! ## Code points and surrogates -/

/-- Whether a 16-bit unit is the first half of a pair. -/
def isHighSurrogate (n : Nat) : Bool := decide (0xD800 ≤ n) && decide (n < 0xDC00)

/-- Whether a 16-bit unit is the second half of a pair. -/
def isLowSurrogate (n : Nat) : Bool := decide (0xDC00 ≤ n) && decide (n < 0xE000)

/-- The code point of a pair of surrogates. -/
def joinSurrogates (high low : Nat) : Nat :=
  0x10000 + (high - 0xD800) * 0x400 + (low - 0xDC00)

/-- The four-digit low surrogate escape that a text opens with. -/
def lowSurrogateEscape? : List Char → Option Nat
  | '\\' :: 'u' :: rest => (hexHead? 4 rest).filter isLowSurrogate
  | _ => none

/-- What stands for a number that is no character. -/
def replacement : Char := '\uFFFD'

/-- The character of a code point, if it is one. -/
def scalar? (n : Nat) : Option Char :=
  if h : n.isValidChar then some (Char.ofNatAux n h) else none

/-- The character of a code point, or the replacement character. -/
def scalar (n : Nat) : Char := (scalar? n).getD replacement

end TreeScribe.Text
