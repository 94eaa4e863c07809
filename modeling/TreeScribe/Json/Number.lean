import TreeScribe.Json
import TreeScribe.Text.Code

/-!
# Numbers in JSON text

A number is a sign, digits without leading zeros, a fraction and an exponent.  Relaxed text may also
put a plus sign in front and write hexadecimal numbers.

The digits that fit a 64-bit word make the significand of a number.  Without a fraction and an
exponent it is a whole number, if it fits 64 bits with its sign; every other number is a decimal,
also the negative zero.
-/

namespace TreeScribe.Json

open TreeScribe.Text

/-! ## Finding a number -/

/-- The digits that a text opens with. -/
def leadingDigits (cs : List Char) : List Char := cs.takeWhile Char.isDigit

/-- The fraction that a text opens with: none of it, or a point and at least one digit. -/
def fraction? : List Char → Option (List Char)
  | '.' :: cs => if leadingDigits cs = [] then none else some ('.' :: leadingDigits cs)
  | _ => some []

/-- The exponent that a text opens with: none of it, or its letter, perhaps a sign, and at least one
digit. -/
def exponent? : List Char → Option (List Char)
  | [] => some []
  | e :: cs =>
    if e = 'e' ∨ e = 'E' then
      let sign := if cs.head? = some '-' ∨ cs.head? = some '+' then cs.take 1 else []
      let digits := leadingDigits (cs.drop sign.length)
      if digits = [] then none else some (e :: sign ++ digits)
    else some []

/-- The digits before a fraction: a single zero, or digits that do not begin with one. -/
def whole? (cs : List Char) : Option (List Char) :=
  if cs.head? = some '0' then some ['0']
  else if leadingDigits cs = [] then none else some (leadingDigits cs)

/-- The hexadecimal number that a text opens with, if it opens like one: its mark and its digits. -/
def hexadecimal? : List Char → Option (List Char)
  | '0' :: x :: cs => if x = 'x' ∨ x = 'X' then some ('0' :: x :: cs.takeWhile isHexDigit) else none
  | _ => none

/-- The number without a sign that a text opens with. -/
def unsigned? (relaxed : Bool) (cs : List Char) : Option (List Char) :=
  match if relaxed then hexadecimal? cs else none with
  | some written => if written.length = 2 then none else some written
  | none => do
    let whole ← whole? cs
    let fraction ← fraction? (cs.drop whole.length)
    let exponent ← exponent? (cs.drop (whole.length + fraction.length))
    return whole ++ fraction ++ exponent

/-- The number that a text opens with. -/
def number? (relaxed : Bool) : List Char → Option (List Char)
  | [] => none
  | c :: cs =>
    if c = '-' ∨ (relaxed ∧ c = '+') then (unsigned? relaxed cs).map (c :: ·)
    else unsigned? relaxed (c :: cs)

/-! ## The value of a number -/

/-- Unsigned words are below this bound. -/
def wordLimit : Nat := 0x10000000000000000

/-- The magnitude of the least signed word. -/
def signedLimit : Nat := 0x8000000000000000

/-- The significand that digits append to `n`, and the digits that no longer fit a word. -/
def appendDigits (n : Nat) : List Char → Nat × List Char
  | [] => (n, [])
  | d :: ds =>
    let m := 10 * n + (d.toNat - '0'.toNat)
    if m < wordLimit then appendDigits m ds else (n, d :: ds)

/-- The number that decimal digits write. -/
def digitsValue (ds : List Char) : Nat := Nat.ofDigitChars 10 ds 0

/-- The value of a signed whole number, if it fits 64 bits.  The negative zero does not. -/
def wholeValue? (negative : Bool) (n : Nat) : Option Int :=
  if negative then (if 0 < n ∧ n ≤ signedLimit then some (-(n : Int)) else none)
  else if n < wordLimit then some n else none

/-- The value of a decimal number without its sign; none when it is out of range. -/
def unsignedValue? (negative : Bool) (cs : List Char) : Option Json :=
  let whole := leadingDigits cs
  let rest := cs.drop whole.length
  let (n, dropped) := appendDigits 0 whole
  match if rest = [] ∧ dropped = [] then wholeValue? negative n else none with
  | some value => some (.integer value)
  | none =>
    let fraction := if rest.head? = some '.' then leadingDigits (rest.drop 1) else []
    let (significand, unused) := appendDigits n fraction
    let power := (rest.dropWhile fun c => c != 'e' && c != 'E').drop 1
    let exponent : Int :=
      if power.head? = some '-' then -(digitsValue (power.drop 1) : Int)
      else if power.head? = some '+' then digitsValue (power.drop 1)
      else digitsValue power
    (Decimal.ofParts? negative significand
      ((dropped.length : Int) - (fraction.length - unused.length) + exponent)).map .decimal

/-- The value of a hexadecimal number, which must fit a signed word before its sign counts. -/
def hexadecimalValue? (negative : Bool) (digits : List Char) : Option Json :=
  (hex? digits).bind fun n =>
    if n < signedLimit then some (.integer (if negative then -(n : Int) else n)) else none

/-- The value of a number as it is written.  A number out of range keeps its text. -/
def numberValue (written : List Char) : Json :=
  let negative := written.head? = some '-'
  let unsigned := if negative ∨ written.head? = some '+' then written.drop 1 else written
  let value? :=
    match hexadecimal? unsigned with
    | some _ => hexadecimalValue? negative (unsigned.drop 2)
    | none => unsignedValue? negative unsigned
  value?.getD (.string (String.ofList written))

end TreeScribe.Json
