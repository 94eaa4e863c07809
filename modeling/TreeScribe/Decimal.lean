import TreeScribe.Decimal.Double

/-!
# Decimal numbers

A number with a point or an exponent is held as the shortest decimal that stands for its double, and
is written with at least one digit on both sides of the point.
-/

namespace TreeScribe

/-- The number `digits * 10 ^ exponent`, with its sign; zero has one too. -/
structure Decimal where
  negative : Bool
  digits : Nat
  exponent : Int
deriving DecidableEq, Repr

namespace Decimal

/-- The decimal of a rounded magnitude. -/
def ofDouble (negative : Bool) (x : Double) : Decimal :=
  ⟨negative, x.shortest.1, x.shortest.2⟩

/-- The decimal that a significand and a power of ten round to, unless that is out of range. -/
def ofParts? (negative : Bool) (significand : Nat) (exponent : Int) : Option Decimal :=
  (Double.scale? significand exponent).map (ofDouble negative)

/-- The exponents of a leading digit for which a number is written without a power of ten. -/
def isPositional (leading : Int) : Bool := decide (-5 ≤ leading) && decide (leading ≤ 15)

/-- The written exponent: a sign and at least two digits. -/
def exponentText (e : Int) : List Char :=
  let digits := Nat.toDigits 10 e.natAbs
  'e' :: (if e < 0 then '-' else '+') :: (List.replicate (2 - digits.length) '0' ++ digits)

/-- A decimal as it is written. -/
def text (d : Decimal) : List Char :=
  let digits := Nat.toDigits 10 d.digits
  let leading := d.exponent + digits.length - 1
  (if d.negative then ['-'] else []) ++
    if isPositional leading then
      if 0 ≤ d.exponent then digits ++ List.replicate d.exponent.toNat '0' ++ ['.', '0']
      else if 0 ≤ leading then
        digits.take (leading.toNat + 1) ++ '.' :: digits.drop (leading.toNat + 1)
      else '0' :: '.' :: (List.replicate (-leading - 1).toNat '0' ++ digits)
    else
      digits.take 1 ++ (if digits.length = 1 then [] else '.' :: digits.drop 1) ++
        exponentText leading

end Decimal

end TreeScribe
