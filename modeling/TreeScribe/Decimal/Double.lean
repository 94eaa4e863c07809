/-!
# Rounding to double precision

Magnitudes of the binary format with 53 bits: a mantissa below `2 ^ 53` times a power of two whose
exponent is at least -1074 and at most 971.  All arithmetic is exact on natural numbers and is
rounded once, to the nearest magnitude and to an even mantissa on a tie.
-/

namespace TreeScribe

/-- The magnitude `mantissa * 2 ^ exponent`. -/
structure Double where
  mantissa : Nat
  exponent : Int
deriving DecidableEq, Repr

namespace Double

/-- Mantissas are below this bound, two to the power of 53. -/
def mantissaLimit : Nat := 0x20000000000000

/-- Half of that bound: the least mantissa with all its bits. -/
def fullMantissa : Nat := 0x10000000000000

/-- The quotient rounded to the nearest natural number, a tie to the even one. -/
def divRound (num den : Nat) : Nat :=
  let quotient := num / den
  let rest := 2 * (num % den)
  if rest < den then quotient
  else if den < rest then quotient + 1
  else quotient + quotient % 2

/-- The part of a power `base ^ exponent` above a fraction's bar. -/
def above (base : Nat) (exponent : Int) : Nat := Nat.pow base exponent.toNat

/-- The part of a power `base ^ exponent` below a fraction's bar. -/
def below (base : Nat) (exponent : Int) : Nat := Nat.pow base (-exponent).toNat

/-- Zero. -/
def zero : Double := ⟨0, -1074⟩

/-- The magnitude nearest to `num / den`, if it is in range. -/
def nearest? (num den : Nat) : Option Double :=
  if num = 0 then some zero
  else
    let guess : Int := max ((Nat.log2 num : Int) - Nat.log2 den - 53) (-1074)
    let scaled (e : Int) : Nat × Nat := (num * below 2 e, den * above 2 e)
    let e := if (scaled guess).1 / (scaled guess).2 < mantissaLimit then guess else guess + 1
    let mantissa := divRound (scaled e).1 (scaled e).2
    let rounded : Double :=
      if mantissa = mantissaLimit then ⟨fullMantissa, e + 1⟩ else ⟨mantissa, e⟩
    if rounded.exponent ≤ 971 then some rounded else none

/-- The product, rounded. -/
def mul? (x y : Double) : Option Double :=
  let e := x.exponent + y.exponent
  nearest? (x.mantissa * y.mantissa * above 2 e) (below 2 e)

/-- The quotient by a magnitude other than zero, rounded. -/
def div? (x y : Double) : Option Double :=
  let e := x.exponent - y.exponent
  nearest? (x.mantissa * above 2 e) (y.mantissa * below 2 e)

/-- The rounded power of ten. -/
def pow10? (n : Nat) : Option Double := nearest? (Nat.pow 10 n) 1

/-- The magnitude that a significand and a power of ten write, rounded at each of these steps: the
significand, the power of ten, and their product or quotient.  Powers below `10 ^ -308` are divided
by in two steps. -/
def scale? (significand : Nat) (exponent : Int) : Option Double := do
  let x ← nearest? significand 1
  if x.mantissa = 0 ∨ exponent < -616 then return zero
  if exponent < -308 then
    (← x.div? (← pow10? 308)).div? (← pow10? (-exponent - 308).toNat)
  else if exponent < 0 then x.div? (← pow10? (-exponent).toNat)
  else if exponent ≤ 308 then x.mul? (← pow10? exponent.toNat)
  else none

/-! ## Shortest decimals -/

/-- The exponent of the leading decimal digit of `num / den`. -/
def leadingExponent (num den : Nat) : Int :=
  if den ≤ num then (Nat.toDigits 10 (num / den)).length - 1
  else -((Nat.toDigits 10 ((den - 1) / num)).length : Int)

/-- The decimal `digits * 10 ^ exponent` of `count` digits that reads back as `x` and is nearest to
it, if there is one; of two equally near, the one with an even last digit. -/
def decimalOfCount? (x : Double) (count : Nat) : Option (Nat × Int) :=
  let gap := if x.mantissa = fullMantissa ∧ -1074 < x.exponent then 1 else 2
  let unit := above 2 (x.exponent - 2)
  let den := below 2 (x.exponent - 2)
  let num := 4 * x.mantissa * unit
  let low := (4 * x.mantissa - gap) * unit
  let high := (4 * x.mantissa + 2) * unit
  let exponent := leadingExponent num den + 1 - count
  let up := above 10 exponent * den
  let down := below 10 exponent
  let reads (digits : Nat) : Bool :=
    if x.mantissa % 2 = 0 then low * down ≤ digits * up && digits * up ≤ high * down
    else low * down < digits * up && digits * up < high * down
  let smaller := num * down / up
  let larger := smaller + 1
  let doubled := 2 * (num * down)
  let middle := (smaller + larger) * up
  let preferSmaller := doubled < middle || (doubled == middle && smaller % 2 == 0)
  let chosen :=
    match reads smaller, reads larger with
    | true, true => some (if preferSmaller then smaller else larger)
    | true, false => some smaller
    | false, true => some larger
    | false, false => none
  chosen.map fun digits =>
    if digits = Nat.pow 10 count then (1, exponent + count) else (digits, exponent)

/-- The shortest decimal that reads back as `x`. -/
def shortest (x : Double) : Nat × Int :=
  if x.mantissa = 0 then (0, 0)
  else ((List.range 17).findSome? fun n => decimalOfCount? x (n + 1)).getD (0, 0)

end Double

end TreeScribe
