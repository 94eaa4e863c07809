import Mathlib.Algebra.Group.Nat.Defs
import Mathlib.Data.List.Induction
import TreeScribe.Text.Code

/-!
# Hexadecimal numerals

A numeral is written with the digits of either case, zeros in front allowed.  Main statement: the
number that is read is the one that is written (`HexNumeral.hex?_eq`), also where the text goes on
behind it (`HexNumeral.hexHead?_append`).
-/

namespace TreeScribe.Text

/-- The hexadecimal digits of both cases with their values. -/
def hexDigits : List (Char × Nat) :=
  "0123456789abcdef".toList.zipIdx ++ "ABCDEF".toList.zipIdx 10

/-- Digits that write a number, the last one its units. -/
inductive HexNumeral : List Char → Nat → Prop
  | nil : HexNumeral [] 0
  | digit {cs : List Char} {n : Nat} {c : Char} {d : Nat} (hcs : HexNumeral cs n)
      (hc : (c, d) ∈ hexDigits) : HexNumeral (cs ++ [c]) (16 * n + d)

theorem hexDigit?_of_mem {c : Char} {d : Nat} (h : (c, d) ∈ hexDigits) : hexDigit? c = some d := by
  have hall : ∀ p ∈ hexDigits, hexDigit? p.1 = some p.2 := by decide
  exact hall (c, d) h

theorem digitChar_mem_hexDigits {d : Nat} (h : d < 16) : (Nat.digitChar d, d) ∈ hexDigits := by
  have hall : ∀ d < 16, (Nat.digitChar d, d) ∈ hexDigits := by decide
  exact hall d h

theorem hexFrom?_append (n : Nat) (cs ds : List Char) :
    hexFrom? n (cs ++ ds) = (hexFrom? n cs).bind fun m => hexFrom? m ds := by
  induction cs generalizing n with
  | nil => rfl
  | cons c cs ih => cases hc : hexDigit? c <;> simp [hexFrom?, hc, ih]

namespace HexNumeral

variable {cs : List Char} {n : Nat}

theorem hex?_eq (h : HexNumeral cs n) : hex? cs = some n := by
  induction h with
  | nil => rfl
  | digit _ hc ih =>
    have ih : hexFrom? 0 _ = some _ := ih
    simp [hex?, hexFrom?_append, ih, hexFrom?, hexDigit?_of_mem hc]

theorem isHexDigit (h : HexNumeral cs n) : ∀ c ∈ cs, isHexDigit c = true := by
  induction h with
  | nil => simp
  | digit _ hc ih =>
    intro c hmem
    rcases List.mem_append.1 hmem with hmem | hmem
    · exact ih c hmem
    · rw [List.mem_singleton.1 hmem, Text.isHexDigit, hexDigit?_of_mem hc]
      rfl

theorem hexHead?_append (h : HexNumeral cs n) {count : Nat} (hcount : cs.length = count)
    (rest : List Char) : hexHead? count (cs ++ rest) = some n := by
  subst hcount
  rw [hexHead?, if_pos (by simp), List.take_left, h.hex?_eq]

/-- A numeral writes a number with as many digits at most. -/
theorem lt_pow (h : HexNumeral cs n) : n < 16 ^ cs.length := by
  induction h with
  | nil => exact Nat.one_pos
  | @digit cs n c d _ hc ih =>
    have hall : ∀ p ∈ hexDigits, p.2 < 16 := by decide
    have hd : d < 16 := hall (c, d) hc
    rw [List.length_append, List.length_singleton, Nat.pow_succ]
    omega

end HexNumeral

/-- A numeral from its digits. -/
theorem hexNumeral_map (digits : List (Char × Nat)) (h : ∀ p ∈ digits, p ∈ hexDigits) :
    HexNumeral (digits.map Prod.fst) (digits.foldl (fun n p => 16 * n + p.2) 0) := by
  induction digits using List.reverseRecOn with
  | nil => exact .nil
  | append_singleton digits p ih =>
    rw [List.map_append, List.foldl_append]
    exact (ih fun q hq => h q (by simp [hq])).digit (h p (by simp))

/-- The two digits of a byte write it, also behind zeros. -/
theorem hexNumeral_byte {n : Nat} (h : n < 256) :
    HexNumeral ['0', '0', Nat.digitChar (n / 16), Nat.digitChar (n % 16)] n := by
  have hdigits : ∀ p ∈ [('0', 0), ('0', 0), (Nat.digitChar (n / 16), n / 16),
      (Nat.digitChar (n % 16), n % 16)], p ∈ hexDigits := by
    have hzero : ('0', 0) ∈ hexDigits := by decide
    have hhigh := digitChar_mem_hexDigits (d := n / 16) (by omega)
    have hlow := digitChar_mem_hexDigits (d := n % 16) (by omega)
    simp [hzero, hhigh, hlow]
  have hnumeral := hexNumeral_map _ hdigits
  have hvalue : 16 * (16 * (16 * (16 * 0 + 0) + 0) + n / 16) + n % 16 = n := by omega
  rwa [List.foldl_cons, List.foldl_cons, List.foldl_cons, List.foldl_cons, List.foldl_nil,
    hvalue] at hnumeral

end TreeScribe.Text
