import TreeScribe.Json.Number
import TreeScribe.Json.Printer

/-!
# Whole numbers read back

A written number goes on as long as digits, a point or an exponent follow, so it is read back in
front of anything that does not go on with them (`number?_integerText`).  Main statement: a whole
number that fits a 64-bit word is the value of its text (`numberValue_integerText`).
-/

namespace TreeScribe.Json

open Text

/-! ## Digits -/

theorem exists_toDigits_eq_cons (n : Nat) : ∃ d ds, Nat.toDigits 10 n = d :: ds :=
  List.exists_cons_of_ne_nil Nat.toDigits_ne_nil

theorem head?_toDigits_append (n : Nat) (rest : List Char) :
    (Nat.toDigits 10 n ++ rest).head? = (Nat.toDigits 10 n).head? := by
  obtain ⟨d, ds, hds⟩ := exists_toDigits_eq_cons n
  rw [hds, List.cons_append, List.head?_cons, List.head?_cons]

/-- The digits of a number that is not zero do not begin with a zero. -/
theorem head?_toDigits_ne {n : Nat} (h : 0 < n) : (Nat.toDigits 10 n).head? ≠ some '0' := by
  induction n using Nat.strongRecOn with
  | ind n ih =>
    rcases Nat.lt_or_ge n 10 with hsmall | hlarge
    · have hdigits : ∀ d < 10, 0 < d → Nat.digitChar d ≠ '0' := by decide
      rw [Nat.toDigits_of_lt_base hsmall]
      simpa using hdigits n hsmall h
    · have hfirst := ih (n / 10) (by omega) (by omega)
      rwa [Nat.toDigits_of_base_le (by omega) hlarge, head?_toDigits_append]

/-- No number goes on in this text. -/
def EndsNumber (rest : List Char) : Prop :=
  ∀ c ∈ rest.head?, c.isDigit = false ∧ c ≠ '.' ∧ c ≠ 'e' ∧ c ≠ 'E'

section

variable {digits rest : List Char} {k : Nat}

theorem leadingDigits_append (hdigits : ∀ c ∈ digits, c.isDigit = true) (hrest : EndsNumber rest) :
    leadingDigits (digits ++ rest) = digits := by
  have hnone : rest.takeWhile Char.isDigit = [] := by
    cases rest with
    | nil => rfl
    | cons c cs => rw [List.takeWhile_cons, (hrest c rfl).1, if_neg Bool.false_ne_true]
  rw [leadingDigits, List.takeWhile_append_of_pos hdigits, hnone, List.append_nil]

theorem isDigit_toDigits (k : Nat) : ∀ c ∈ Nat.toDigits 10 k, c.isDigit = true :=
  fun _ hc => Nat.isDigit_of_mem_toDigits (by decide) (by decide) hc

/-! ## Where a number ends -/

theorem whole?_toDigits (k : Nat) (hrest : EndsNumber rest) :
    whole? (Nat.toDigits 10 k ++ rest) = some (Nat.toDigits 10 k) := by
  rcases Nat.eq_zero_or_pos k with rfl | hpos
  · rw [Nat.toDigits_zero]
    rfl
  · rw [whole?, head?_toDigits_append, if_neg (head?_toDigits_ne hpos),
      leadingDigits_append (isDigit_toDigits k) hrest, if_neg Nat.toDigits_ne_nil]

theorem fraction?_eq_nil (hrest : EndsNumber rest) : fraction? rest = some [] := by
  unfold fraction?
  split
  · exact absurd rfl (hrest '.' rfl).2.1
  · rfl

theorem exponent?_eq_nil (hrest : EndsNumber rest) : exponent? rest = some [] := by
  cases rest with
  | nil => rfl
  | cons e cs =>
    obtain ⟨-, -, hsmall, hlarge⟩ := hrest e rfl
    rw [exponent?, if_neg (not_or.2 ⟨hsmall, hlarge⟩)]

theorem unsigned?_toDigits (k : Nat) (hrest : EndsNumber rest) :
    unsigned? false (Nat.toDigits 10 k ++ rest) = some (Nat.toDigits 10 k) := by
  simp [unsigned?, whole?_toDigits k hrest, fraction?_eq_nil hrest, exponent?_eq_nil hrest]

/-- **A whole number is found** in front of what does not go on with it. -/
theorem number?_integerText (n : Int) (hrest : EndsNumber rest) :
    number? false (integerText n ++ rest) = some (integerText n) := by
  have hunsigned := unsigned?_toDigits n.natAbs hrest
  by_cases hsign : n < 0
  · rw [integerText, if_pos hsign, List.singleton_append, List.cons_append, number?,
      if_pos (.inl rfl), hunsigned, Option.map_some]
  · rw [integerText, if_neg hsign, List.nil_append]
    obtain ⟨d, ds, hds⟩ := exists_toDigits_eq_cons n.natAbs
    have hd : d ≠ '-' := by
      rintro rfl
      exact absurd (isDigit_toDigits n.natAbs '-' (by simp [hds])) (by decide)
    rw [hds] at hunsigned ⊢
    rw [List.cons_append, number?, if_neg (by simp [hd])]
    exact hunsigned

/-! ## The value of a number -/

theorem le_ofDigitChars (m : Nat) (digits : List Char) : m ≤ Nat.ofDigitChars 10 digits m := by
  induction digits generalizing m with
  | nil => exact Nat.le_refl m
  | cons d ds ih =>
    have hle := ih (10 * m + (d.toNat - '0'.toNat))
    rw [Nat.ofDigitChars_cons]
    omega

/-- Digits that write a word all fit. -/
theorem appendDigits_eq {m : Nat} (h : Nat.ofDigitChars 10 digits m < wordLimit) :
    appendDigits m digits = (Nat.ofDigitChars 10 digits m, []) := by
  induction digits generalizing m with
  | nil => rfl
  | cons d ds ih =>
    rw [Nat.ofDigitChars_cons] at h ⊢
    have hle := le_ofDigitChars (10 * m + (d.toNat - '0'.toNat)) ds
    rw [appendDigits, if_pos (Nat.lt_of_le_of_lt hle h), ih h]

theorem hexadecimal?_eq_none (hdigits : ∀ c ∈ digits, c.isDigit = true) :
    hexadecimal? digits = none := by
  unfold hexadecimal?
  split
  · next x cs =>
    have hx : x.isDigit = true := hdigits x (by simp)
    refine if_neg ?_
    rintro (rfl | rfl)
    · exact absurd hx (by decide)
    · exact absurd hx (by decide)
  · rfl

theorem unsignedValue?_toDigits {negative : Bool} {value : Int} (hk : k < wordLimit)
    (hvalue : wholeValue? negative k = some value) :
    unsignedValue? negative (Nat.toDigits 10 k) = some (.integer value) := by
  have hwhole : leadingDigits (Nat.toDigits 10 k) = Nat.toDigits 10 k := by
    have hends : EndsNumber [] := by simp [EndsNumber]
    have happend := leadingDigits_append (isDigit_toDigits k) hends
    rwa [List.append_nil] at happend
  have hdigits : appendDigits 0 (Nat.toDigits 10 k) = (k, []) := by
    rw [appendDigits_eq (by rwa [Nat.ofDigitChars_ten_toDigits]), Nat.ofDigitChars_ten_toDigits]
  simp [unsignedValue?, hwhole, hdigits, hvalue]

end

/-- **A whole number is the value of its text**, if it fits a word with its sign. -/
theorem numberValue_integerText {n : Int} (hlow : -(signedLimit : Int) ≤ n)
    (hhigh : n < wordLimit) : numberValue (integerText n) = .integer n := by
  have hhex := hexadecimal?_eq_none (isDigit_toDigits n.natAbs)
  have hlimits : signedLimit < wordLimit := by decide
  have hword : n.natAbs < wordLimit := by omega
  by_cases hsign : n < 0
  · have hvalue : wholeValue? true n.natAbs = some n := by
      rw [wholeValue?, if_pos rfl, if_pos (by omega)]
      congr 1
      omega
    simp [numberValue, integerText, hsign, hhex, unsignedValue?_toDigits hword hvalue]
  · have hvalue : wholeValue? false n.natAbs = some n := by
      rw [wholeValue?, if_neg Bool.false_ne_true, if_pos hword]
      congr 1
      omega
    have hhead : ∀ c, c.isDigit = false → (Nat.toDigits 10 n.natAbs).head? ≠ some c := by
      intro c hc hhead
      have hdigit := isDigit_toDigits n.natAbs c (List.mem_of_mem_head? hhead)
      rw [hc] at hdigit
      exact absurd hdigit Bool.false_ne_true
    have hminus := hhead '-' (by decide)
    have hplus := hhead '+' (by decide)
    simp [numberValue, integerText, hsign, hminus, hplus, hhex,
      unsignedValue?_toDigits hword hvalue]

end TreeScribe.Json
