import TreeScribe.Text.Code

/-!
# UTF-16

A code point is written in UTF-16 as one unit of 16 bits, or as two surrogates.  Decoding joins a
high surrogate with a low one right behind it, and replaces every surrogate that is not joined.
Main statement: the units of a code point that is no high surrogate are read as that code point,
whatever units follow (`utf16Decode_utf16Units_append`).
-/

namespace TreeScribe.Text

/-! ## Code points -/

/-- Characters have the numbers below the end of Unicode that are no surrogates. -/
theorem toNat_valid (c : Char) : c.toNat < 0xD800 ∨ 0xDFFF < c.toNat ∧ c.toNat < 0x110000 :=
  c.valid

theorem scalar_toNat (c : Char) : scalar c.toNat = c := by
  have hvalid : c.toNat.isValidChar := toNat_valid c
  rw [scalar, scalar?, dif_pos hvalid]
  rfl

variable {n : Nat}

theorem isHighSurrogate_iff : isHighSurrogate n = true ↔ 0xD800 ≤ n ∧ n < 0xDC00 := by
  simp only [isHighSurrogate, Bool.and_eq_true, decide_eq_true_eq]

theorem isLowSurrogate_iff : isLowSurrogate n = true ↔ 0xDC00 ≤ n ∧ n < 0xE000 := by
  simp only [isLowSurrogate, Bool.and_eq_true, decide_eq_true_eq]

/-- The number of a character is no first half of a pair. -/
theorem isHighSurrogate_toNat (c : Char) : isHighSurrogate c.toNat = false := by
  rw [Bool.eq_false_iff, ne_eq, isHighSurrogate_iff]
  have hvalid := toNat_valid c
  omega

/-- The two halves of a number beyond 16 bits make it up. -/
theorem joinSurrogates_halves (h : 0x10000 ≤ n) (hlt : n < 0x110000) :
    isHighSurrogate (0xD800 + (n - 0x10000) / 0x400) = true ∧
      isLowSurrogate (0xDC00 + (n - 0x10000) % 0x400) = true ∧
      joinSurrogates (0xD800 + (n - 0x10000) / 0x400) (0xDC00 + (n - 0x10000) % 0x400) = n := by
  rw [isHighSurrogate_iff, isLowSurrogate_iff]
  refine ⟨?_, ?_, ?_⟩
  · omega
  · omega
  · unfold joinSurrogates
    omega

/-! ## Units -/

/-- The units that write a code point. -/
def utf16Units (n : Nat) : List Nat :=
  if n < 0x10000 then [n]
  else [0xD800 + (n - 0x10000) / 0x400, 0xDC00 + (n - 0x10000) % 0x400]

/-- The text that units write.  A surrogate that is not part of a pair stands for the replacement
character. -/
def utf16Decode : List Nat → List Char
  | [] => []
  | [unit] => [scalar unit]
  | unit :: next :: units =>
    if isHighSurrogate unit && isLowSurrogate next then
      scalar (joinSurrogates unit next) :: utf16Decode units
    else scalar unit :: utf16Decode (next :: units)

theorem utf16Decode_pair {high low : Nat} (hhigh : isHighSurrogate high = true)
    (hlow : isLowSurrogate low = true) (units : List Nat) :
    utf16Decode (high :: low :: units) = scalar (joinSurrogates high low) :: utf16Decode units := by
  rw [utf16Decode, hhigh, hlow, Bool.and_true, if_pos rfl]

/-- A unit stands alone, unless it is the first half of a pair and the second half follows. -/
theorem utf16Decode_cons {unit : Nat} {units : List Nat}
    (h : isHighSurrogate unit = true → ∀ next ∈ units.head?, isLowSurrogate next = false) :
    utf16Decode (unit :: units) = scalar unit :: utf16Decode units := by
  cases units with
  | nil => rfl
  | cons next units =>
    have hpair : (isHighSurrogate unit && isLowSurrogate next) = false := by
      cases hhigh : isHighSurrogate unit with
      | false => rfl
      | true => rw [h hhigh next rfl, Bool.and_false]
    rw [utf16Decode, hpair]
    rfl

/-- **The units of a code point** that is no high surrogate are read as that code point. -/
theorem utf16Decode_utf16Units_append (hn : isHighSurrogate n = false) (hlt : n < 0x110000)
    (units : List Nat) :
    utf16Decode (utf16Units n ++ units) = scalar n :: utf16Decode units := by
  by_cases hsmall : n < 0x10000
  · rw [utf16Units, if_pos hsmall, List.singleton_append]
    refine utf16Decode_cons fun hhigh => ?_
    rw [hn] at hhigh
    exact absurd hhigh Bool.false_ne_true
  · obtain ⟨hhigh, hlow, hjoin⟩ := joinSurrogates_halves (Nat.le_of_not_lt hsmall) hlt
    rw [utf16Units, if_neg hsmall, List.cons_append, List.singleton_append,
      utf16Decode_pair hhigh hlow, hjoin]

/-- Units that write characters one by one are read as these characters. -/
theorem utf16Decode_map_append (s : List Char) (units : List Nat) :
    utf16Decode (s.map Char.toNat ++ units) = s ++ utf16Decode units := by
  induction s with
  | nil => rfl
  | cons c s ih =>
    rw [List.map_cons, List.cons_append, utf16Decode_cons, scalar_toNat, ih, List.cons_append]
    intro hhigh
    rw [isHighSurrogate_toNat] at hhigh
    exact absurd hhigh Bool.false_ne_true

end TreeScribe.Text
