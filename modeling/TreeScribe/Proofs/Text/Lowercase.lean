import TreeScribe.Text.Lowercase

/-!
# What lower-casing leads to

The lower-case forms that differ from their characters are letters.  Main statement: a character
below the small letters, such as a line break or an underscore, comes out of lower-casing only as
itself (`eq_of_mem_toLowercase`).
-/

namespace TreeScribe.Text

/-- A valid code is the code of its character. -/
theorem toNat_ofNat {n : Nat} (h : n.isValidChar) : (Char.ofNat n).toNat = n := by
  rw [Char.ofNat, dif_pos h]
  exact UInt32.toNat_ofNatLT ..

/-- Every shift leads from its range to characters, none of them below the small letters. -/
theorem le_lowercaseShifts : ∀ p ∈ lowercaseShifts, 0x61 ≤ (p.1.first : Int) + p.2 ∧
    ((p.1.last : Int) + p.2 < 0xD800 ∨
      0xDFFF < (p.1.first : Int) + p.2 ∧ (p.1.last : Int) + p.2 < 0x110000) := by
  decide +kernel

/-- A shifted character is a character, and not below the small letters. -/
theorem le_toNat_of_shift {c : Char} {range : CodeRange} {shift : Int}
    (h : lowercaseShifts.find? (·.1.contains c.toNat) = some (range, shift)) :
    0x61 ≤ (Char.ofNat ((c.toNat : Int) + shift).toNat).toNat := by
  obtain ⟨hle, hvalid⟩ := le_lowercaseShifts _ (List.mem_of_find?_eq_some h)
  dsimp only at hle hvalid
  have hcontains := List.find?_some h
  simp only [CodeRange.contains, Bool.and_eq_true, decide_eq_true_eq] at hcontains
  obtain ⟨⟨hfirst, hlast⟩, -⟩ := hcontains
  have hchar : ((c.toNat : Int) + shift).toNat.isValidChar := by
    simp only [Nat.isValidChar]
    omega
  rw [toNat_ofNat hchar]
  omega

/-- **Below the small letters**, a character is the lower-case form of nothing but itself. -/
theorem eq_of_mem_toLowercase {c d : Char} (hd : d.toNat < 0x61) (h : d ∈ toLowercase c) :
    d = c := by
  unfold toLowercase at h
  split at h
  · split at h
    · next hupper =>
      -- a capital letter of ASCII goes to its small letter
      have hlow : 65 ≤ c.toNat := hupper.1
      have hhigh : c.toNat ≤ 90 := hupper.2
      have hchar : (c.toNat + 32).isValidChar := by
        simp only [Nat.isValidChar]
        omega
      rw [List.mem_singleton.1 h, toNat_ofNat hchar] at hd
      omega
    · exact List.mem_singleton.1 h
  · split at h
    · have hdotted : d = 'i' ∨ d = '\u0307' := by simpa using h
      rcases hdotted with rfl | rfl
      · exact absurd hd (by decide)
      · exact absurd hd (by decide)
    · split at h
      · next range shift hfind =>
        have hle := le_toNat_of_shift hfind
        rw [List.mem_singleton.1 h] at hd
        omega
      · exact List.mem_singleton.1 h

end TreeScribe.Text
