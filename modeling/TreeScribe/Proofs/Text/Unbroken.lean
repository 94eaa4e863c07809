import TreeScribe.Json.Quote
import TreeScribe.Proofs.Text.Lowercase
import TreeScribe.Text.SnakeCase

/-!
# Texts without line breaks

A text is unbroken if it holds no line break.  Main statements: snake case breaks no line
(`unbroken_snakeCase`); a quoted text holds no character below the space whatever it quotes
(`le_toNat_of_mem_quote`), so it is unbroken (`unbroken_quote`).
-/

namespace TreeScribe

/-- A text without a line break. -/
def Unbroken (s : List Char) : Prop := '\n' ∉ s

instance (s : List Char) : Decidable (Unbroken s) := inferInstanceAs (Decidable (¬ _))

@[simp] theorem unbroken_nil : Unbroken [] := List.not_mem_nil

@[simp] theorem unbroken_cons {c : Char} {s : List Char} :
    Unbroken (c :: s) ↔ c ≠ '\n' ∧ Unbroken s := by
  simp [Unbroken, eq_comm]

@[simp] theorem unbroken_append {s t : List Char} :
    Unbroken (s ++ t) ↔ Unbroken s ∧ Unbroken t := by
  simp [Unbroken]

/-! ## Snake case -/

/-- Lower-casing breaks no line. -/
theorem unbroken_toLowercase {c : Char} (h : c ≠ '\n') : Unbroken (Text.toLowercase c) :=
  fun hbreak => h (Text.eq_of_mem_toLowercase (by decide) hbreak).symm

theorem SnakeCase.unbroken_after (previous? : Option Char) {s : List Char} (h : Unbroken s) :
    Unbroken (SnakeCase.after previous? s) := by
  induction s generalizing previous? with
  | nil => exact h
  | cons c rest ih =>
    obtain ⟨hc, hrest⟩ := unbroken_cons.1 h
    rw [SnakeCase.after, unbroken_append, unbroken_append]
    refine ⟨⟨?_, unbroken_toLowercase hc⟩, ih (some c) hrest⟩
    split <;> decide

/-- Snake case breaks no line. -/
theorem unbroken_snakeCase {s : List Char} (h : Unbroken s) : Unbroken (snakeCase s) :=
  SnakeCase.unbroken_after none h

/-! ## Quoted texts -/

/-- A character is written without the characters below the space. -/
theorem Json.le_toNat_of_mem_escaped {c d : Char} (h : d ∈ Json.escaped c) : 0x20 ≤ d.toNat := by
  rcases Json.escaped_cases c with ⟨letter, hletter, hc⟩ | ⟨hcontrol, hc⟩ | ⟨-, -, hspace, hc⟩
  · have hletters : ∀ p ∈ Json.letterFor, 0x20 ≤ p.2.toNat := by decide
    rw [hc, List.mem_cons, List.mem_singleton] at h
    rcases h with rfl | rfl
    · decide
    · exact hletters _ hletter
  · have hdigits : ∀ n < 16, 0x20 ≤ (Nat.digitChar n).toNat := by decide
    have hhigh := hdigits (c.toNat / 16) (by omega)
    have hlow := hdigits (c.toNat % 16) (by omega)
    rw [hc] at h
    simp only [List.mem_cons, List.not_mem_nil, or_false] at h
    rcases h with rfl | rfl | rfl | rfl | rfl | rfl
    · decide
    · decide
    · decide
    · decide
    · exact hhigh
    · exact hlow
  · rw [hc, List.mem_singleton] at h
    rwa [h]

/-- A quoted text is written without the characters below the space, whatever it quotes. -/
theorem Json.le_toNat_of_mem_quote {c : Char} {s : List Char} (h : c ∈ Json.quote s) :
    0x20 ≤ c.toNat := by
  rw [Json.quote, List.cons_append, List.mem_cons, List.mem_append, List.mem_singleton,
    List.mem_flatMap] at h
  rcases h with rfl | ⟨d, -, h⟩ | rfl
  · decide
  · exact Json.le_toNat_of_mem_escaped h
  · decide

/-- A quoted text is unbroken, whatever it quotes. -/
theorem Json.unbroken_quote (s : List Char) : Unbroken (Json.quote s) := by
  intro hbreak
  exact absurd (Json.le_toNat_of_mem_quote hbreak) (by decide)

end TreeScribe
