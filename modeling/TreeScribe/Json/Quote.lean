/-!
# Quoted JSON text

A string is written between double quotes.  The quote, the backslash and the characters below the
space are escaped, five of them by a letter; everything else stands for itself (`escaped_cases`).
-/

namespace TreeScribe.Json

/-- The characters escaped by a letter, and that letter. -/
def letterFor : List (Char × Char) :=
  [('"', '"'), ('\\', '\\'), ('\x08', 'b'), ('\x0C', 'f'), ('\n', 'n'), ('\r', 'r'), ('\t', 't')]

/-- A character as it is written inside a string. -/
def escaped (c : Char) : List Char :=
  match letterFor.lookup c with
  | some letter => ['\\', letter]
  | none =>
    if c.toNat < 0x20 then
      ['\\', 'u', '0', '0', Nat.digitChar (c.toNat / 16), Nat.digitChar (c.toNat % 16)]
    else [c]

/-- A text written as a JSON string. -/
def quote (text : List Char) : List Char := '"' :: text.flatMap escaped ++ ['"']

/-- A character is escaped by a letter or by its code, or it stands for itself; then it is neither
the quote nor the backslash nor below the space. -/
theorem escaped_cases (c : Char) :
    (∃ letter, (c, letter) ∈ letterFor ∧ escaped c = ['\\', letter]) ∨
    (c.toNat < 0x20 ∧ escaped c =
      '\\' :: 'u' :: ['0', '0', Nat.digitChar (c.toNat / 16), Nat.digitChar (c.toNat % 16)]) ∨
    (c ≠ '"' ∧ c ≠ '\\' ∧ 0x20 ≤ c.toNat ∧ escaped c = [c]) := by
  unfold escaped
  cases hletter : letterFor.lookup c with
  | some letter =>
    obtain ⟨before, after, hknown, -⟩ := List.lookup_eq_some_iff.1 hletter
    exact .inl ⟨letter, by simp [hknown], rfl⟩
  | none =>
    dsimp only
    by_cases hcontrol : c.toNat < 0x20
    · rw [if_pos hcontrol]
      exact .inr (.inl ⟨hcontrol, rfl⟩)
    · rw [if_neg hcontrol]
      refine .inr (.inr ⟨?_, ?_, Nat.not_lt.1 hcontrol, rfl⟩)
      · rintro rfl
        exact absurd hletter (by decide)
      · rintro rfl
        exact absurd hletter (by decide)

end TreeScribe.Json
