import TreeScribe.Traced

/-!
# Success of traced computations

A computation succeeds if it has a value.  Main statements: two computations in a row have a value
exactly when the first has one and the second has one for it (`outcome_bind_eq_ok_iff`,
`succeeds_bind_iff`), and the second one matters only for the value of the first (`bind_congr_ok`).
-/

namespace TreeScribe.Traced

variable {α β : Type}

/-- The computation has a value. -/
def Succeeds (x : Traced α) : Prop := ∃ a, x.outcome = .ok a

@[simp] theorem outcome_fail (e : TranslateError) : (fail e : Traced α).outcome = .error e := rfl

@[simp] theorem outcome_report (e : Event) : (report e).outcome = .ok () := rfl

@[simp] theorem outcome_ofExcept (x : Except TranslateError α) : (ofExcept x).outcome = x := rfl

theorem outcome_bind_eq_ok_iff {x : Traced α} {f : α → Traced β} {b : β} :
    (x >>= f).outcome = .ok b ↔ ∃ a, x.outcome = .ok a ∧ (f a).outcome = .ok b := by
  cases h : x.outcome with
  | error e => simp [bind_of_error h]
  | ok a => simp [bind_of_ok h]

theorem outcome_bind_of_ok {x : Traced α} {a : α} (h : x.outcome = .ok a) (f : α → Traced β) :
    (x >>= f).outcome = (f a).outcome := by
  rw [bind_of_ok h]

theorem bind_congr_ok {x : Traced α} {f g : α → Traced β}
    (h : ∀ a, x.outcome = .ok a → f a = g a) : x >>= f = x >>= g := by
  cases hx : x.outcome with
  | error e => rw [bind_of_error hx, bind_of_error hx]
  | ok a => rw [bind_of_ok hx, bind_of_ok hx, h a hx]

@[simp] theorem succeeds_pure (a : α) : Succeeds (pure a) := ⟨a, rfl⟩

@[simp] theorem not_succeeds_fail (e : TranslateError) : ¬ Succeeds (fail e : Traced α) := by
  rintro ⟨a, h⟩
  cases h

@[simp] theorem succeeds_report (e : Event) : Succeeds (report e) := ⟨(), rfl⟩

theorem succeeds_bind_iff {x : Traced α} {f : α → Traced β} :
    (x >>= f).Succeeds ↔ ∃ a, x.outcome = .ok a ∧ (f a).Succeeds := by
  constructor
  · rintro ⟨b, h⟩
    obtain ⟨a, ha, hb⟩ := outcome_bind_eq_ok_iff.1 h
    exact ⟨a, ha, b, hb⟩
  · rintro ⟨a, ha, b, hb⟩
    exact ⟨b, outcome_bind_eq_ok_iff.2 ⟨a, ha, hb⟩⟩

/-- A second computation whose success does not hang on the value of the first. -/
theorem succeeds_bind_const_iff {x : Traced α} {f : α → Traced β} {p : Prop}
    (h : ∀ a, (f a).Succeeds ↔ p) : (x >>= f).Succeeds ↔ x.Succeeds ∧ p := by
  rw [succeeds_bind_iff]
  constructor
  · rintro ⟨a, ha, hf⟩
    exact ⟨⟨a, ha⟩, (h a).1 hf⟩
  · rintro ⟨⟨a, ha⟩, hp⟩
    exact ⟨a, ha, (h a).2 hp⟩

end TreeScribe.Traced
