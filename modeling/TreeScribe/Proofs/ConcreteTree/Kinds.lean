import TreeScribe.ConcreteTree.Classify

/-!
# Where a kind comes from

The kind of a concrete node is one that the grammar's name is known for, or that name itself, or
that of a delimiter or a token (`Label.classify_cases`).  So a role tells the grammar's names that it
can come from (`mem_knownKinds_of_classify`).
-/

namespace TreeScribe.ConcreteTree

/-- **The kinds of concrete nodes.** -/
theorem Label.classify_cases (l : Label) (leaf : Bool) :
    (l.named = true ∧ (l.kind, l.classify leaf) ∈ knownKinds) ∨
      (l.named = true ∧ l.classify leaf = .other l.kind) ∨
      l.classify leaf = .punctuation ∨ l.classify leaf = .role .token := by
  unfold classify
  by_cases hnamed : l.named = true
  · rw [if_pos hnamed]
    cases hlookup : knownKinds.lookup l.kind with
    | some kind =>
      obtain ⟨before, after, hknown, -⟩ := List.lookup_eq_some_iff.1 hlookup
      exact .inl ⟨hnamed, by simp [hknown]⟩
    | none =>
      cases leaf with
      | true => exact .inr (.inr (.inr rfl))
      | false => exact .inr (.inl ⟨hnamed, rfl⟩)
  · rw [if_neg hnamed]
    split
    · exact .inr (.inr (.inl rfl))
    · exact .inr (.inr (.inr rfl))

/-- A node with a role, tokens apart, is named, and the role belongs to its kind. -/
theorem mem_knownKinds_of_classify {t : ConcreteTree} {role : Role} (h : t.classify = .role role)
    (hrole : role ≠ .token) :
    t.label.named = true ∧ (t.label.kind, Kind.role role) ∈ knownKinds := by
  rw [classify] at h
  rcases t.label.classify_cases t.children.isEmpty with hknown | ⟨-, hother⟩ | hpunctuation | htoken
  · rwa [h] at hknown
  · rw [h] at hother
    cases hother
  · rw [h] at hpunctuation
    cases hpunctuation
  · rw [h] at htoken
    cases htoken
    exact absurd rfl hrole

/-- No concrete node is classified as a list. -/
theorem classify_ne_syntaxList (l : Label) (leaf : Bool) : l.classify leaf ≠ .role .syntaxList := by
  intro h
  have hnone : ∀ known ∈ knownKinds, known.2 ≠ .role .syntaxList := by decide
  rcases l.classify_cases leaf with ⟨-, hknown⟩ | ⟨-, hother⟩ | hpunctuation | htoken
  · exact hnone _ hknown h
  · rw [h] at hother
    cases hother
  · rw [h] at hpunctuation
    cases hpunctuation
  · rw [h] at htoken
    cases htoken

end TreeScribe.ConcreteTree
