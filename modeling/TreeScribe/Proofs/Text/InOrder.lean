import Mathlib.Data.List.Basic

/-!
# Texts inside a text

Several texts stand in a text in order if one comes behind the other and none of them overlaps the
next.  Main statement: they then have positions that say so (`InOrder.exists_positions`).
-/

namespace TreeScribe

/-- The texts stand in `s` one behind the other. -/
def InOrder : List (List Char) → List Char → Prop
  | [], _ => True
  | t :: ts, s => ∃ before rest, s = before ++ (t ++ rest) ∧ InOrder ts rest

namespace InOrder

variable {t s : List Char} {ts us : List (List Char)}

/-- More text in front. -/
theorem append_left (before : List Char) (h : InOrder ts s) : InOrder ts (before ++ s) := by
  cases ts with
  | nil => trivial
  | cons t ts =>
    obtain ⟨front, rest, rfl, hrest⟩ := h
    exact ⟨before ++ front, rest, (List.append_assoc ..).symm, hrest⟩

/-- Texts that stand in two texts stand in order where these are one behind the other. -/
theorem append : ∀ {ts : List (List Char)} {s : List Char}, InOrder ts s → InOrder us t →
    InOrder (ts ++ us) (s ++ t) := by
  intro ts
  induction ts with
  | nil =>
    intro s _ hus
    exact hus.append_left s
  | cons u ts ih =>
    intro s h hus
    obtain ⟨before, rest, rfl, hrest⟩ := h
    exact ⟨before, rest ++ t, by simp, ih hrest hus⟩

/-- More text behind. -/
theorem append_right (behind : List Char) (h : InOrder ts s) : InOrder ts (s ++ behind) := by
  have hnone : InOrder [] behind := trivial
  simpa using h.append hnone

/-- A text in front of others. -/
theorem cons_append (t : List Char) (h : InOrder ts s) : InOrder (t :: ts) (t ++ s) :=
  ⟨[], s, rfl, h⟩

/-- **Texts in order have positions**: each text stands at its own, and each position comes behind
the end of every text before it. -/
theorem exists_positions :
    ∀ {ts : List (List Char)} {s : List Char}, InOrder ts s →
      ∃ places : List (Nat × List Char), places.map Prod.snd = ts ∧
        (∀ p ∈ places, p.2 <+: s.drop p.1) ∧
        places.Pairwise fun p q => p.1 + p.2.length ≤ q.1 := by
  intro ts
  induction ts with
  | nil =>
    intro s _
    exact ⟨[], rfl, nofun, .nil⟩
  | cons t ts ih =>
    intro s h
    obtain ⟨before, rest, rfl, hrest⟩ := h
    obtain ⟨places, htexts, hplaces, hordered⟩ := ih hrest
    -- what stands behind `t` is found in the rest, so its places move by all that is in front
    have hfront : ∀ k, (before ++ (t ++ rest)).drop (before.length + t.length + k) = rest.drop k := by
      intro k
      rw [← List.append_assoc, ← List.length_append, List.drop_length_add_append]
    refine ⟨(before.length, t) ::
      places.map fun p => (before.length + t.length + p.1, p.2), ?_, ?_, ?_⟩
    · simp [← htexts]
    · intro p hp
      rcases List.mem_cons.1 hp with rfl | hp
      · simp
      · obtain ⟨q, hq, rfl⟩ := List.mem_map.1 hp
        rw [hfront]
        exact hplaces q hq
    · refine List.Pairwise.cons ?_ ?_
      · intro q hq
        obtain ⟨p, -, rfl⟩ := List.mem_map.1 hq
        exact Nat.le_add_right _ _
      · refine hordered.map _ fun p q hpq => ?_
        show before.length + t.length + p.1 + p.2.length ≤ before.length + t.length + q.1
        omega

end InOrder

end TreeScribe
