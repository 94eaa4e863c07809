import Mathlib.Data.List.Chain
import TreeScribe.Span

/-!
# Nested spans

The spans of a node's children are nested in that of the node if they lie within it and none of them
overlaps the next.  Together with spans that run forward this is one invariant, `Between`: it leaves
gaps, so that it survives when spans are left out (`Between.sublist`) or give way to spans within
them (`Between.flatMap`), and it splits where the list of spans does (`between_append`).
-/

namespace TreeScribe.Span

/-- The outer span runs forward, the inner ones lie within it, and none of them overlaps the
next. -/
structure Nests (outer : Span) (inner : List Span) : Prop where
  forward : outer.start ≤ outer.stop
  within : ∀ s ∈ inner, outer.start ≤ s.start ∧ s.stop ≤ outer.stop
  ordered : inner.IsChain fun s t => s.stop ≤ t.start

theorem nests_iff {outer : Span} {inner : List Span} :
    outer.Nests inner ↔ outer.start ≤ outer.stop ∧
      (∀ s ∈ inner, outer.start ≤ s.start ∧ s.stop ≤ outer.stop) ∧
      inner.IsChain fun s t => s.stop ≤ t.start :=
  ⟨fun h => ⟨h.forward, h.within, h.ordered⟩, fun ⟨hforward, hwithin, hordered⟩ =>
    ⟨hforward, hwithin, hordered⟩⟩

instance (outer : Span) (inner : List Span) : Decidable (outer.Nests inner) :=
  decidable_of_iff _ nests_iff.symm

/-- Spans that run forward, one behind the other, from `a` on and not past `b`. -/
def Between (a b : Nat) : List Span → Prop
  | [] => a ≤ b
  | s :: ss => a ≤ s.start ∧ s.start ≤ s.stop ∧ Between s.stop b ss

namespace Between

variable {a b c : Nat} {s first last : Span} {ss ts : List Span}

theorem mono_left (h : Between b c ss) (hab : a ≤ b) : Between a c ss := by
  cases ss with
  | nil => exact Nat.le_trans hab h
  | cons s ss => exact ⟨Nat.le_trans hab h.1, h.2⟩

theorem le (h : Between a b ss) : a ≤ b := by
  induction ss generalizing a with
  | nil => exact h
  | cons s ss ih =>
    obtain ⟨hstart, hforward, hrest⟩ := h
    have hstop := ih hrest
    omega

theorem bounds (h : Between a b ss) (hs : s ∈ ss) :
    a ≤ s.start ∧ s.start ≤ s.stop ∧ s.stop ≤ b := by
  induction ss generalizing a with
  | nil => exact absurd hs List.not_mem_nil
  | cons t ss ih =>
    obtain ⟨hstart, hforward, hrest⟩ := h
    rcases List.mem_cons.1 hs with rfl | hs
    · exact ⟨hstart, hforward, hrest.le⟩
    · have hbounds := ih hrest hs
      omega

/-- Any span can be left out. -/
theorem sublist (h : Between a b ss) (hsub : ts.Sublist ss) : Between a b ts := by
  induction hsub generalizing a with
  | slnil => exact h
  | cons s _ ih =>
    obtain ⟨hstart, hforward, hrest⟩ := h
    exact ih (hrest.mono_left (by omega))
  | cons_cons s _ ih =>
    obtain ⟨hstart, hforward, hrest⟩ := h
    exact ⟨hstart, hforward, ih hrest⟩

/-- The range shrinks to the ends of the first and of the last span. -/
theorem shrink (h : Between a b ss) (hfirst : ss.head? = some first)
    (hlast : ss.getLast? = some last) : Between first.start last.stop ss := by
  induction ss generalizing a first with
  | nil => exact absurd hfirst.symm (Option.some_ne_none _)
  | cons s ss ih =>
    obtain ⟨hstart, hforward, hrest⟩ := h
    obtain rfl := Option.some.inj hfirst
    cases ss with
    | nil =>
      obtain rfl := Option.some.inj hlast
      exact ⟨Nat.le_refl _, hforward, Nat.le_refl _⟩
    | cons t ss =>
      rw [List.getLast?_cons_cons] at hlast
      exact ⟨Nat.le_refl _, hforward, (ih hrest rfl hlast).mono_left hrest.1⟩

theorem isChain (h : Between a b ss) : ss.IsChain fun s t => s.stop ≤ t.start := by
  induction ss generalizing a with
  | nil => exact .nil
  | cons s ss ih =>
    obtain ⟨-, -, hrest⟩ := h
    refine List.isChain_cons.2 ⟨?_, ih hrest⟩
    intro t ht
    exact (hrest.bounds (List.mem_of_mem_head? ht)).1

end Between

/-- Spans in order lie between two offsets if the first starts behind one and all stop before the
other. -/
theorem between_of_isChain {a b : Nat} {ss : List Span}
    (hordered : ss.IsChain fun s t => s.stop ≤ t.start) (hab : a ≤ b)
    (hfirst : ∀ s ∈ ss.head?, a ≤ s.start) (hss : ∀ s ∈ ss, s.start ≤ s.stop ∧ s.stop ≤ b) :
    Between a b ss := by
  induction ss generalizing a with
  | nil => exact hab
  | cons s ss ih =>
    obtain ⟨hnext, hordered⟩ := List.isChain_cons.1 hordered
    obtain ⟨⟨hforward, hstop⟩, hss⟩ := List.forall_mem_cons.1 hss
    exact ⟨hfirst s rfl, hforward, ih hordered hstop hnext hss⟩

/-- Where a list of spans splits, so does the range. -/
theorem between_append {a b : Nat} {ss ts : List Span} :
    Between a b (ss ++ ts) ↔ ∃ k, Between a k ss ∧ Between k b ts := by
  induction ss generalizing a with
  | nil =>
    constructor
    · intro h
      exact ⟨a, Nat.le_refl a, h⟩
    · rintro ⟨k, hak, h⟩
      exact h.mono_left hak
  | cons s ss ih => simp only [List.cons_append, Between, ih, exists_and_left, and_assoc]

/-- Each span may give way to spans within it. -/
theorem Between.flatMap {α : Type} {span : α → Span} {parts : α → List Span} {a b : Nat}
    {xs : List α} (h : Between a b (xs.map span))
    (hparts : ∀ x ∈ xs, Between (span x).start (span x).stop (parts x)) :
    Between a b (xs.flatMap parts) := by
  induction xs generalizing a with
  | nil => exact h
  | cons x xs ih =>
    obtain ⟨hstart, hforward, hrest⟩ := h
    rw [List.flatMap_cons, between_append]
    exact ⟨(span x).stop, (hparts x (List.mem_cons_self ..)).mono_left hstart,
      ih hrest fun y hy => hparts y (List.mem_cons_of_mem _ hy)⟩

/-- **The invariant is nesting**, of spans that run forward. -/
theorem between_iff {outer : Span} {inner : List Span} :
    Between outer.start outer.stop inner ↔
      outer.Nests inner ∧ ∀ s ∈ inner, s.start ≤ s.stop := by
  constructor
  · intro h
    refine ⟨⟨h.le, ?_, h.isChain⟩, fun s hs => (h.bounds hs).2.1⟩
    intro s hs
    obtain ⟨hstart, -, hstop⟩ := h.bounds hs
    exact ⟨hstart, hstop⟩
  · rintro ⟨h, hinner⟩
    refine between_of_isChain h.ordered h.forward ?_ fun s hs => ⟨hinner s hs, (h.within s hs).2⟩
    intro s hs
    exact (h.within s (List.mem_of_mem_head? hs)).1

end TreeScribe.Span
