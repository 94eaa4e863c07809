import Mathlib.Data.List.Basic
import TreeScribe.Proofs.Translate.Equation

/-!
# Marked nodes

A scheme marks the nodes that it has no other rendering for.  Every mark reports an event.  Main
statement: the marked nodes of a tree are the node itself, if it is marked, and then those of the
nodes that its rendering visits, in order (`marked_eq`).
-/

namespace TreeScribe

open Traced

/-- The event that marking a node reports. -/
def Node.markEvent (n : Node) : Event := .unknownSyntax n.kind n.span

/-- The node alone, if the scheme marks it. -/
def Scheme.marks (scheme : Scheme) (n : Node) : List Node :=
  if scheme.rendering? n = some .marker then [n] else []

/-! ## Marked nodes of a tree -/

namespace Node

variable (scheme : Scheme)

/-- The marked nodes among a node and at most `depth` levels of nodes below it. -/
def markedWithin : Nat → Node → List Node
  | 0, _ => []
  | depth + 1, n => scheme.marks n ++ (scheme.visited n).flatMap (markedWithin depth)

/-- The nodes that are marked when a tree is translated, in the order of their marks. -/
def marked (n : Node) : List Node := n.markedWithin scheme n.height

/-- **The marked nodes of a tree**: the node itself, if it is marked, before those of the nodes that
are visited for it. -/
theorem marked_eq (n : Node) :
    n.marked scheme = scheme.marks n ++ (scheme.visited n).flatMap (marked scheme) := by
  have hstep : ∀ (f g : Node → List Node) (n : Node), (∀ m ∈ scheme.visited n, f m = g m) →
      scheme.marks n ++ (scheme.visited n).flatMap f =
        scheme.marks n ++ (scheme.visited n).flatMap g := by
    intro f g n h
    rw [List.flatMap_congr h]
  exact within_height_eq scheme (fun _ _ => rfl) hstep n

end Node

/-! ## Computations that mark nodes -/

namespace Traced

variable {α β : Type} {P : List Node → α → Prop}

/-- The computation reports the marks of some nodes and nothing else.  If it has a value, these nodes
and the value satisfy `Q`. -/
def Marks (x : Traced α) (Q : List Node → α → Prop) : Prop :=
  ∃ ns : List Node, x.events = ns.map Node.markEvent ∧ ∀ a, x.outcome = .ok a → Q ns a

theorem marks_pure {a : α} (h : P [] a) : (pure a : Traced α).Marks P := by
  refine ⟨[], rfl, ?_⟩
  intro b hb
  cases hb
  exact h

theorem marks_fail (e : TranslateError) : (fail e : Traced α).Marks P := by
  refine ⟨[], rfl, ?_⟩
  intro b hb
  cases hb

theorem marks_report (n : Node) : (report n.markEvent).Marks fun ns _ => ns = [n] :=
  ⟨[n], rfl, fun _ _ => rfl⟩

/-- **Two computations in a row**: the nodes of the second one come behind those of the first. -/
theorem Marks.bind {x : Traced α} {f : α → Traced β} {Q : List Node → β → Prop} (hx : x.Marks P)
    (hf : ∀ ns a, P ns a → (f a).Marks fun ms b => Q (ns ++ ms) b) : (x >>= f).Marks Q := by
  obtain ⟨ns, hevents, hP⟩ := hx
  cases h : x.outcome with
  | error e =>
    rw [bind_of_error h]
    refine ⟨ns, hevents, ?_⟩
    intro b hb
    cases hb
  | ok a =>
    obtain ⟨ms, hmore, hQ⟩ := hf ns a (hP a h)
    rw [bind_of_ok h]
    refine ⟨ns ++ ms, ?_, hQ⟩
    rw [hevents, hmore, List.map_append]

/-- A child that is asked for reports nothing. -/
theorem marks_demand_bind {n : Node} {field : String} {found? : Option Node}
    {f : Node → Traced α} (h : ∀ c, found? = some c → (f c).Marks P) :
    (n.demand field found? >>= f).Marks P := by
  cases hfound : found? with
  | none => exact marks_fail _
  | some c =>
    have hbind : n.demand field (some c) >>= f = f c := bind_of_ok rfl f
    rw [hbind]
    exact h c hfound

theorem marks_require_bind {n : Node} {field : String} {f : Node → Traced α}
    (h : ∀ c, n.child? field = some c → (f c).Marks P) : (n.require field >>= f).Marks P :=
  marks_demand_bind h

end Traced

end TreeScribe
