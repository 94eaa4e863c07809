import Mathlib.Data.List.Basic
import TreeScribe.Proofs.Doc.Pinned
import TreeScribe.Proofs.Translate.Equation

/-!
# Where tokens stand

A rendering puts the documents of the nodes that it visits under an indent of its own, which may be
zero.  These indents add up on the way down a tree, so that every token stands under their sum.

Main statements: the places of a rendering are those of the nodes that it visits
(`map_snd_places`), and the tokens of a tree are found in these places, deeper by their indents
(`tokens_eq`).
-/

namespace TreeScribe

/-- How far the statement of a branch is indented.  A block indents its statements itself. -/
def branchIndent (n : Node) : Nat := if n.kind = .role .block then 0 else 4

/-- How far the statement of an `else` is indented.  An `if` goes on in the line of the `else`. -/
def elseIndent (n : Node) : Nat := if n.kind = .role .ifStatement then 0 else branchIndent n

/-- The nodes that a rendering translates, in order, each with the indent that the rendering puts
around its document. -/
def Rendering.places (n : Node) : Rendering → List (Nat × Node)
  | .marker => n.children.map (2, ·)
  | .braces | .suite => n.statements?.toList.map (4, ·)
  | .branches =>
    (n.child? "condition").toList.map (0, ·) ++
      (n.child? "consequence").toList.map (fun c => (branchIndent c, c)) ++
      ((n.child? "alternative").toList.flatMap fun a => a.firstNamed?.toList).map
        fun s => (elseIndent s, s)
  | .recipe r => (r.filling.visited n).map (r.layout.indent, ·)
  | r => (r.visited n).map (0, ·)

/-- The nodes that a scheme translates for a node, in order, with the indents around their
documents. -/
def Scheme.places (scheme : Scheme) (n : Node) : List (Nat × Node) :=
  ((scheme.rendering? n).map (·.places n)).getD (n.children.map (0, ·))

theorem Rendering.map_snd_places (n : Node) (r : Rendering) :
    (r.places n).map Prod.snd = r.visited n := by
  cases r <;> simp [places, visited, List.map_flatMap, Function.comp_def]

theorem Scheme.map_snd_places (scheme : Scheme) (n : Node) :
    (scheme.places n).map Prod.snd = scheme.visited n := by
  unfold places visited
  cases scheme.rendering? n with
  | none => simp [Function.comp_def]
  | some r => exact r.map_snd_places n

theorem Scheme.mem_visited_of_mem_places {scheme : Scheme} {n : Node} {p : Nat × Node}
    (h : p ∈ scheme.places n) : p.2 ∈ scheme.visited n := by
  rw [← scheme.map_snd_places n]
  exact List.mem_map_of_mem h

namespace Node

variable (scheme : Scheme)

/-- The tokens among a node and at most `depth` levels of nodes below it, with their indents. -/
def tokensWithin : Nat → Node → List (Nat × Node)
  | 0, _ => []
  | depth + 1, n =>
    if n.kind = .role .token then [(0, n)]
    else Doc.nested (tokensWithin depth) (scheme.places n)

/-- The tokens that are rendered when a tree is translated, each with the sum of the indents around
it. -/
def tokens (n : Node) : List (Nat × Node) := n.tokensWithin scheme n.height

/-- **The tokens of a tree**: a token itself, or those of the nodes that are visited, deeper by the
indents of their places. -/
theorem tokens_eq (n : Node) :
    n.tokens scheme =
      if n.kind = .role .token then [(0, n)]
      else Doc.nested (tokens scheme) (scheme.places n) := by
  have hstep : ∀ (f g : Node → List (Nat × Node)) (n : Node),
      (∀ m ∈ scheme.visited n, f m = g m) →
      (if n.kind = .role .token then [(0, n)] else Doc.nested f (scheme.places n)) =
        if n.kind = .role .token then [(0, n)] else Doc.nested g (scheme.places n) := by
    intro f g n h
    rw [Doc.nested, List.flatMap_congr fun p hp => by
      rw [h p.2 (Scheme.mem_visited_of_mem_places hp)], Doc.nested]
  exact within_height_eq scheme (fun _ _ => rfl) hstep n

end Node

end TreeScribe
