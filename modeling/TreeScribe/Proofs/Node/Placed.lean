import TreeScribe.Proofs.Node.Descendants

/-!
# Nodes and what stands above them

Each node of a tree is listed with the nodes above it, parents before children.  An outline shows
all nodes but source files and punctuation, and the depth of a node in it is the number of shown
nodes above.

Main statement: the list goes through the nodes of the tree in order, once each
(`map_node_placedBelow`), and so does the list of the shown nodes (`map_node_shown`).
-/

namespace TreeScribe

/-- A node of a tree, and the nodes above it, the nearest one first. -/
structure Placed where
  node : Node
  above : List Node

namespace Node

/-- Whether a node belongs to the syntax itself: it is neither a source file nor punctuation. -/
def isShown (n : Node) : Bool := decide (n.kind ≠ .sourceFile ∧ n.kind ≠ .punctuation)

mutual

/-- The nodes of a tree that stands below the nodes `above`. -/
def placedBelow (above : List Node) : Node → List Placed
  | ⟨kind, span, field?, named, children⟩ =>
    let n : Node := ⟨kind, span, field?, named, children⟩
    ⟨n, above⟩ :: placedAllBelow (n :: above) children

/-- The nodes of several trees that stand below the nodes `above`. -/
def placedAllBelow (above : List Node) : List Node → List Placed
  | [] => []
  | n :: ns => n.placedBelow above ++ placedAllBelow above ns

end

/-- The shown nodes of a tree, parents before children. -/
def shown (n : Node) : List Placed := (n.placedBelow []).filter (·.node.isShown)

mutual

theorem map_node_placedBelow (above : List Node) (n : Node) :
    (n.placedBelow above).map Placed.node = n.nodes := by
  obtain ⟨kind, span, field?, named, children⟩ := n
  rw [placedBelow, nodes, List.map_cons, map_node_placedAllBelow _ children]

theorem map_node_placedAllBelow (above : List Node) (ns : List Node) :
    (placedAllBelow above ns).map Placed.node = nodesAll ns := by
  match ns with
  | [] => rfl
  | n :: ns =>
    rw [placedAllBelow, nodesAll, List.map_append, map_node_placedBelow above n,
      map_node_placedAllBelow above ns]

end

/-- The shown nodes are listed as they stand in the tree. -/
theorem map_node_shown (n : Node) : n.shown.map Placed.node = n.nodes.filter isShown := by
  rw [← map_node_placedBelow [] n, List.filter_map]
  rfl

end Node

namespace Placed

/-- The number of shown nodes above a node. -/
def depth (p : Placed) : Nat := p.above.countP Node.isShown

end Placed

end TreeScribe
