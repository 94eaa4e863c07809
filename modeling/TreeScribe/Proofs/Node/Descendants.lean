import TreeScribe.Node

/-!
# The nodes of a syntax tree

The nodes of a syntax tree are listed parents before children.  The descendants of a node are all of
them but the node itself.  They are lower than it (`height_lt_of_mem_descendants`), and what a
lookup finds is among them.
-/

namespace TreeScribe.Node

mutual

/-- Every node of a tree, itself included. -/
def nodes : Node → List Node
  | ⟨kind, span, field?, named, children⟩ =>
    ⟨kind, span, field?, named, children⟩ :: nodesAll children

/-- Every node of several trees. -/
def nodesAll : List Node → List Node
  | [] => []
  | n :: ns => n.nodes ++ nodesAll ns

end

/-- Every node of a tree but itself. -/
def descendants (n : Node) : List Node := nodesAll n.children

theorem nodes_eq_cons (n : Node) : n.nodes = n :: n.descendants := by
  obtain ⟨kind, span, field?, named, children⟩ := n
  rw [nodes, descendants]

theorem nodesAll_eq_flatMap (ns : List Node) : nodesAll ns = ns.flatMap nodes := by
  induction ns with
  | nil => rfl
  | cons n ns ih => rw [nodesAll, ih, List.flatMap_cons]

theorem mem_nodesAll_iff {m : Node} {ns : List Node} : m ∈ nodesAll ns ↔ ∃ n ∈ ns, m ∈ n.nodes := by
  rw [nodesAll_eq_flatMap, List.mem_flatMap]

theorem mem_nodes_iff {m n : Node} : m ∈ n.nodes ↔ m = n ∨ m ∈ n.descendants := by
  rw [nodes_eq_cons, List.mem_cons]

theorem mem_descendants_iff {m n : Node} : m ∈ n.descendants ↔ ∃ c ∈ n.children, m ∈ c.nodes :=
  mem_nodesAll_iff

theorem mem_nodes_self (n : Node) : n ∈ n.nodes := mem_nodes_iff.2 (.inl rfl)

theorem mem_descendants_of_mem_children {c n : Node} (h : c ∈ n.children) : c ∈ n.descendants :=
  mem_descendants_iff.2 ⟨c, h, mem_nodes_self c⟩

/-- Descendants of a child are descendants of the node. -/
theorem mem_descendants_of_mem_child {m c n : Node} (hc : c ∈ n.children) (hm : m ∈ c.descendants) :
    m ∈ n.descendants :=
  mem_descendants_iff.2 ⟨c, hc, mem_nodes_iff.2 (.inr hm)⟩

mutual

/-- Nodes of a node of a tree are nodes of the tree. -/
theorem mem_nodes_trans {k m : Node} (n : Node) (hk : k ∈ m.nodes) (hm : m ∈ n.nodes) :
    k ∈ n.nodes := by
  obtain ⟨kind, span, field?, named, children⟩ := n
  rw [nodes] at hm ⊢
  rcases List.mem_cons.1 hm with rfl | hm
  · rwa [nodes] at hk
  · exact List.mem_cons_of_mem _ (mem_nodesAll_trans children hk hm)

theorem mem_nodesAll_trans {k m : Node} (ns : List Node) (hk : k ∈ m.nodes)
    (hm : m ∈ nodesAll ns) : k ∈ nodesAll ns := by
  match ns with
  | [] => exact absurd hm List.not_mem_nil
  | n :: ns =>
    rw [nodesAll] at hm ⊢
    rcases List.mem_append.1 hm with hm | hm
    · exact List.mem_append_left _ (mem_nodes_trans n hk hm)
    · exact List.mem_append_right _ (mem_nodesAll_trans ns hk hm)

end

/-! ## Heights -/

theorem height_eq (n : Node) : n.height = heightAll n.children + 1 := by
  obtain ⟨kind, span, field?, named, children⟩ := n
  rw [height]

mutual

theorem height_le_of_mem_nodes (n : Node) {m : Node} (h : m ∈ n.nodes) : m.height ≤ n.height := by
  obtain ⟨kind, span, field?, named, children⟩ := n
  rw [nodes] at h
  rcases List.mem_cons.1 h with rfl | h
  · exact Nat.le_refl _
  · have hle := height_le_of_mem_nodesAll children h
    rw [height]
    omega

theorem height_le_of_mem_nodesAll (ns : List Node) {m : Node} (h : m ∈ nodesAll ns) :
    m.height ≤ heightAll ns := by
  match ns with
  | [] => exact absurd h List.not_mem_nil
  | n :: ns =>
    rw [nodesAll] at h
    rw [heightAll]
    rcases List.mem_append.1 h with h | h
    · exact Nat.le_trans (height_le_of_mem_nodes n h) (Nat.le_max_left ..)
    · exact Nat.le_trans (height_le_of_mem_nodesAll ns h) (Nat.le_max_right ..)

end

/-- Descendants are lower than their node. -/
theorem height_lt_of_mem_descendants {m n : Node} (h : m ∈ n.descendants) : m.height < n.height := by
  have hle := height_le_of_mem_nodesAll n.children h
  rw [height_eq n]
  omega

/-! ## Lookups find children -/

theorem mem_children_of_child? {c n : Node} {field : String} (h : n.child? field = some c) :
    c ∈ n.children := List.mem_of_find?_eq_some h

theorem field?_of_child? {c n : Node} {field : String} (h : n.child? field = some c) :
    c.field? = some field := by
  simpa using List.find?_some h

theorem mem_children_of_firstNamed? {c n : Node} (h : n.firstNamed? = some c) : c ∈ n.children :=
  List.mem_of_find?_eq_some h

theorem mem_children_of_mem_namedChildren {c n : Node} (h : c ∈ n.namedChildren) :
    c ∈ n.children := (List.mem_filter.1 h).1

theorem mem_children_of_childOfKind? {c n : Node} {kind : Kind} (h : n.childOfKind? kind = some c) :
    c ∈ n.children := List.mem_of_find?_eq_some h

theorem child?_isSome_iff {n : Node} {field : String} :
    (n.child? field).isSome = true ↔ ∃ c ∈ n.children, c.field? = some field := by
  simp [child?]

theorem firstNamed?_isSome_iff {n : Node} :
    n.firstNamed?.isSome = true ↔ ∃ c ∈ n.children, c.named = true := by
  simp [firstNamed?]

end TreeScribe.Node
