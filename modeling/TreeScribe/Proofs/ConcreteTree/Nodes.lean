import TreeScribe.ConcreteTree

/-!
# The nodes of a concrete tree

The nodes of a tree are listed parents before children, extra nodes included; `kept` leaves out what
stands in extra nodes.  What holds of every node of a tree holds of every node of its children
(`forall_nodes_children`), and of several trees, of every node of each (`forall_nodes_head`,
`forall_nodes_tail`).
-/

namespace TreeScribe.ConcreteTree

/-- The children that belong to the syntax. -/
def parts (t : ConcreteTree) : List ConcreteTree := t.children.filter (!·.label.extra)

mutual

/-- Every node of a tree, itself included. -/
def nodes : ConcreteTree → List ConcreteTree
  | ⟨l, children⟩ => ⟨l, children⟩ :: nodesAll children

/-- Every node of several trees. -/
def nodesAll : List ConcreteTree → List ConcreteTree
  | [] => []
  | t :: ts => t.nodes ++ nodesAll ts

end

mutual

/-- Every node of a tree, itself included, that does not stand in an extra node below. -/
def kept : ConcreteTree → List ConcreteTree
  | ⟨l, children⟩ => ⟨l, children⟩ :: keptAll children

/-- Every node of several trees that stands in no extra node. -/
def keptAll : List ConcreteTree → List ConcreteTree
  | [] => []
  | t :: ts => if t.label.extra then keptAll ts else t.kept ++ keptAll ts

end

theorem nodesAll_eq_flatMap (ts : List ConcreteTree) : nodesAll ts = ts.flatMap nodes := by
  induction ts with
  | nil => rfl
  | cons t ts ih => rw [nodesAll, ih, List.flatMap_cons]

theorem keptAll_eq_flatMap (ts : List ConcreteTree) :
    keptAll ts = (ts.filter (!·.label.extra)).flatMap kept := by
  induction ts with
  | nil => rfl
  | cons t ts ih =>
    rw [keptAll, ih]
    by_cases h : t.label.extra = true <;> simp [h]

/-- A node of a tree is the tree itself or a node of one of its children. -/
theorem mem_nodes_iff {s t : ConcreteTree} :
    s ∈ t.nodes ↔ s = t ∨ ∃ c ∈ t.children, s ∈ c.nodes := by
  obtain ⟨l, children⟩ := t
  rw [nodes, List.mem_cons, nodesAll_eq_flatMap, List.mem_flatMap]

/-- A kept node of a tree is the tree itself or a kept node of a child that is not extra. -/
theorem mem_kept_iff {s t : ConcreteTree} :
    s ∈ t.kept ↔ s = t ∨ ∃ c ∈ t.parts, s ∈ c.kept := by
  obtain ⟨l, children⟩ := t
  rw [kept, List.mem_cons, keptAll_eq_flatMap, List.mem_flatMap, parts]

theorem mem_parts_iff {c t : ConcreteTree} :
    c ∈ t.parts ↔ c ∈ t.children ∧ c.label.extra = false := by
  rw [parts, List.mem_filter, Bool.not_eq_true']

theorem mem_nodes_self (t : ConcreteTree) : t ∈ t.nodes := mem_nodes_iff.2 (.inl rfl)

theorem mem_kept_self (t : ConcreteTree) : t ∈ t.kept := mem_kept_iff.2 (.inl rfl)

theorem mem_kept_of_mem_part {s c t : ConcreteTree} (hc : c ∈ t.parts) (hs : s ∈ c.kept) :
    s ∈ t.kept := mem_kept_iff.2 (.inr ⟨c, hc, hs⟩)

theorem sizeOf_lt_of_mem_children {c t : ConcreteTree} (h : c ∈ t.children) :
    sizeOf c < sizeOf t := by
  obtain ⟨l, children⟩ := t
  have hlt : sizeOf c < sizeOf children := List.sizeOf_lt_of_mem h
  rw [ConcreteTree.mk.sizeOf_spec]
  omega

/-- Kept nodes of a kept node are kept. -/
theorem mem_kept_trans {r s : ConcreteTree} (t : ConcreteTree) (hr : r ∈ s.kept)
    (hs : s ∈ t.kept) : r ∈ t.kept := by
  rcases mem_kept_iff.1 hs with rfl | ⟨c, hc, hs⟩
  · exact hr
  · have hsize := sizeOf_lt_of_mem_children (mem_parts_iff.1 hc).1
    exact mem_kept_of_mem_part hc (mem_kept_trans c hr hs)
termination_by sizeOf t

/-- Nodes of a kept node, extra ones included, are nodes of the tree. -/
theorem mem_nodes_of_mem_kept {r s : ConcreteTree} (t : ConcreteTree) (hr : r ∈ s.nodes)
    (hs : s ∈ t.kept) : r ∈ t.nodes := by
  rcases mem_kept_iff.1 hs with rfl | ⟨c, hc, hs⟩
  · exact hr
  · have hchild := (mem_parts_iff.1 hc).1
    have hsize := sizeOf_lt_of_mem_children hchild
    exact mem_nodes_iff.2 (.inr ⟨c, hchild, mem_nodes_of_mem_kept c hr hs⟩)
termination_by sizeOf t

theorem forall_nodes_head {p : ConcreteTree → Prop} {t : ConcreteTree} {ts : List ConcreteTree}
    (h : ∀ s ∈ nodesAll (t :: ts), p s) : ∀ s ∈ t.nodes, p s := fun s hs =>
  h s (by rw [nodesAll]; exact List.mem_append_left _ hs)

theorem forall_nodes_tail {p : ConcreteTree → Prop} {t : ConcreteTree} {ts : List ConcreteTree}
    (h : ∀ s ∈ nodesAll (t :: ts), p s) : ∀ s ∈ nodesAll ts, p s := fun s hs =>
  h s (by rw [nodesAll]; exact List.mem_append_right _ hs)

theorem forall_nodes_children {p : ConcreteTree → Prop} {l : Label} {children : List ConcreteTree}
    (h : ∀ s ∈ nodes ⟨l, children⟩, p s) : ∀ s ∈ nodesAll children, p s := fun s hs =>
  h s (by rw [nodes]; exact List.mem_cons_of_mem _ hs)

end TreeScribe.ConcreteTree
