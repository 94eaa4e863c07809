import TreeScribe.Proofs.ConcreteTree.Grouped
import TreeScribe.Proofs.ConcreteTree.Passes
import TreeScribe.Proofs.Span.Nesting
import TreeScribe.Proofs.Span.Slice

/-!
# Nested spans of converted trees

The reshaping leaves nodes out, takes parentheses apart and makes lists with spans of their own.
Where the spans of a concrete tree are nested, those of its syntax tree still are, and then the text
of every node is a part of its parent's text (`toNode_nested`).
-/

namespace TreeScribe

open TreeScribe.Span

/-! ## Lists -/

namespace Node

/-- The spans of the children are nested in that of the node. -/
def Nested (n : Node) : Prop := n.span.Nests (n.children.map (·.span))

instance (n : Node) : Decidable n.Nested := inferInstanceAs (Decidable (Nests _ _))

section Lists

variable {a b anchor : Nat} {items : List Node} {first last : Node}

/-- The range of several items shrinks to the ends of the first and of the last one. -/
theorem between_ends (h : Between a b (items.map (·.span))) (hfirst : items.head? = some first)
    (hlast : items.getLast? = some last) :
    Between first.span.start last.span.stop (items.map (·.span)) := by
  have hfirst' : (items.map (·.span)).head? = some first.span := by simp [hfirst]
  have hlast' : (items.map (·.span)).getLast? = some last.span := by simp [hlast]
  exact h.shrink hfirst' hlast'

/-- A list that is not empty goes from the start of its first item to the stop of its last one. -/
theorem span_listOf (h : Between a b (items.map (·.span))) (hfirst : items.head? = some first)
    (hlast : items.getLast? = some last) :
    (listOf items anchor).span = ⟨first.span.start, last.span.stop⟩ := by
  have hends := between_ends h hfirst hlast
  have hstart := (hends.bounds (List.mem_map_of_mem (List.mem_of_getLast? hlast))).1
  have hstop := (hends.bounds (List.mem_map_of_mem (List.mem_of_mem_head? hfirst))).2.2
  simp only [listOf, plain, hfirst, hlast, merge, Nat.min_eq_left hstart, Nat.max_eq_right hstop]

/-- A list takes no more room than its items and the place where it would be without any. -/
theorem bounds_listOf (h : Between a b (items.map (·.span))) (hstart : a ≤ anchor)
    (hstop : anchor ≤ b) :
    a ≤ (listOf items anchor).span.start ∧ (listOf items anchor).span.stop ≤ b := by
  by_cases hitems : items = []
  · subst hitems
    exact ⟨hstart, hstop⟩
  · have hfirst := h.bounds (List.mem_map_of_mem (List.head_mem hitems))
    have hlast := h.bounds (List.mem_map_of_mem (List.getLast_mem hitems))
    rw [span_listOf h (List.head?_eq_some_head hitems) (List.getLast?_eq_some_getLast hitems)]
    exact ⟨hfirst.1, hlast.2.2⟩

/-- Items are nested in the span of their list, wherever it would be without any. -/
theorem between_listOf (h : Between a b (items.map (·.span))) :
    Between (listOf items anchor).span.start (listOf items anchor).span.stop
      (items.map (·.span)) := by
  by_cases hitems : items = []
  · subst hitems
    exact Nat.le_refl anchor
  · have hfirst := List.head?_eq_some_head hitems
    have hlast := List.getLast?_eq_some_getLast hitems
    rw [span_listOf h hfirst hlast]
    exact between_ends h hfirst hlast

/-- A list falls between characters if its items do, or else the place where it is. -/
theorem onBoundaries_listOf {text : List Char} (h : Between a b (items.map (·.span)))
    (hitems : ∀ n ∈ items, n.span.OnBoundaries text) (hanchor : Text.IsBoundary text anchor) :
    (listOf items anchor).span.OnBoundaries text := by
  by_cases hnil : items = []
  · subst hnil
    exact ⟨hanchor, hanchor⟩
  · rw [span_listOf h (List.head?_eq_some_head hnil) (List.getLast?_eq_some_getLast hnil)]
    exact ⟨(hitems _ (List.head_mem hnil)).1, (hitems _ (List.getLast_mem hnil)).2⟩

end Lists

/-! ## Grouped children -/

/-- Grouping the children of a block keeps them nested.  Where the list is empty, it stands behind
the opening brace, or else at the start of the block. -/
theorem between_groupBlock {a b : Nat} {ns : List Node} (h : Between a b (ns.map (·.span))) :
    Between a b ((groupBlock ⟨a, b⟩ ns).map (·.span)) := by
  obtain ⟨opening, items, closing, hgroup, rfl, hopening, -⟩ := exists_groupBlock_eq ⟨a, b⟩ ns
  rw [hgroup]
  generalize hanchor : (opening.head?.map (·.span.stop)).getD (Span.mk a b).start = anchor
  rw [List.append_assoc, List.map_append, List.map_append] at h
  -- the place of an empty list splits the range: only one node can stand before it
  have hsplit : Between a anchor (opening.map (·.span)) ∧
      Between anchor b (items.map (·.span) ++ closing.map (·.span)) := by
    subst hanchor
    match opening, hopening with
    | [], _ => exact ⟨Nat.le_refl a, h⟩
    | [o], _ => exact ⟨⟨h.1, h.2.1, Nat.le_refl _⟩, h.2.2⟩
  obtain ⟨hfront, hrest⟩ := hsplit
  obtain ⟨k, hitems, hclosing⟩ := between_append.1 hrest
  obtain ⟨hstart, hstop⟩ := bounds_listOf hitems (Nat.le_refl anchor) hitems.le
  rw [List.map_append, List.map_cons, between_append]
  exact ⟨anchor, hfront, hstart, (between_listOf hitems).le, hclosing.mono_left hstop⟩

/-- Grouping keeps children nested. -/
theorem between_grouped (kind : Kind) {a b : Nat} {ns : List Node}
    (h : Between a b (ns.map (·.span))) :
    Between a b ((grouped kind ⟨a, b⟩ ns).map (·.span)) := by
  unfold grouped
  split
  · obtain ⟨hstart, hstop⟩ := bounds_listOf h (Nat.le_refl a) h.le
    exact ⟨hstart, (between_listOf h).le, hstop⟩
  · exact between_groupBlock h
  · exact h

end Node

/-! ## Converted nodes -/

namespace ConcreteTree

/-- The span of a concrete node. -/
def span (t : ConcreteTree) : Span := ⟨t.label.start, t.label.stop⟩

/-- The spans of the children are nested in that of the node. -/
def Nested (t : ConcreteTree) : Prop := t.span.Nests (t.children.map span)

instance (t : ConcreteTree) : Decidable t.Nested := inferInstanceAs (Decidable (Nests _ _))

variable {t : ConcreteTree}

theorem HasOffsets.ofOffsets_eq_span (h : t.HasOffsets) :
    ofOffsets t.label.start t.label.stop = t.span :=
  ofOffsets_eq h.1 h.2

/-- The concrete children run forward, too, where all nodes are nested. -/
theorem between_children (hnested : ∀ s ∈ t.nodes, s.Nested) :
    Between t.span.start t.span.stop (t.children.map span) := by
  refine between_iff.2 ⟨hnested t (mem_nodes_self t), ?_⟩
  intro s hs
  obtain ⟨c, hc, rfl⟩ := List.mem_map.1 hs
  exact (hnested c (mem_nodes_iff.2 (.inr ⟨c, hc, mem_nodes_self c⟩))).forward

/-- What stands in the parentheses of a condition has the spans of the parts there. -/
theorem map_span_conditionNodes {seen : Bool} {ts : List ConcreteTree}
    (hoffsets : ∀ c ∈ ts, c.HasOffsets) :
    (conditionNodes seen ts).map (·.span) = (ts.filter (!·.label.extra)).map span := by
  induction ts generalizing seen with
  | nil => rfl
  | cons c ts ih =>
    obtain ⟨hc, hts⟩ := List.forall_mem_cons.1 hoffsets
    rw [conditionNodes]
    cases hextra : c.label.extra with
    | true => simp [hextra, ih hts]
    | false => simp [hextra, ih hts, hc.ofOffsets_eq_span]

/-- A concrete child gives way to nodes within its span. -/
theorem between_spliced (hnested : ∀ s ∈ t.nodes, s.Nested)
    (hoffsets : ∀ s ∈ t.nodes, s.HasOffsets) (parent : String) :
    Between t.span.start t.span.stop ((t.spliced parent).map (·.span)) := by
  have hforward := (hnested t (mem_nodes_self t)).forward
  cases hextra : t.label.extra with
  | true =>
    rw [spliced_of_extra hextra]
    exact hforward
  | false =>
    cases hcondition : t.label.isCondition parent with
    | true =>
      have hparts : ∀ c ∈ t.children, c.HasOffsets := fun c hc =>
        hoffsets c (mem_nodes_iff.2 (.inr ⟨c, hc, mem_nodes_self c⟩))
      rw [spliced_of_isCondition hextra hcondition, map_span_conditionNodes hparts]
      exact (between_children hnested).sublist (List.filter_sublist.map _)
    | false =>
      rw [spliced_of_not_isCondition hextra hcondition, List.map_singleton, span_toNodeIn,
        (hoffsets t (mem_nodes_self t)).ofOffsets_eq_span]
      exact ⟨Nat.le_refl _, hforward, Nat.le_refl _⟩

/-- Leaving children out and taking parentheses apart keeps the rest nested. -/
theorem between_childNodes (hnested : ∀ s ∈ t.nodes, s.Nested)
    (hoffsets : ∀ s ∈ t.nodes, s.HasOffsets) (parent : String) :
    Between t.span.start t.span.stop ((childNodes parent t.children).map (·.span)) := by
  rw [childNodes_eq_flatMap, List.map_flatMap]
  refine (between_children hnested).flatMap ?_
  intro c hc
  have hbelow : ∀ s ∈ c.nodes, s ∈ t.nodes := fun s hs => mem_nodes_iff.2 (.inr ⟨c, hc, hs⟩)
  exact between_spliced (fun s hs => hnested s (hbelow s hs))
    (fun s hs => hoffsets s (hbelow s hs)) parent

/-- The children of a converted node are nested. -/
theorem between_toNodeIn (field? : Option String) (hnested : ∀ s ∈ t.nodes, s.Nested)
    (hoffsets : ∀ s ∈ t.nodes, s.HasOffsets) :
    Between (t.toNodeIn field?).span.start (t.toNodeIn field?).span.stop
      ((t.toNodeIn field?).children.map (·.span)) := by
  rw [span_toNodeIn, children_toNodeIn, (hoffsets t (mem_nodes_self t)).ofOffsets_eq_span]
  exact Node.between_grouped _ (between_childNodes hnested hoffsets _)

/-! ## Converted trees -/

section Trees

variable (hnested : ∀ s ∈ t.nodes, s.Nested) (hoffsets : ∀ s ∈ t.nodes, s.HasOffsets) {m : Node}
include hnested hoffsets

/-- The items of a list are converted nodes that follow each other; the place for a list of nothing
is an end of one, too. -/
theorem exists_items_of_list (hm : m ∈ t.toNode.nodes) (hkind : m.kind = .role .syntaxList) :
    ∃ items anchor a b, m = Node.listOf items anchor ∧ Between a b (items.map (·.span)) ∧
      (∀ n ∈ items, ∃ s ∈ t.kept, ∃ field?, n = s.toNodeIn field?) ∧
      ∃ s ∈ t.kept, ∃ field?, anchor = (s.toNodeIn field?).span.start ∨
        anchor = (s.toNodeIn field?).span.stop := by
  obtain ⟨s, hs, field?, rfl | ⟨-, hlist⟩⟩ := exists_of_mem_nodes_toNodeIn none t hm
  · rw [kind_toNodeIn] at hkind
    exact absurd hkind (classify_ne_syntaxList _ _)
  obtain ⟨-, before, items, after, anchor, hchildren, rfl, hanchor⟩ :=
    exists_listOf_of_mem_children hlist hkind
  have hconverted : ∀ n ∈ childNodes s.label.kind s.children,
      ∃ c ∈ t.kept, ∃ held?, n = c.toNodeIn held? := by
    intro n hn
    obtain ⟨c, hc, -, held?, rfl⟩ := exists_of_mem_childNodes hn
    exact ⟨c, mem_kept_trans t hc hs, held?, rfl⟩
  have hbetween := between_childNodes (t := s)
    (fun r hr => hnested r (mem_nodes_of_mem_kept t hr hs))
    (fun r hr => hoffsets r (mem_nodes_of_mem_kept t hr hs)) s.label.kind
  rw [hchildren, List.map_append, List.map_append, between_append] at hbetween
  obtain ⟨b, hfront, -⟩ := hbetween
  obtain ⟨a, -, hitems⟩ := between_append.1 hfront
  refine ⟨items, anchor, a, b, rfl, hitems, ?_, ?_⟩
  · intro n hn
    exact hconverted n (by simp [hchildren, hn])
  · rcases hanchor with rfl | ⟨n, hn, rfl⟩
    · exact ⟨s, hs, field?, .inl rfl⟩
    · obtain ⟨c, hc, held?, rfl⟩ := hconverted n hn
      exact ⟨c, hc, held?, .inr rfl⟩

/-- The children of every node of a converted tree are nested. -/
theorem between_of_mem_nodes (hm : m ∈ t.toNode.nodes) :
    Between m.span.start m.span.stop (m.children.map (·.span)) := by
  obtain ⟨s, hs, field?, rfl | ⟨hkind, -⟩⟩ := exists_of_mem_nodes_toNodeIn none t hm
  · exact between_toNodeIn field? (fun r hr => hnested r (mem_nodes_of_mem_kept t hr hs))
      (fun r hr => hoffsets r (mem_nodes_of_mem_kept t hr hs))
  · obtain ⟨items, anchor, a, b, rfl, hitems, -⟩ :=
      exists_items_of_list hnested hoffsets hm hkind
    exact Node.between_listOf hitems

/-- Every list of a converted tree goes from its first item to its last one. -/
theorem span_of_list {first last : Node} (hm : m ∈ t.toNode.nodes)
    (hkind : m.kind = .role .syntaxList) (hfirst : m.children.head? = some first)
    (hlast : m.children.getLast? = some last) : m.span = ⟨first.span.start, last.span.stop⟩ := by
  obtain ⟨items, anchor, a, b, rfl, hitems, -⟩ := exists_items_of_list hnested hoffsets hm hkind
  exact Node.span_listOf hitems hfirst hlast

/-- Every node of a converted tree falls between characters where the concrete nodes do. -/
theorem onBoundaries_of_mem_nodes {text : List Char}
    (htext : ∀ s ∈ t.nodes, s.span.OnBoundaries text) (hm : m ∈ t.toNode.nodes) :
    m.span.OnBoundaries text := by
  have hnode : ∀ s ∈ t.kept, ∀ field?, (s.toNodeIn field?).span.OnBoundaries text := by
    intro s hs field?
    have hs := mem_nodes_of_mem_kept t (mem_nodes_self s) hs
    rw [span_toNodeIn, (hoffsets s hs).ofOffsets_eq_span]
    exact htext s hs
  obtain ⟨s, hs, field?, rfl | ⟨hkind, -⟩⟩ := exists_of_mem_nodes_toNodeIn none t hm
  · exact hnode s hs field?
  · obtain ⟨items, anchor, a, b, rfl, hbetween, hitems, hanchor⟩ :=
      exists_items_of_list hnested hoffsets hm hkind
    refine Node.onBoundaries_listOf hbetween ?_ ?_
    · intro n hn
      obtain ⟨c, hc, held?, rfl⟩ := hitems n hn
      exact hnode c hc held?
    · obtain ⟨c, hc, held?, rfl | rfl⟩ := hanchor
      · exact (hnode c hc held?).1
      · exact (hnode c hc held?).2

end Trees

/-- **The reshaping keeps spans nested.**  Where the spans of a concrete tree are nested and its
offsets are words, the spans of its syntax tree are nested, and a list that is not empty goes from
the start of its first item to the stop of its last one.  In a text where the concrete nodes fall
between characters, so do the nodes of the syntax tree, and the text of each is a part of its
parent's text. -/
theorem toNode_nested (t : ConcreteTree) (hnested : ∀ s ∈ t.nodes, s.Nested)
    (hoffsets : ∀ s ∈ t.nodes, s.HasOffsets) :
    (∀ m ∈ t.toNode.nodes, m.Nested) ∧
    (∀ m ∈ t.toNode.nodes, m.kind = .role .syntaxList → ∀ first last,
      m.children.head? = some first → m.children.getLast? = some last →
      m.span = ⟨first.span.start, last.span.stop⟩) ∧
    ∀ text, (∀ s ∈ t.nodes, s.span.OnBoundaries text) → ∀ m ∈ t.toNode.nodes,
      m.span.OnBoundaries text ∧ ∀ c ∈ m.children, c.text text <:+: m.text text := by
  refine ⟨?_, ?_, ?_⟩
  · intro m hm
    exact (between_iff.1 (between_of_mem_nodes hnested hoffsets hm)).1
  · intro m hm hkind first last
    exact span_of_list hnested hoffsets hm hkind
  · intro text htext m hm
    have hboundaries : ∀ n ∈ t.toNode.nodes, n.span.OnBoundaries text := fun n =>
      onBoundaries_of_mem_nodes hnested hoffsets htext
    refine ⟨hboundaries m hm, ?_⟩
    intro c hc
    have hchild : c ∈ t.toNode.nodes := Node.mem_nodes_trans t.toNode
      (Node.mem_nodes_iff.2 (.inr (Node.mem_descendants_of_mem_children hc))) hm
    obtain ⟨hstart, hforward, hstop⟩ :=
      (between_of_mem_nodes hnested hoffsets hm).bounds (List.mem_map_of_mem hc)
    exact slice_infix_slice (hboundaries m hm) (hboundaries c hchild) hstart hforward hstop

/-- `if (/**/é) {}` with its comment and, unwritten, a block that has no braces. -/
def bracedCondition : ConcreteTree :=
  let leaf (kind : String) (start stop : Nat) (named : Bool) : ConcreteTree :=
    ⟨⟨kind, start, stop, none, named, kind == "comment", false, false, false⟩, []⟩
  let tree (kind : String) (start stop : Nat) (field? : Option String) :
      List ConcreteTree → ConcreteTree :=
    .mk ⟨kind, start, stop, field?, true, false, false, false, false⟩
  tree "program" 0 14 none
    [tree "if_statement" 0 14 none
      [leaf "if" 0 2 false,
        tree "parenthesized_expression" 3 11 (some "condition")
          [leaf "(" 3 4 false, leaf "comment" 4 8 true, leaf "identifier" 8 10 true,
            leaf ")" 10 11 false],
        tree "statement_block" 12 14 (some "consequence")
          [leaf "\x7b" 12 13 false, leaf "\x7d" 13 14 false]],
      tree "statement_block" 14 14 none []]

/-- The condition's parts keep their order among the parts of the statement, and empty lists stand
between braces or where there are none. -/
theorem toNode_nested_bracedCondition :
    (∀ s ∈ bracedCondition.nodes, s.Nested) ∧ (∀ s ∈ bracedCondition.nodes, s.HasOffsets) ∧
      (∀ s ∈ bracedCondition.nodes, s.span.OnBoundaries "if (/**/é) \x7b\x7d".toList) ∧
      (∀ m ∈ bracedCondition.toNode.nodes, m.Nested ∧
        ∀ c ∈ m.children, c.text "if (/**/é) \x7b\x7d".toList <:+:
          m.text "if (/**/é) \x7b\x7d".toList) ∧
      bracedCondition.toNode.nodes.map (fun n => (n.kind.name, n.span.start, n.span.stop)) =
        [("SourceFile", 0, 14), ("SyntaxList", 0, 14), ("IfStatement", 0, 14), ("Token", 0, 2),
          ("Punctuation", 3, 4), ("Identifier", 8, 10), ("Punctuation", 10, 11), ("Block", 12, 14),
          ("Punctuation", 12, 13), ("SyntaxList", 13, 13), ("Punctuation", 13, 14),
          ("Block", 14, 14), ("SyntaxList", 14, 14)] := by
  have hnested : ∀ s ∈ bracedCondition.nodes, s.Nested := by decide
  have hoffsets : ∀ s ∈ bracedCondition.nodes, s.HasOffsets := by decide
  have htext : ∀ s ∈ bracedCondition.nodes,
      s.span.OnBoundaries "if (/**/é) \x7b\x7d".toList := by decide
  obtain ⟨hnodes, -, htexts⟩ := toNode_nested bracedCondition hnested hoffsets
  exact ⟨hnested, hoffsets, htext, fun m hm => ⟨hnodes m hm, (htexts _ htext m hm).2⟩, by decide⟩

end ConcreteTree

end TreeScribe
