import TreeScribe.Proofs.ConcreteTree.Converted
import TreeScribe.Proofs.ConcreteTree.Kinds

/-!
# Where lists stand

The reshaping groups the statements of files and blocks in lists and makes no list elsewhere,
however deep a file or a block is in the tree and whatever it holds: no children, a single brace, or
extra nodes alone.

Main statement: in a converted tree the only child of a file is a list; a block has one list, beside
at most one punctuation on either side, and the list holds all other children; no list stands under
any other node (`toNode_grouped`).
-/

namespace TreeScribe

namespace Node

/-- A list as the reshaping makes it: named, and in no field. -/
def IsList (n : Node) : Prop := n.kind = .role .syntaxList ∧ n.named = true ∧ n.field? = none

theorem isList_listOf (items : List Node) (anchor : Nat) : (listOf items anchor).IsList :=
  ⟨rfl, rfl, rfl⟩

/-- Among the children of a node, a list stands for the `converted` ones, except for at most one
punctuation that opens them and at most one that closes them. -/
structure IsGrouped (n : Node) (converted opening : List Node) (list : Node)
    (closing : List Node) : Prop where
  children : n.children = opening ++ list :: closing
  converted : converted = opening ++ list.children ++ closing
  isList : list.IsList
  length_opening : opening.length ≤ 1
  length_closing : closing.length ≤ 1
  kind_eq : ∀ c ∈ opening ++ closing, c.kind = .punctuation

namespace IsGrouped

variable {n list : Node} {converted opening closing : List Node}

/-- What opens and closes is no list. -/
theorem kind_ne (h : n.IsGrouped converted opening list closing) {c : Node}
    (hc : c ∈ opening ++ closing) : c.kind ≠ .role .syntaxList := by
  rw [h.kind_eq c hc]
  exact nofun

/-- The list is the one that a lookup by its kind finds. -/
theorem childOfKind? (h : n.IsGrouped converted opening list closing) :
    n.childOfKind? (.role .syntaxList) = some list := by
  rw [Node.childOfKind?, h.children]
  refine List.find?_eq_some_iff_append.2 ⟨by simp [h.isList.1], opening, closing, rfl, ?_⟩
  intro c hc
  simpa using h.kind_ne (List.mem_append_left _ hc)

/-- Only punctuation stands outside the list. -/
theorem mem_list_children (h : n.IsGrouped converted opening list closing) {c : Node}
    (hc : c ∈ converted) (hkind : c.kind ≠ .punctuation) : c ∈ list.children := by
  rw [h.converted, List.append_assoc, List.mem_append, List.mem_append] at hc
  rcases hc with hc | hc | hc
  · exact absurd (h.kind_eq c (List.mem_append_left _ hc)) hkind
  · exact hc
  · exact absurd (h.kind_eq c (List.mem_append_right _ hc)) hkind

/-- No other child is a list. -/
theorem eq_list (h : n.IsGrouped converted opening list closing) {c : Node}
    (hc : c ∈ n.children) (hkind : c.kind = .role .syntaxList) : c = list := by
  rw [h.children, List.mem_append, List.mem_cons] at hc
  rcases hc with hc | hc | hc
  · exact absurd hkind (h.kind_ne (List.mem_append_left _ hc))
  · exact hc
  · exact absurd hkind (h.kind_ne (List.mem_append_right _ hc))

end IsGrouped

/-- The children of a block, once they are grouped. -/
theorem exists_isGrouped {n : Node} {span : Span} {converted : List Node}
    (h : n.children = groupBlock span converted) :
    ∃ opening list closing, n.IsGrouped converted opening list closing := by
  obtain ⟨opening, items, closing, hgroup, hconverted, hopening, hclosing, hkind⟩ :=
    exists_groupBlock_eq span converted
  rw [hgroup] at h
  exact ⟨opening, _, closing, h, hconverted, isList_listOf .., hopening, hclosing, hkind⟩

/-- Where no list has been before, grouping makes lists of what is there, and only in files and in
blocks.  A list of nothing stands where the parent starts or where one of its children stops. -/
theorem exists_listOf_of_mem_grouped {kind : Kind} {span : Span} {ns : List Node} {list : Node}
    (hns : ∀ n ∈ ns, n.kind ≠ .role .syntaxList) (hlist : list ∈ grouped kind span ns)
    (hkind : list.kind = .role .syntaxList) :
    (kind = .sourceFile ∨ kind = .role .block) ∧
      ∃ before items after anchor, ns = before ++ items ++ after ∧ list = listOf items anchor ∧
        (anchor = span.start ∨ ∃ n ∈ ns, anchor = n.span.stop) := by
  unfold grouped at hlist
  split at hlist
  · have heq := List.mem_singleton.1 hlist
    exact ⟨.inl rfl, [], ns, [], span.start, by simp, heq, .inl rfl⟩
  · refine ⟨.inr rfl, ?_⟩
    obtain ⟨opening, items, closing, hgroup, rfl, -⟩ := exists_groupBlock_eq span ns
    rw [hgroup, List.mem_append, List.mem_cons] at hlist
    rcases hlist with hlist | hlist | hlist
    · exact absurd hkind (hns list (by simp [hlist]))
    · refine ⟨opening, items, closing, _, rfl, hlist, ?_⟩
      cases opening with
      | nil => exact .inl rfl
      | cons o opening => exact .inr ⟨o, by simp, rfl⟩
    · exact absurd hkind (hns list (by simp [hlist]))
  · exact absurd hkind (hns list hlist)

end Node

namespace ConcreteTree

/-! ## Converted nodes -/

/-- No child is a list before the children are grouped. -/
theorem kind_ne_of_mem_childNodes {m : Node} {parent : String} {t : ConcreteTree}
    (h : m ∈ childNodes parent t.children) : m.kind ≠ .role .syntaxList := by
  obtain ⟨s, -, -, field?, rfl⟩ := exists_of_mem_childNodes h
  rw [kind_toNodeIn]
  exact classify_ne_syntaxList _ _

/-- The lists among the children of a converted node hold children from before the grouping. -/
theorem exists_listOf_of_mem_children {t : ConcreteTree} {field? : Option String} {list : Node}
    (hlist : list ∈ (t.toNodeIn field?).children) (hkind : list.kind = .role .syntaxList) :
    (t.classify = .sourceFile ∨ t.classify = .role .block) ∧
      ∃ before items after anchor,
        childNodes t.label.kind t.children = before ++ items ++ after ∧
        list = Node.listOf items anchor ∧
        (anchor = (t.toNodeIn field?).span.start ∨
          ∃ n ∈ childNodes t.label.kind t.children, anchor = n.span.stop) := by
  rw [children_toNodeIn] at hlist
  rw [span_toNodeIn]
  exact Node.exists_listOf_of_mem_grouped (fun _ => kind_ne_of_mem_childNodes) hlist hkind

/-- The children of a block are converted without taking parentheses apart. -/
theorem childNodes_of_block {t : ConcreteTree} (h : t.classify = .role .block) :
    childNodes t.label.kind t.children = t.parts.map fun c => c.toNodeIn c.label.field? := by
  obtain ⟨-, hknown⟩ := mem_knownKinds_of_classify h (by decide)
  have hkind : t.label.kind = "statement_block" := by simpa [knownKinds] using hknown
  exact childNodes_eq_map (by rw [hkind]; decide)

/-- **Lists stand where files and blocks need them, and nowhere else.**  The root of a converted
tree is no list.  A file has a single child, a list.  A block is made of a concrete one whose
converted parts are in its list, except for at most one punctuation on either side; no other child
of the block is a list, and a lookup by kind finds this one.  A list is named, in no field, and a
child of a file or of a block. -/
theorem toNode_grouped (t : ConcreteTree) :
    t.toNode.kind ≠ .role .syntaxList ∧
    ∀ m ∈ t.toNode.nodes,
      (m.kind = .sourceFile → ∃ list, m.children = [list] ∧ list.IsList) ∧
      (m.kind = .role .block →
        ∃ s ∈ t.kept, (∃ field?, m = s.toNodeIn field?) ∧
          ∃ opening list closing,
            m.IsGrouped (s.parts.map fun c => c.toNodeIn c.label.field?) opening list closing ∧
            (∀ c ∈ m.children, c.kind = .role .syntaxList → c = list) ∧
            m.childOfKind? (.role .syntaxList) = some list ∧
            ∀ c ∈ s.parts, c.classify ≠ .punctuation →
              c.toNodeIn c.label.field? ∈ list.children) ∧
      ∀ c ∈ m.children, c.kind = .role .syntaxList →
        c.IsList ∧ (m.kind = .sourceFile ∨ m.kind = .role .block) := by
  refine ⟨by rw [toNode, kind_toNodeIn]; exact classify_ne_syntaxList _ _, ?_⟩
  intro m hm
  obtain ⟨s, hs, field?, rfl | ⟨hkind, hlist⟩⟩ := exists_of_mem_nodes_toNodeIn none t hm
  · refine ⟨?_, ?_, ?_⟩
    · intro hfile
      rw [kind_toNodeIn] at hfile
      rw [children_toNodeIn, hfile]
      exact ⟨_, rfl, Node.isList_listOf ..⟩
    · intro hblock
      rw [kind_toNodeIn] at hblock
      have hchildren := children_toNodeIn field? s
      rw [hblock, childNodes_of_block hblock] at hchildren
      obtain ⟨opening, list, closing, hgrouped⟩ := Node.exists_isGrouped hchildren
      refine ⟨s, hs, ⟨field?, rfl⟩, opening, list, closing, hgrouped,
        fun _ => hgrouped.eq_list, hgrouped.childOfKind?, ?_⟩
      intro c hc hkind
      exact hgrouped.mem_list_children (List.mem_map_of_mem hc) (by rwa [kind_toNodeIn])
    · intro c hc hkind
      obtain ⟨hparent, -, items, -, anchor, -, rfl, -⟩ := exists_listOf_of_mem_children hc hkind
      exact ⟨Node.isList_listOf .., by rwa [kind_toNodeIn]⟩
  · -- a list has no list among its items, since these have been children of a converted node
    obtain ⟨-, before, items, after, anchor, hchildren, rfl, -⟩ :=
      exists_listOf_of_mem_children hlist hkind
    refine ⟨?_, ?_, ?_⟩
    · intro hfile
      exact absurd hfile (by simp [hkind])
    · intro hblock
      exact absurd hblock (by simp [hkind])
    · intro c hc hlist
      have hitem : c ∈ childNodes s.label.kind s.children := by
        rw [hchildren]
        exact List.mem_append_left _ (List.mem_append_right _ hc)
      exact absurd hlist (kind_ne_of_mem_childNodes hitem)

/-- Blocks with no braces, with one and with two in `/**/{;{}`.  The first holds a comment alone,
and the last, which is not written out, ends in a semicolon. -/
def brokenBlocks : ConcreteTree :=
  let leaf (kind : String) (start stop : Nat) : ConcreteTree :=
    ⟨⟨kind, start, stop, none, kind == "comment", kind == "comment", false, false, false⟩, []⟩
  let tree (kind : String) (start stop : Nat) : List ConcreteTree → ConcreteTree :=
    .mk ⟨kind, start, stop, none, true, false, false, false, false⟩
  tree "program" 0 8
    [tree "statement_block" 0 4 [leaf "comment" 0 4],
      tree "statement_block" 4 8
        [leaf "\x7b" 4 5, leaf ";" 5 6,
          tree "statement_block" 6 7 [leaf "\x7b" 6 7],
          tree "statement_block" 7 7 [], leaf "\x7d" 7 8],
      tree "statement_block" 8 8 [leaf "\x7b" 8 8, leaf ";" 8 8]]

/-- A lookup finds the list of each block, though four of the lists are empty. -/
theorem toNode_grouped_brokenBlocks :
    (∀ m ∈ brokenBlocks.toNode.nodes, m.kind = .role .block →
      ∃ list, m.childOfKind? (.role .syntaxList) = some list ∧ list.IsList) ∧
    (brokenBlocks.toNode.nodes.filter (·.kind = .role .block)).map
        (·.children.map fun c => (c.kind.name, c.children.length)) =
      [[("SyntaxList", 0)],
        [("Punctuation", 0), ("SyntaxList", 3), ("Punctuation", 0)],
        [("Punctuation", 0), ("SyntaxList", 0)],
        [("SyntaxList", 0)],
        [("Punctuation", 0), ("SyntaxList", 0), ("Punctuation", 0)]] := by
  refine ⟨?_, by decide⟩
  intro m hm hblock
  obtain ⟨-, hgrouped⟩ := toNode_grouped brokenBlocks
  obtain ⟨s, -, -, opening, list, closing, hshape, -, hlookup, -⟩ := (hgrouped m hm).2.1 hblock
  exact ⟨list, hlookup, hshape.isList⟩

end ConcreteTree

end TreeScribe
