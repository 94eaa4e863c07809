import TreeScribe.Proofs.ConcreteTree.Nodes
import TreeScribe.Proofs.Node.Descendants
import TreeScribe.Proofs.Node.Grouping

/-!
# Converted trees

What the reshaping makes of a concrete tree, seen from the syntax tree: where a child of a converted
node comes from (`mem_childNodes_iff`), that nothing but list nodes is made up
(`exists_of_mem_nodes_toNodeIn`), and, for every parent but a statement with a condition, that the
children are the converted parts in order (`childNodes_eq_map`), so that lookups can be carried
over.
-/

namespace TreeScribe.ConcreteTree

/-! ## One converted node -/

@[simp] theorem kind_toNodeIn (field? : Option String) (t : ConcreteTree) :
    (t.toNodeIn field?).kind = t.classify := by
  obtain ⟨l, children⟩ := t
  rfl

@[simp] theorem field?_toNodeIn (field? : Option String) (t : ConcreteTree) :
    (t.toNodeIn field?).field? = field? := by
  obtain ⟨l, children⟩ := t
  rfl

@[simp] theorem named_toNodeIn (field? : Option String) (t : ConcreteTree) :
    (t.toNodeIn field?).named = t.label.named := by
  obtain ⟨l, children⟩ := t
  rfl

@[simp] theorem span_toNodeIn (field? : Option String) (t : ConcreteTree) :
    (t.toNodeIn field?).span = Span.ofOffsets t.label.start t.label.stop := by
  obtain ⟨l, children⟩ := t
  rfl

theorem children_toNodeIn (field? : Option String) (t : ConcreteTree) :
    (t.toNodeIn field?).children =
      Node.grouped t.classify (Span.ofOffsets t.label.start t.label.stop)
        (childNodes t.label.kind t.children) := by
  obtain ⟨l, children⟩ := t
  rfl

/-- Only files and blocks have grouped children. -/
theorem children_toNodeIn_of_kind_ne {field? : Option String} {t : ConcreteTree}
    (hfile : t.classify ≠ .sourceFile) (hblock : t.classify ≠ .role .block) :
    (t.toNodeIn field?).children = childNodes t.label.kind t.children := by
  rw [children_toNodeIn, Node.grouped] <;> assumption

/-! ## Where children come from -/

theorem spliced_of_extra {parent : String} {t : ConcreteTree} (h : t.label.extra = true) :
    t.spliced parent = [] := by
  obtain ⟨l, children⟩ := t
  rw [spliced, if_pos h]

theorem spliced_of_isCondition {parent : String} {t : ConcreteTree}
    (hextra : t.label.extra = false) (h : t.label.isCondition parent = true) :
    t.spliced parent = conditionNodes false t.children := by
  obtain ⟨l, children⟩ := t
  have hextra' : ¬ l.extra = true := by simpa using hextra
  rw [spliced, if_neg hextra', if_pos h]

theorem spliced_of_not_isCondition {parent : String} {t : ConcreteTree}
    (hextra : t.label.extra = false) (h : t.label.isCondition parent = false) :
    t.spliced parent = [t.toNodeIn t.label.field?] := by
  obtain ⟨l, children⟩ := t
  have hextra' : ¬ l.extra = true := by simpa using hextra
  rw [spliced, if_neg hextra', if_neg (by simpa using h), toNodeIn]

theorem childNodes_eq_flatMap (parent : String) (ts : List ConcreteTree) :
    childNodes parent ts = ts.flatMap (spliced parent) := by
  induction ts with
  | nil => rfl
  | cons t ts ih => rw [childNodes, ih, List.flatMap_cons]

/-- **A child of a converted node** is a converted part, or stands in the parentheses of a part that
is a condition. -/
theorem mem_childNodes_iff {m : Node} {parent : String} {ts : List ConcreteTree} :
    m ∈ childNodes parent ts ↔ ∃ c ∈ ts, c.label.extra = false ∧
      (c.label.isCondition parent = false ∧ m = c.toNodeIn c.label.field? ∨
        c.label.isCondition parent = true ∧ m ∈ conditionNodes false c.children) := by
  rw [childNodes_eq_flatMap, List.mem_flatMap]
  refine exists_congr fun c => and_congr_right fun _ => ?_
  cases hextra : c.label.extra with
  | true => simp [spliced_of_extra hextra]
  | false =>
    cases hcondition : c.label.isCondition parent with
    | true => simp [spliced_of_isCondition hextra hcondition]
    | false => simp [spliced_of_not_isCondition hextra hcondition]

/-- What stands in the parentheses of a condition is a converted part, in the field of the condition
or in none. -/
theorem exists_of_mem_conditionNodes {m : Node} {seen : Bool} {ts : List ConcreteTree}
    (h : m ∈ conditionNodes seen ts) :
    ∃ c ∈ ts, c.label.extra = false ∧
      (m = c.toNodeIn (some "condition") ∨ m = c.toNodeIn none) := by
  induction ts generalizing seen with
  | nil => exact absurd h List.not_mem_nil
  | cons t ts ih =>
    rw [conditionNodes] at h
    cases hextra : t.label.extra with
    | true =>
      rw [if_pos hextra] at h
      obtain ⟨c, hc, hrest⟩ := ih h
      exact ⟨c, List.mem_cons_of_mem _ hc, hrest⟩
    | false =>
      rw [if_neg (by simp [hextra])] at h
      rcases List.mem_cons.1 h with rfl | h
      · refine ⟨t, List.mem_cons_self .., hextra, ?_⟩
        split
        · exact .inl rfl
        · exact .inr rfl
      · obtain ⟨c, hc, hrest⟩ := ih h
        exact ⟨c, List.mem_cons_of_mem _ hc, hrest⟩

/-- Before they are grouped, the children of a converted node are converted kept nodes below. -/
theorem exists_of_mem_childNodes {m : Node} {parent : String} {t : ConcreteTree}
    (h : m ∈ childNodes parent t.children) :
    ∃ s ∈ t.kept, sizeOf s < sizeOf t ∧ ∃ field?, m = s.toNodeIn field? := by
  obtain ⟨c, hc, hextra, hm⟩ := mem_childNodes_iff.1 h
  have hpart := mem_parts_iff.2 ⟨hc, hextra⟩
  have hsize := sizeOf_lt_of_mem_children hc
  rcases hm with ⟨-, rfl⟩ | ⟨-, hm⟩
  · exact ⟨c, mem_kept_of_mem_part hpart (mem_kept_self c), hsize, _, rfl⟩
  · obtain ⟨e, he, hextra', hm⟩ := exists_of_mem_conditionNodes hm
    have hkept := mem_kept_of_mem_part (mem_parts_iff.2 ⟨he, hextra'⟩) (mem_kept_self e)
    exact ⟨e, mem_kept_of_mem_part hpart hkept,
      Nat.lt_trans (sizeOf_lt_of_mem_children he) hsize, hm.elim (⟨_, ·⟩) (⟨_, ·⟩)⟩

/-- A named part in the parentheses makes a named condition. -/
theorem exists_condition_of_named {c : ConcreteTree} {ts : List ConcreteTree} (hc : c ∈ ts)
    (hextra : c.label.extra = false) (hnamed : c.label.named = true) :
    ∃ m ∈ conditionNodes false ts, m.field? = some "condition" ∧ m.named = true := by
  induction ts with
  | nil => exact absurd hc List.not_mem_nil
  | cons t ts ih =>
    rw [conditionNodes]
    by_cases htextra : t.label.extra = true
    · rw [if_pos htextra]
      refine ih ((List.mem_cons.1 hc).resolve_left ?_)
      rintro rfl
      rw [hextra] at htextra
      exact absurd htextra Bool.false_ne_true
    · rw [if_neg htextra]
      by_cases htnamed : t.label.named = true
      · exact ⟨_, List.mem_cons_self .., by simp [htnamed], by simp [htnamed]⟩
      · have hne : c ≠ t := by
          rintro rfl
          exact htnamed hnamed
        obtain ⟨m, hm, hrest⟩ := ih ((List.mem_cons.1 hc).resolve_left hne)
        refine ⟨m, List.mem_cons_of_mem _ ?_, hrest⟩
        simpa [htnamed] using hm

/-- Where no child is a condition, the children are the converted parts in order. -/
theorem childNodes_eq_map {t : ConcreteTree} (h : t.label.kind ∉ conditionals) :
    childNodes t.label.kind t.children = t.parts.map fun c => c.toNodeIn c.label.field? := by
  have hnone : ∀ l : Label, l.isCondition t.label.kind = false := fun l => by
    simp [Label.isCondition, h]
  rw [parts, childNodes_eq_flatMap]
  induction t.children with
  | nil => rfl
  | cons c cs ih =>
    rw [List.flatMap_cons, ih]
    cases hextra : c.label.extra with
    | true => simp [spliced_of_extra hextra, hextra]
    | false => simp [spliced_of_not_isCondition hextra (hnone c.label), hextra]

/-! ## All nodes of a converted tree -/

/-- The nodes of grouped children are those of the children and a list among them. -/
theorem mem_nodesAll_grouped {m : Node} {kind : Kind} {span : Span} {ns : List Node}
    (h : m ∈ Node.nodesAll (Node.grouped kind span ns)) :
    (m.kind = .role .syntaxList ∧ m ∈ Node.grouped kind span ns) ∨ m ∈ Node.nodesAll ns := by
  have hlist : ∀ items anchor, m ∈ (Node.listOf items anchor).nodes →
      m = Node.listOf items anchor ∨ m ∈ Node.nodesAll items := fun items anchor hm =>
    Node.mem_nodes_iff.1 hm
  unfold Node.grouped at h ⊢
  split at h
  · obtain ⟨n, hn, hm⟩ := Node.mem_nodesAll_iff.1 h
    rw [List.mem_singleton] at hn
    subst hn
    refine (hlist ns span.start hm).imp_left ?_
    rintro rfl
    exact ⟨rfl, List.mem_singleton_self _⟩
  · obtain ⟨opening, items, closing, hgroup, rfl, -⟩ := Node.exists_groupBlock_eq span ns
    rw [hgroup] at h ⊢
    obtain ⟨n, hn, hm⟩ := Node.mem_nodesAll_iff.1 h
    rcases List.mem_append.1 hn with hn | hn
    · exact .inr (Node.mem_nodesAll_iff.2 ⟨n, by simp [hn], hm⟩)
    rcases List.mem_cons.1 hn with rfl | hn
    · rcases hlist _ _ hm with rfl | hm
      · exact .inl ⟨rfl, by simp⟩
      · obtain ⟨k, hk, hm⟩ := Node.mem_nodesAll_iff.1 hm
        exact .inr (Node.mem_nodesAll_iff.2 ⟨k, by simp [hk], hm⟩)
    · exact .inr (Node.mem_nodesAll_iff.2 ⟨n, by simp [hn], hm⟩)
  · exact .inr h

/-- **Nothing is made up**: every node of a converted tree is a converted kept node, or a list among
the children of one. -/
theorem exists_of_mem_nodes_toNodeIn {m : Node} (field? : Option String) (t : ConcreteTree)
    (h : m ∈ (t.toNodeIn field?).nodes) :
    ∃ s ∈ t.kept, ∃ held?, m = s.toNodeIn held? ∨
      (m.kind = .role .syntaxList ∧ m ∈ (s.toNodeIn held?).children) := by
  rcases Node.mem_nodes_iff.1 h with rfl | h
  · exact ⟨t, mem_kept_self t, field?, .inl rfl⟩
  rw [Node.descendants, children_toNodeIn] at h
  rcases mem_nodesAll_grouped h with ⟨hkind, h⟩ | h
  · exact ⟨t, mem_kept_self t, field?, .inr ⟨hkind, by rwa [children_toNodeIn]⟩⟩
  obtain ⟨n, hn, hm⟩ := Node.mem_nodesAll_iff.1 h
  obtain ⟨c, hc, hsize, field', rfl⟩ := exists_of_mem_childNodes hn
  obtain ⟨s, hs, hm⟩ := exists_of_mem_nodes_toNodeIn field' c hm
  exact ⟨s, mem_kept_trans t hs hc, hm⟩
termination_by sizeOf t

/-- Every node of a converted tree is a list or a converted kept node. -/
theorem mem_nodes_toNodeIn {m : Node} (field? : Option String) (t : ConcreteTree)
    (h : m ∈ (t.toNodeIn field?).nodes) :
    m.kind = .role .syntaxList ∨ ∃ s ∈ t.kept, ∃ held?, m = s.toNodeIn held? := by
  obtain ⟨s, hs, held?, hm | ⟨hkind, -⟩⟩ := exists_of_mem_nodes_toNodeIn field? t h
  · exact .inr ⟨s, hs, held?, hm⟩
  · exact .inl hkind

end TreeScribe.ConcreteTree
