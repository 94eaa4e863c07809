import TreeScribe.Proofs.ConcreteTree.Conformance
import TreeScribe.Proofs.ConcreteTree.Converted
import TreeScribe.Proofs.ConcreteTree.Kinds
import TreeScribe.Proofs.Translate.Success

/-!
# Demands of converted nodes

What the schemes that are built in ask of a syntax tree, told of the concrete tree that it is made
of: a field, an operator, a condition, the statement of an alternative and the source of an import
are found in a converted node if the concrete node has them (the `met_` lemmas).  Extra nodes,
parentheses and lists do not stand in the way.
-/

namespace TreeScribe

/-! ## The schemes that are built in -/

namespace Scheme

/-- The schemes that are built in. -/
def builtIn : List Scheme := [outline, plain, python]

theorem neverRefuses_of_mem_builtIn {scheme : Scheme} (h : scheme ∈ builtIn) :
    scheme.NeverRefuses := by
  intro role e
  simp only [builtIn, List.mem_cons, List.not_mem_nil, or_false] at h
  rcases h with rfl | rfl | rfl <;> cases role <;> simp [outline, plain, python]

/-- No scheme that is built in asks for more than the Python scheme does. -/
theorem demands_subset_python {scheme : Scheme} (h : scheme ∈ builtIn) (n : Node) :
    scheme.demands n ⊆ python.demands n := by
  simp only [builtIn, List.mem_cons, List.not_mem_nil, or_false] at h
  unfold Scheme.demands Scheme.rendering?
  rcases n.kind with _ | _ | role | name
  case role =>
    rcases h with rfl | rfl | rfl <;> cases role <;>
      simp [outline, plain, python, Rendering.demands]
  all_goals simp

end Scheme

namespace ConcreteTree

/-- A node whose children are not grouped. -/
def IsUngrouped (t : ConcreteTree) : Prop := t.classify ≠ .sourceFile ∧ t.classify ≠ .role .block

section OneNode

variable {t : ConcreteTree} {held? : Option String}

theorem IsUngrouped.children_toNodeIn (ht : t.IsUngrouped) :
    (t.toNodeIn held?).children = childNodes t.label.kind t.children :=
  children_toNodeIn_of_kind_ne ht.1 ht.2

/-! ## Fields, operators and conditions -/

/-- A part that is no condition stands among the children. -/
theorem toNodeIn_mem_children {c : ConcreteTree} (ht : t.IsUngrouped) (hc : c ∈ t.parts)
    (hcondition : c.label.isCondition t.label.kind = false) :
    c.toNodeIn c.label.field? ∈ (t.toNodeIn held?).children := by
  obtain ⟨hchild, hextra⟩ := mem_parts_iff.1 hc
  rw [ht.children_toNodeIn, mem_childNodes_iff]
  exact ⟨c, hchild, hextra, .inl ⟨hcondition, rfl⟩⟩

theorem isCondition_eq_false_of_field {l : Label} {field? : Option String} (parent : String)
    (hl : l.field? = field?) (hfield : field? ≠ some "condition") : l.isCondition parent = false := by
  simp [Label.isCondition, hl, hfield]

/-- A part in a field is found, unless it may be taken apart. -/
theorem met_demandField {field : String} (ht : t.IsUngrouped) (hfield : field ≠ "condition")
    (h : t.HasField field) : ((t.toNodeIn held?).demandField field).Met := by
  obtain ⟨c, hc, hheld⟩ := h
  have hcondition := isCondition_eq_false_of_field t.label.kind hheld (by simpa using hfield)
  refine Node.child?_isSome_iff.2 ⟨_, toNodeIn_mem_children ht hc hcondition, ?_⟩
  rw [field?_toNodeIn, hheld]

/-- An operator is found, in its field or without one. -/
theorem met_operator (ht : t.IsUngrouped) (h : t.HasOperator) :
    Demand.Met ⟨t.toNodeIn held?, "operator", (t.toNodeIn held?).operator?⟩ := by
  rw [Demand.Met, Node.operator?, Option.isSome_or, Bool.or_eq_true]
  rcases h with h | ⟨c, hc, hheld, hnamed, hdelimiter⟩
  · exact .inl (met_demandField ht (by decide) h)
  · have hcondition := isCondition_eq_false_of_field t.label.kind hheld (by simp)
    have htoken : c.classify = .role .token := by
      simp [classify, Label.classify, hnamed, hdelimiter]
    refine .inr (List.find?_isSome.2 ⟨_, toNodeIn_mem_children ht hc hcondition, ?_⟩)
    simp [hnamed, hheld, htoken]

/-- A condition is found, as it is or between its parentheses. -/
theorem met_condition (ht : t.IsUngrouped) (h : t.HasCondition) :
    ((t.toNodeIn held?).demandField "condition").Met := by
  obtain ⟨c, hc, hheld, hinner⟩ := h
  refine Node.child?_isSome_iff.2 ?_
  cases hcondition : c.label.isCondition t.label.kind with
  | false => exact ⟨_, toNodeIn_mem_children ht hc hcondition, by rw [field?_toNodeIn, hheld]⟩
  | true =>
    have hkind : c.label.kind = "parenthesized_expression" := by
      simp only [Label.isCondition, Bool.and_eq_true, beq_iff_eq] at hcondition
      exact hcondition.1.2
    obtain ⟨hchild, hextra⟩ := mem_parts_iff.1 hc
    obtain ⟨e, he, hnamed⟩ := hinner hkind
    obtain ⟨he, heextra⟩ := mem_parts_iff.1 he
    obtain ⟨m, hm, hmheld, -⟩ := exists_condition_of_named he heextra hnamed
    refine ⟨m, ?_, hmheld⟩
    rw [ht.children_toNodeIn, mem_childNodes_iff]
    exact ⟨c, hchild, hextra, .inr ⟨hcondition, hm⟩⟩

/-! ## Alternatives -/

/-- What is found in a field is a converted part, conditions apart. -/
theorem exists_part_of_child? {a : Node} {field : String} (ht : t.IsUngrouped)
    (hfield : field ≠ "condition") (h : (t.toNodeIn held?).child? field = some a) :
    ∃ c ∈ t.parts, c.label.field? = some field ∧ a = c.toNodeIn (some field) := by
  have hheld := Node.field?_of_child? h
  have hchild := Node.mem_children_of_child? h
  rw [ht.children_toNodeIn] at hchild
  obtain ⟨c, hc, hextra, ⟨-, rfl⟩ | ⟨-, hinner⟩⟩ := mem_childNodes_iff.1 hchild
  · rw [field?_toNodeIn] at hheld
    exact ⟨c, mem_parts_iff.2 ⟨hc, hextra⟩, hheld, by rw [hheld]⟩
  · obtain ⟨e, -, -, rfl | rfl⟩ := exists_of_mem_conditionNodes hinner
    · rw [field?_toNodeIn] at hheld
      exact absurd (Option.some.inj hheld).symm hfield
    · rw [field?_toNodeIn] at hheld
      cases hheld

/-- A named part is found among the children of its holder, or what is named between its
parentheses. -/
theorem firstNamed?_toNodeIn_isSome (held? : Option String) {a c : ConcreteTree} (hc : c ∈ a.parts)
    (hnamed : c.label.named = true)
    (hinner : c.label.isCondition a.label.kind = true → c.HasNamedPart) :
    (a.toNodeIn held?).firstNamed?.isSome = true := by
  obtain ⟨hchild, hextra⟩ := mem_parts_iff.1 hc
  have hsome : ∃ m ∈ childNodes a.label.kind a.children, m.named = true := by
    cases hcondition : c.label.isCondition a.label.kind with
    | false =>
      refine ⟨c.toNodeIn c.label.field?, ?_, by rw [named_toNodeIn, hnamed]⟩
      exact mem_childNodes_iff.2 ⟨c, hchild, hextra, .inl ⟨hcondition, rfl⟩⟩
    | true =>
      obtain ⟨e, he, henamed⟩ := hinner hcondition
      obtain ⟨he, heextra⟩ := mem_parts_iff.1 he
      obtain ⟨m, hm, -, hmnamed⟩ := exists_condition_of_named he heextra henamed
      exact ⟨m, mem_childNodes_iff.2 ⟨c, hchild, hextra, .inr ⟨hcondition, hm⟩⟩, hmnamed⟩
  obtain ⟨m, hm, hmnamed⟩ := hsome
  rw [Node.firstNamed?_isSome_iff, children_toNodeIn]
  exact Node.exists_named_grouped _ _ hm hmnamed

/-- The statement of an alternative is found. -/
theorem met_statement {a : Node} (ht : t.IsUngrouped) (h : t.KeepsAlternatives)
    (ha : (t.toNodeIn held?).child? "alternative" = some a) :
    Demand.Met ⟨a, "statement", a.firstNamed?⟩ := by
  obtain ⟨b, hb, hheld, rfl⟩ := exists_part_of_child? ht (by decide) ha
  obtain ⟨c, hc, hnamed, hinner⟩ := h b hb hheld
  exact firstNamed?_toNodeIn_isSome _ hc hnamed hinner

/-! ## Imports -/

/-- A node with a source is no leaf. -/
theorem HasSource.children_ne_nil {c : ConcreteTree} (h : c.HasSource) : c.children ≠ [] := by
  have hpart : ∃ e, e ∈ c.parts := by
    rcases h with ⟨e, he, -⟩ | ⟨e, he, -⟩ <;> exact ⟨e, he⟩
  obtain ⟨e, he⟩ := hpart
  exact List.ne_nil_of_mem (mem_parts_iff.1 he).1

/-- Only named nodes of the clause's kind become clauses. -/
theorem isRequireClause_of_classify {c : ConcreteTree} (h : c.classify = Node.requireClause) :
    c.IsRequireClause := by
  rw [classify] at h
  rcases c.label.classify_cases c.children.isEmpty with
    ⟨-, hknown⟩ | ⟨hnamed, hother⟩ | hpunctuation | htoken
  · rw [h] at hknown
    simp [knownKinds, Node.requireClause] at hknown
  · rw [h] at hother
    exact ⟨hnamed, (Kind.other.inj hother).symm⟩
  · rw [h] at hpunctuation
    cases hpunctuation
  · rw [h] at htoken
    cases htoken

theorem classify_of_isRequireClause {c : ConcreteTree} (h : c.IsRequireClause)
    (hsource : c.HasSource) : c.classify = Node.requireClause := by
  obtain ⟨hnamed, hkind⟩ := h
  have hlookup : knownKinds.lookup "import_require_clause" = none := by decide
  have hleaf : c.children.isEmpty = false := by simpa using hsource.children_ne_nil
  simp [classify, Label.classify, hnamed, hkind, hlookup, hleaf, Node.requireClause]

/-- A source is found, or a string in its place. -/
theorem met_source (ht : t.IsUngrouped) (h : t.HasSource) :
    Demand.Met ⟨t.toNodeIn held?, "source",
      ((t.toNodeIn held?).child? "source").or
        ((t.toNodeIn held?).childOfKind? (.role .stringLiteral))⟩ := by
  rw [Demand.Met, Option.isSome_or, Bool.or_eq_true]
  rcases h with h | ⟨c, hc, hnamed, hkind⟩
  · exact .inl (met_demandField ht (by decide) h)
  · have hcondition : c.label.isCondition t.label.kind = false := by
      simp [Label.isCondition, hkind]
    have hstring : c.classify = .role .stringLiteral := by
      have hlookup : knownKinds.lookup "string" = some (.role .stringLiteral) := by decide
      simp [classify, Label.classify, hnamed, hkind, hlookup]
    refine .inr (List.find?_isSome.2 ⟨_, toNodeIn_mem_children ht hc hcondition, ?_⟩)
    rw [kind_toNodeIn, hstring, decide_eq_true rfl]

/-- The first clause, if it has a source, is the child that an import looks at. -/
theorem childOfKind?_requireClause {c : ConcreteTree} (ht : t.IsUngrouped)
    (hkind : t.label.kind ∉ conditionals)
    (hfirst : t.parts.find? (fun c => decide c.IsRequireClause) = some c) (hsource : c.HasSource) :
    (t.toNodeIn held?).childOfKind? Node.requireClause = some (c.toNodeIn c.label.field?) := by
  obtain ⟨hclause, before, after, hparts, hbefore⟩ := List.find?_eq_some_iff_append.1 hfirst
  have hclassify := classify_of_isRequireClause (of_decide_eq_true hclause) hsource
  rw [Node.childOfKind?, ht.children_toNodeIn, childNodes_eq_map hkind, hparts]
  refine List.find?_eq_some_iff_append.2 ⟨by simp [hclassify], _, _, List.map_append .., ?_⟩
  intro m hm
  obtain ⟨b, hb, rfl⟩ := List.mem_map.1 hm
  have hother : b.classify ≠ Node.requireClause := fun h => by
    simpa [isRequireClause_of_classify h] using hbefore b hb
  simp [hother]

/-- The module of an import is found. -/
theorem met_importDemands (ht : t.IsUngrouped) (hkind : t.label.kind ∉ conditionals)
    (h : t.KeepsImport) : ∀ d ∈ (t.toNodeIn held?).importDemands, d.Met := by
  unfold Node.importDemands
  cases hsource : (t.toNodeIn held?).child? "source" with
  | some s => simp
  | none =>
    rcases h with h | ⟨c, hc, h⟩ | ⟨hnone, e, he, henamed⟩
    · have hmet : ((t.toNodeIn held?).demandField "source").Met := met_demandField ht (by decide) h
      simp [Demand.Met, Node.demandField, hsource] at hmet
    · have hclassify := classify_of_isRequireClause
        (by simpa using List.find?_some (Option.mem_toList.1 hc)) h
      have hclause : (t.toNodeIn held?).childOfKind? Node.requireClause = _ :=
        childOfKind?_requireClause ht hkind (Option.mem_toList.1 hc) h
      have hcungrouped : c.IsUngrouped := by
        constructor <;> rw [hclassify] <;> simp [Node.requireClause]
      simpa [hclause] using met_source hcungrouped h
    · have hchildren : ∀ m ∈ (t.toNodeIn held?).children, m.kind ≠ Node.requireClause := by
        rw [ht.children_toNodeIn, childNodes_eq_map hkind]
        intro m hm hclause
        obtain ⟨c, hc, rfl⟩ := List.mem_map.1 hm
        exact hnone c hc (isRequireClause_of_classify (by rwa [kind_toNodeIn] at hclause))
      have hclause : (t.toNodeIn held?).childOfKind? Node.requireClause = none :=
        List.find?_eq_none.2 fun m hm => by simpa using hchildren m hm
      have hcondition : e.label.isCondition t.label.kind = false := by
        simp [Label.isCondition, hkind]
      have hmem : e.toNodeIn e.label.field? ∈ (t.toNodeIn held?).namedChildren :=
        List.mem_filter.2 ⟨toNodeIn_mem_children ht he hcondition, by rw [named_toNodeIn, henamed]⟩
      have hlast : (t.toNodeIn held?).namedChildren.getLast?.isSome = true := by
        rw [List.getLast?_isSome]
        simpa using List.ne_nil_of_mem hmem
      simpa [hclause, Demand.Met] using hlast

end OneNode

end ConcreteTree

end TreeScribe
