import TreeScribe.Proofs.Translate.Demands
import TreeScribe.Proofs.Translate.Failure
import TreeScribe.Target

/-!
# What targets need

What the targets ask of each construct, and where they look for it, told of the tree alone: a node
lacks a child if no child of it is in the field, or is an operator, or is named.  A translation goes
on from a node that lacks nothing to some of the nodes below, and to no others.

Main statement: a target fails on a tree exactly if its translation reaches a node that misses
something, and the error then names such a node and what it misses (`Node.translate_fails_iff`).
What the translation does not reach may lack anything.
-/

namespace TreeScribe

open Traced

namespace Target

/-! ## What a node needs -/

/-- The fields whose children a target needs and translates. -/
def parts : Target → Role → List String
  | .outline, _ => []
  | _, .binaryExpression => ["left", "right"]
  | _, .propertyAccess => ["object", "property"]
  | _, .callExpression => ["function"]
  | .python, .functionDeclaration => ["name", "body"]
  | .python, .parameter => ["pattern"]
  | .python, .ifStatement => ["condition", "consequence"]
  | _, _ => []

/-- The fields whose children a target needs for the sake of the named nodes in them. -/
def lists : Target → Role → List String
  | .outline, _ => []
  | _, .callExpression => ["arguments"]
  | .python, .functionDeclaration => ["parameters"]
  | _, _ => []

/-- A node lacks a child that a target asks it for. -/
inductive Lacks (t : Target) (n : Node) : String → Prop
  /-- There is no child in a field. -/
  | field {role : Role} {field : String} (hkind : n.kind = .role role)
      (hfield : field ∈ t.parts role ++ t.lists role)
      (h : ∀ c ∈ n.children, c.field? ≠ some field) : Lacks t n field
  /-- There is no operator, neither in its field nor as a token without a name and a field. -/
  | operator (ht : t ≠ .outline) (hkind : n.kind = .role .binaryExpression)
      (hfield : ∀ c ∈ n.children, c.field? ≠ some "operator")
      (htoken : ∀ c ∈ n.children, c.kind = .role .token → c.named = true ∨ c.field? ≠ none) :
      Lacks t n "operator"
  /-- There is no source, no clause that may have one, and no named entity. -/
  | entity (ht : t = .python) (hkind : n.kind = .role .importDeclaration)
      (hfield : ∀ c ∈ n.children, c.field? ≠ some "source")
      (hclause : ∀ c ∈ n.children, c.kind ≠ Node.requireClause)
      (hnamed : ∀ c ∈ n.children, c.named = false) : Lacks t n "source"

/-- A node misses a child that the rendering of `n` asks it for.  It is `n` itself, the alternative
of an `if` or the clause of an import. -/
inductive Misses (t : Target) (n : Node) : Node → String → Prop
  | own {field : String} (h : t.Lacks n field) : Misses t n n field
  /-- There is no named child in the alternative. -/
  | statement {a : Node} (ht : t = .python) (hkind : n.kind = .role .ifStatement)
      (ha : n.child? "alternative" = some a) (hnamed : ∀ c ∈ a.children, c.named = false) :
      Misses t n a "statement"
  /-- There is no source and no string in the first clause. -/
  | clause {clause : Node} (ht : t = .python) (hkind : n.kind = .role .importDeclaration)
      (hfield : ∀ c ∈ n.children, c.field? ≠ some "source")
      (hclause : n.childOfKind? Node.requireClause = some clause)
      (hsource : ∀ c ∈ clause.children, c.field? ≠ some "source" ∧ c.kind ≠ .role .stringLiteral) :
      Misses t n clause "source"

/-! ## Where a translation goes on -/

/-- The roles for which a target translates all children. -/
def passedRoles : Target → List Role
  | .outline => Role.all
  | .plain => [.syntaxList, .importDeclaration, .functionDeclaration, .parameter, .ifStatement]
  | .python => [.syntaxList]

/-- The nodes below that a target translates for a node. -/
inductive GoesTo (t : Target) (n : Node) : Node → Prop
  /-- Any child of a file, of punctuation, of a construct without a role, or of a node with a role
  for which all children are translated. -/
  | child {c : Node} (hkind : ∀ role, n.kind = .role role → role ∈ t.passedRoles)
      (hc : c ∈ n.children) : GoesTo t n c
  /-- The first child in a field. -/
  | part {role : Role} {field : String} {c : Node} (hkind : n.kind = .role role)
      (hfield : field ∈ t.parts role) (hc : n.child? field = some c) : GoesTo t n c
  /-- A named child of the first child in a field. -/
  | item {role : Role} {field : String} {a c : Node} (hkind : n.kind = .role role)
      (hfield : field ∈ t.lists role) (ha : n.child? field = some a) (hc : c ∈ a.children)
      (hnamed : c.named = true) : GoesTo t n c
  /-- The first named child of a return or of an expression statement. -/
  | first {c : Node} (ht : t ≠ .outline)
      (hkind : n.kind = .role .returnStatement ∨ n.kind = .role .expressionStatement)
      (hc : n.firstNamed? = some c) : GoesTo t n c
  /-- The first list of a block, if it has children. -/
  | statements {c : Node} (ht : t ≠ .outline) (hkind : n.kind = .role .block)
      (hc : n.childOfKind? (.role .syntaxList) = some c) (hne : c.children ≠ []) : GoesTo t n c
  /-- The first named child of the alternative. -/
  | alternative {a c : Node} (ht : t = .python) (hkind : n.kind = .role .ifStatement)
      (ha : n.child? "alternative" = some a) (hc : a.firstNamed? = some c) : GoesTo t n c

/-- A translation reaches a node from itself, and goes on from a node that lacks nothing. -/
def Reaches (t : Target) : Node → Node → Prop :=
  Relation.ReflTransGen fun n m => (∀ field, ¬ t.Lacks n field) ∧ t.GoesTo n m

/-! ## Demands -/

theorem neverRefuses (t : Target) : t.scheme.NeverRefuses :=
  Scheme.neverRefuses_of_mem_builtIn (by cases t <;> simp [Scheme.builtIn, scheme])

/-- The demands of the rendering that a target has for a role. -/
theorem mem_demands_iff {t : Target} {role : Role} {n : Node} {d : Demand} :
    d ∈ (t.scheme role).demands n ↔
      (∃ field ∈ t.parts role ++ t.lists role, d = n.demandField field) ∨
      (t ≠ .outline ∧ role = .binaryExpression ∧ d = ⟨n, "operator", n.operator?⟩) ∨
      (t = .python ∧ role = .importDeclaration ∧ d ∈ n.importDemands) ∨
      (t = .python ∧ role = .ifStatement ∧
        ∃ a, n.child? "alternative" = some a ∧ d = ⟨a, "statement", a.firstNamed?⟩) := by
  cases t <;> cases role <;>
    simp [scheme, Scheme.outline, Scheme.plain, Scheme.python, Rendering.demands, parts, lists]
  case plain.binaryExpression | python.binaryExpression =>
    rw [or_assoc, or_comm (a := d = n.demandField "right")]
  case python.functionDeclaration => rw [or_comm (a := d = n.demandField "parameters")]
  case python.ifStatement => simp only [or_assoc, eq_comm (b := d)]

theorem met_demandField_iff {n : Node} {field : String} :
    (n.demandField field).Met ↔ ∃ c ∈ n.children, c.field? = some field :=
  Node.child?_isSome_iff

theorem met_operator_iff {n : Node} :
    Demand.Met ⟨n, "operator", n.operator?⟩ ↔
      (∃ c ∈ n.children, c.field? = some "operator") ∨
        ∃ c ∈ n.children, c.kind = .role .token ∧ c.named = false ∧ c.field? = none := by
  rw [Demand.Met, Node.operator?, Option.isSome_or, Bool.or_eq_true, Node.child?_isSome_iff]
  simp only [List.find?_isSome, Bool.and_eq_true, Bool.not_eq_true', Option.isNone_iff_eq_none,
    decide_eq_true_eq]
  refine or_congr_right (exists_congr fun c => and_congr_right fun _ => ?_)
  rw [and_comm]

theorem met_source_iff {clause : Node} :
    Demand.Met ⟨clause, "source",
        (clause.child? "source").or (clause.childOfKind? (.role .stringLiteral))⟩ ↔
      ∃ c ∈ clause.children, c.field? = some "source" ∨ c.kind = .role .stringLiteral := by
  rw [Demand.Met, Option.isSome_or, Bool.or_eq_true, Node.child?_isSome_iff, Node.childOfKind?,
    List.find?_isSome]
  simp only [decide_eq_true_eq, and_or_left, exists_or]

theorem met_entity_iff {n : Node} :
    Demand.Met ⟨n, "source", n.namedChildren.getLast?⟩ ↔ ∃ c ∈ n.children, c.named = true := by
  rw [Demand.Met, List.getLast?_isSome, Node.namedChildren, Ne, List.filter_eq_nil_iff]
  simp

section Imports

variable {n : Node} (hfield : ∀ c ∈ n.children, c.field? ≠ some "source")

include hfield

/-- An import without a source is asked for that of its clause. -/
theorem importDemands_of_clause {clause : Node}
    (hclause : n.childOfKind? Node.requireClause = some clause) :
    n.importDemands =
      [⟨clause, "source",
        (clause.child? "source").or (clause.childOfKind? (.role .stringLiteral))⟩] := by
  have hsource : n.child? "source" = none := by simpa [Node.child?] using hfield
  simp only [Node.importDemands, hsource, hclause]

/-- An import with neither a source nor a clause is asked for an entity. -/
theorem importDemands_of_no_clause (hclause : n.childOfKind? Node.requireClause = none) :
    n.importDemands = [⟨n, "source", n.namedChildren.getLast?⟩] := by
  have hsource : n.child? "source" = none := by simpa [Node.child?] using hfield
  simp only [Node.importDemands, hsource, hclause]

end Imports

/-- A demand of an import that is not met is a source that is missed. -/
theorem misses_of_mem_importDemands {n : Node} {d : Demand}
    (hkind : n.kind = .role .importDeclaration) (hd : d ∈ n.importDemands) (h : ¬ d.Met) :
    Target.python.Misses n d.holder d.field := by
  have hfield : ∀ c ∈ n.children, c.field? ≠ some "source" := by
    intro c hc hheld
    have hsome : (n.child? "source").isSome = true := Node.child?_isSome_iff.2 ⟨c, hc, hheld⟩
    obtain ⟨s, hs⟩ := Option.isSome_iff_exists.1 hsome
    simp [Node.importDemands, hs] at hd
  cases hclause : n.childOfKind? Node.requireClause with
  | some clause =>
    rw [importDemands_of_clause hfield hclause] at hd
    obtain rfl := List.mem_singleton.1 hd
    rw [met_source_iff] at h
    refine .clause rfl hkind hfield hclause fun c hc => ?_
    exact ⟨fun hheld => h ⟨c, hc, .inl hheld⟩, fun hstring => h ⟨c, hc, .inr hstring⟩⟩
  | none =>
    rw [importDemands_of_no_clause hfield hclause] at hd
    obtain rfl := List.mem_singleton.1 hd
    rw [met_entity_iff] at h
    refine .own (.entity rfl hkind hfield (by simpa [Node.childOfKind?] using hclause) ?_)
    intro c hc
    exact Bool.eq_false_iff.2 fun hnamed => h ⟨c, hc, hnamed⟩

/-- A demand that is not met is a child that the node misses. -/
theorem misses_of_mem_demands {t : Target} {n : Node} {d : Demand} (hd : d ∈ t.scheme.demands n)
    (h : ¬ d.Met) : t.Misses n d.holder d.field := by
  obtain ⟨role, hkind, hd⟩ := Scheme.mem_demands_iff.1 hd
  rcases mem_demands_iff.1 hd with
    ⟨field, hfield, rfl⟩ | ⟨ht, rfl, rfl⟩ | ⟨rfl, rfl, hd⟩ | ⟨rfl, rfl, a, ha, rfl⟩
  · rw [met_demandField_iff] at h
    exact .own (.field hkind hfield fun c hc hheld => h ⟨c, hc, hheld⟩)
  · rw [met_operator_iff, not_or] at h
    obtain ⟨hfield, htoken⟩ := h
    refine .own (.operator ht hkind (fun c hc hheld => hfield ⟨c, hc, hheld⟩) ?_)
    intro c hc hrole
    cases hnamed : c.named with
    | true => exact .inl rfl
    | false => exact .inr fun hnone => htoken ⟨c, hc, hrole, hnamed, hnone⟩
  · exact misses_of_mem_importDemands hkind hd h
  · rw [Demand.Met, Node.firstNamed?_isSome_iff] at h
    refine .statement rfl hkind ha fun c hc => ?_
    exact Bool.eq_false_iff.2 fun hnamed => h ⟨c, hc, hnamed⟩

/-- A field that a node cannot do without is looked up before the translation goes on. -/
theorem demandField_mem_lookups {t : Target} {n : Node} {role : Role} {field : String}
    (hkind : n.kind = .role role) (hfield : field ∈ t.parts role ++ t.lists role) :
    n.demandField field ∈ t.scheme.lookups n := by
  rw [Scheme.lookups_of_role hkind]
  by_cases hif : (t.scheme role) = .branches
  · rw [hif]
    cases t <;> cases role <;>
      simp [scheme, Scheme.outline, Scheme.plain, Scheme.python] at hif
    have hfields : field = "condition" ∨ field = "consequence" := by
      simpa [parts, lists] using hfield
    rcases hfields with rfl | rfl <;> simp [Rendering.lookups]
  · have hdemand : n.demandField field ∈ (t.scheme role).demands n :=
      mem_demands_iff.2 (.inl ⟨field, hfield, rfl⟩)
    rwa [Rendering.lookups]
    exact hif

/-- A child that a node lacks is a demand that is not met, before the translation goes on. -/
theorem exists_lookup_of_lacks {t : Target} {n : Node} {field : String} (h : t.Lacks n field) :
    ∃ d ∈ t.scheme.lookups n, ¬ d.Met := by
  cases h with
  | @field role field hkind hfield h =>
    refine ⟨n.demandField field, demandField_mem_lookups hkind hfield, ?_⟩
    rw [met_demandField_iff]
    rintro ⟨c, hc, hheld⟩
    exact h c hc hheld
  | operator ht hkind hfield htoken =>
    refine ⟨⟨n, "operator", n.operator?⟩, ?_, ?_⟩
    · rw [Scheme.lookups_of_role hkind]
      cases t with
      | outline => exact absurd rfl ht
      | plain => simp [scheme, Scheme.plain, Rendering.lookups, Rendering.demands]
      | python => simp [scheme, Scheme.python, Scheme.plain, Rendering.lookups, Rendering.demands]
    · rw [met_operator_iff]
      rintro (⟨c, hc, hheld⟩ | ⟨c, hc, hrole, hnamed, hheld⟩)
      · exact hfield c hc hheld
      · rcases htoken c hc hrole with h | h
        · simp [hnamed] at h
        · exact h hheld
  | entity ht hkind hfield hclause hnamed =>
    subst ht
    refine ⟨⟨n, "source", n.namedChildren.getLast?⟩, ?_, ?_⟩
    · have hnone : n.childOfKind? Node.requireClause = none := by
        simpa [Node.childOfKind?] using hclause
      rw [Scheme.lookups_of_role hkind]
      have himport := importDemands_of_no_clause hfield hnone
      simp [scheme, Scheme.python, Rendering.lookups, Rendering.demands, himport]
    · rw [met_entity_iff]
      rintro ⟨c, hc, hc'⟩
      simp [hnamed c hc] at hc'

/-- A child that a node misses is a demand that is not met. -/
theorem exists_demand_of_misses {t : Target} {n holder : Node} {field : String}
    (h : t.Misses n holder field) : ∃ d ∈ t.scheme.demands n, ¬ d.Met := by
  cases h with
  | own h =>
    obtain ⟨d, hd, hunmet⟩ := exists_lookup_of_lacks h
    exact ⟨d, Scheme.mem_demands_of_mem_lookups hd, hunmet⟩
  | statement ht hkind ha hnamed =>
    refine ⟨⟨holder, "statement", holder.firstNamed?⟩, ?_, ?_⟩
    · have hdemand : ⟨holder, "statement", holder.firstNamed?⟩ ∈
          (t.scheme .ifStatement).demands n :=
        mem_demands_iff.2 (.inr (.inr (.inr ⟨ht, rfl, holder, ha, rfl⟩)))
      exact Scheme.mem_demands_iff.2 ⟨.ifStatement, hkind, hdemand⟩
    · rw [Demand.Met, Node.firstNamed?_isSome_iff]
      rintro ⟨c, hc, hc'⟩
      simp [hnamed c hc] at hc'
  | clause ht hkind hfield hclause hsource =>
    have himport := importDemands_of_clause hfield hclause
    refine ⟨_, Scheme.mem_demands_iff.2 ⟨.importDeclaration, hkind, mem_demands_iff.2
      (.inr (.inr (.inl ⟨ht, rfl, himport ▸ List.mem_singleton_self _⟩)))⟩, ?_⟩
    rw [met_source_iff]
    rintro ⟨c, hc, h | h⟩
    · exact (hsource c hc).1 h
    · exact (hsource c hc).2 h

/-! ## Visited nodes -/

theorem statements?_eq_some_iff {n list : Node} :
    n.statements? = some list ↔
      n.childOfKind? (.role .syntaxList) = some list ∧ list.children ≠ [] := by
  rw [Node.statements?, Option.filter_eq_some_iff, Node.hasChildren]
  simp

/-- The nodes that a target translates for a node with a role. -/
theorem mem_visited_iff {t : Target} {role : Role} {n m : Node} :
    m ∈ (t.scheme role).visited n ↔
      (role ∈ t.passedRoles ∧ m ∈ n.children) ∨
      (∃ field ∈ t.parts role, n.child? field = some m) ∨
      (∃ field ∈ t.lists role, ∃ a, n.child? field = some a ∧ m ∈ a.namedChildren) ∨
      (t ≠ .outline ∧ (role = .returnStatement ∨ role = .expressionStatement) ∧
        n.firstNamed? = some m) ∨
      (t ≠ .outline ∧ role = .block ∧ n.statements? = some m) ∨
      (t = .python ∧ role = .ifStatement ∧
        ∃ a, n.child? "alternative" = some a ∧ a.firstNamed? = some m) := by
  cases t <;> cases role <;>
    simp [scheme, Scheme.outline, Scheme.plain, Scheme.python, Rendering.visited, parts, lists,
      passedRoles, Role.all]
  case python.functionDeclaration => rw [or_right_comm, or_assoc]
  case python.ifStatement => rw [or_assoc]

/-- The nodes that a target translates are those that its rendering visits. -/
theorem goesTo_iff {t : Target} {n m : Node} : t.GoesTo n m ↔ m ∈ t.scheme.visited n := by
  constructor
  · intro h
    cases h with
    | child hkind hc =>
      cases hn : n.kind with
      | role role =>
        rw [Scheme.visited_of_role hn, mem_visited_iff]
        exact .inl ⟨hkind role hn, hc⟩
      | sourceFile | punctuation => simpa [Scheme.visited, Scheme.rendering?, hn] using hc
      | other name => simpa [Scheme.visited, Scheme.rendering?, hn, Rendering.visited] using hc
    | part hkind hfield hc =>
      rw [Scheme.visited_of_role hkind, mem_visited_iff]
      exact .inr (.inl ⟨_, hfield, hc⟩)
    | item hkind hfield ha hc hnamed =>
      rw [Scheme.visited_of_role hkind, mem_visited_iff]
      exact .inr (.inr (.inl ⟨_, hfield, _, ha, List.mem_filter.2 ⟨hc, hnamed⟩⟩))
    | first ht hkind hc =>
      rcases hkind with hkind | hkind <;> rw [Scheme.visited_of_role hkind, mem_visited_iff]
      · exact .inr (.inr (.inr (.inl ⟨ht, .inl rfl, hc⟩)))
      · exact .inr (.inr (.inr (.inl ⟨ht, .inr rfl, hc⟩)))
    | statements ht hkind hc hne =>
      rw [Scheme.visited_of_role hkind, mem_visited_iff]
      have hlist : n.statements? = some m := statements?_eq_some_iff.2 ⟨hc, hne⟩
      exact .inr (.inr (.inr (.inr (.inl ⟨ht, rfl, hlist⟩))))
    | alternative ht hkind ha hc =>
      rw [Scheme.visited_of_role hkind, mem_visited_iff]
      exact .inr (.inr (.inr (.inr (.inr ⟨ht, rfl, _, ha, hc⟩))))
  · intro h
    cases hn : n.kind with
    | role role =>
      rw [Scheme.visited_of_role hn, mem_visited_iff] at h
      rcases h with ⟨hrole, hc⟩ | ⟨field, hfield, hc⟩ | ⟨field, hfield, a, ha, hc⟩ |
        ⟨ht, hrole, hc⟩ | ⟨ht, rfl, hc⟩ | ⟨ht, rfl, a, ha, hc⟩
      · refine .child (fun r hr => ?_) hc
        rw [hn] at hr
        cases hr
        exact hrole
      · exact .part hn hfield hc
      · obtain ⟨hc, hnamed⟩ := List.mem_filter.1 hc
        exact .item hn hfield ha hc hnamed
      · refine .first ht ?_ hc
        rcases hrole with rfl | rfl
        · exact .inl hn
        · exact .inr hn
      · obtain ⟨hlist, hne⟩ := statements?_eq_some_iff.1 hc
        exact .statements ht hn hlist hne
      · exact .alternative ht hn ha hc
    | sourceFile | punctuation =>
      refine .child (fun r hr => absurd (hn.symm.trans hr) (by simp)) ?_
      simpa [Scheme.visited, Scheme.rendering?, hn] using h
    | other name =>
      refine .child (fun r hr => absurd (hn.symm.trans hr) (by simp)) ?_
      simpa [Scheme.visited, Scheme.rendering?, hn, Rendering.visited] using h

/-- A translation that goes on has lacked nothing so far. -/
theorem reaches_of_goesOn {t : Target} {n m : Node}
    (h : Relation.ReflTransGen t.scheme.GoesOn n m) : t.Reaches n m := by
  refine Relation.ReflTransGen.mono ?_ _ _ h
  rintro k c ⟨hlookups, hc⟩
  refine ⟨fun field hlacks => ?_, goesTo_iff.2 hc⟩
  obtain ⟨d, hd, hunmet⟩ := exists_lookup_of_lacks hlacks
  exact hunmet (hlookups d hd)

theorem Reaches.visited {t : Target} {n m : Node} (h : t.Reaches n m) :
    Relation.ReflTransGen (fun n m => m ∈ t.scheme.visited n) n m := by
  refine Relation.ReflTransGen.mono ?_ _ _ h
  rintro k c ⟨-, hc⟩
  exact goesTo_iff.1 hc

theorem not_misses_outline {n holder : Node} {field : String} :
    ¬ Target.outline.Misses n holder field := by
  rintro (hlacks | ⟨ht, -⟩ | ⟨ht, -⟩)
  · rcases hlacks with ⟨-, hfield, -⟩ | ⟨ht, -⟩ | ⟨ht, -⟩
    · simp [parts, lists] at hfield
    · exact ht rfl
    · cases ht
  · cases ht
  · cases ht

end Target

/-- **When a target fails.**  It fails on a tree exactly if its translation reaches a node that
misses a child.  The error names such a child, and the kind of the node that should have it: the
node itself, the alternative of an `if` or the clause of an import.  The outline never fails. -/
theorem Node.translate_fails_iff (t : Target) (file : SourceFile) (n : Node) :
    ((∃ e, (n.translate file t.scheme).outcome = .error e) ↔
      ∃ m, t.Reaches n m ∧ ∃ holder field, t.Misses m holder field) ∧
    (∀ e, (n.translate file t.scheme).outcome = .error e →
      ∃ m, t.Reaches n m ∧ ∃ holder field, t.Misses m holder field ∧
        e = .missingChild holder.kind field) ∧
    ∃ doc, (n.translate file Target.outline.scheme).outcome = .ok doc := by
  have herror : ∀ (t : Target) (e : TranslateError),
      (n.translate file t.scheme).outcome = .error e →
        ∃ m, t.Reaches n m ∧ ∃ holder field, t.Misses m holder field ∧
          e = .missingChild holder.kind field := by
    intro t
    refine n.translate_failsOnly file t.neverRefuses fun m hm d hd hunmet => ?_
    exact ⟨m, Target.reaches_of_goesOn hm, d.holder, d.field,
      Target.misses_of_mem_demands hd hunmet, rfl⟩
  refine ⟨⟨?_, ?_⟩, herror t, ?_⟩
  · rintro ⟨e, he⟩
    obtain ⟨m, hm, holder, field, hmisses, -⟩ := herror t e he
    exact ⟨m, hm, holder, field, hmisses⟩
  · rintro ⟨m, hm, holder, field, hmisses⟩
    obtain ⟨d, hd, hunmet⟩ := Target.exists_demand_of_misses hmisses
    have hfails := not_succeeds_of_visited file t.neverRefuses hm.visited hd hunmet
    cases houtcome : (n.translate file t.scheme).outcome with
    | error e => exact ⟨e, rfl⟩
    | ok doc => exact absurd ⟨doc, houtcome⟩ hfails
  · cases houtcome : (n.translate file Target.outline.scheme).outcome with
    | ok doc => exact ⟨doc, rfl⟩
    | error e =>
      obtain ⟨m, -, holder, field, hmisses, -⟩ := herror .outline e houtcome
      exact absurd hmisses Target.not_misses_outline

/-- A block whose list holds a call.  An operation without operands stands among the arguments,
unnamed, and another one behind the list. -/
def hiddenGaps : Node :=
  let gap : Node := .plain (.role .binaryExpression) ⟨0, 1⟩ []
  let name : Node := .plain (.role .identifier) ⟨0, 1⟩ []
  let call : Node := .plain (.role .callExpression) ⟨0, 4⟩
    [name.withField "function",
      (Node.plain (.other "arguments") ⟨1, 4⟩ [gap.anonymous, name]).withField "arguments"]
  .plain (.role .block) ⟨0, 4⟩ [.plain (.role .syntaxList) ⟨0, 4⟩ [call], gap]

/-- An `if` with an alternative in which nothing is named. -/
def emptyElse : Node :=
  let name : Node := .plain (.role .identifier) ⟨0, 1⟩ []
  .plain (.role .ifStatement) ⟨0, 4⟩
    [name.withField "condition", hiddenGaps.withField "consequence",
      (Node.plain (.other "else_clause") ⟨3, 4⟩ [name.anonymous]).withField "alternative"]

/-- Nothing is missed in the block, since neither operation is reached; the alternative misses its
statement. -/
theorem Node.translate_fails_iff_hiddenGaps :
    (∀ m, Target.python.Reaches hiddenGaps m → ∀ holder field,
      ¬ Target.python.Misses m holder field) ∧
    ∃ m, Target.python.Reaches emptyElse m ∧ ∃ holder field,
      Target.python.Misses m holder field ∧
        TranslateError.missingChild (.other "else_clause") "statement" =
          .missingChild holder.kind field := by
  have hok : ∃ doc, (hiddenGaps.translate ⟨"input.ts", "f(a)".toList⟩
      Target.python.scheme).outcome = .ok doc := ⟨_, rfl⟩
  have herror : (emptyElse.translate ⟨"input.ts", "f(a)".toList⟩ Target.python.scheme).outcome =
      .error (.missingChild (.other "else_clause") "statement") := rfl
  obtain ⟨hhidden, -, -⟩ := translate_fails_iff .python ⟨"input.ts", "f(a)".toList⟩ hiddenGaps
  obtain ⟨-, helse, -⟩ := translate_fails_iff .python ⟨"input.ts", "f(a)".toList⟩ emptyElse
  refine ⟨?_, helse _ herror⟩
  intro m hm holder field hmisses
  obtain ⟨e, he⟩ := hhidden.2 ⟨m, hm, holder, field, hmisses⟩
  obtain ⟨doc, hdoc⟩ := hok
  rw [hdoc] at he
  cases he

end TreeScribe
