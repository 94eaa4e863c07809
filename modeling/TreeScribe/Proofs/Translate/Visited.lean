import TreeScribe.Translate
import TreeScribe.Proofs.Node.Descendants
import TreeScribe.Proofs.Traced

/-!
# What a rendering looks at

A rendering asks for some children that it cannot do without, its demands, and translates some nodes
below, in a fixed order.  Main statement: whatever a rendering translates stands below the node, so
that translating goes down the tree (`mem_descendants_of_mem_visited`).
-/

namespace TreeScribe

open Traced

/-- A child that a rendering cannot do without: the node that should have it, the name that an error
gives it, and the child, if it is there. -/
structure Demand where
  holder : Node
  field : String
  found? : Option Node

namespace Node

/-- A demand for the child in a field. -/
def demandField (n : Node) (field : String) : Demand := ⟨n, field, n.child? field⟩

/-- What an import is asked for. -/
def importDemands (n : Node) : List Demand :=
  match n.child? "source" with
  | some _ => []
  | none =>
    match n.childOfKind? requireClause with
    | some clause =>
      [⟨clause, "source",
        (clause.child? "source").or (clause.childOfKind? (.role .stringLiteral))⟩]
    | none => [⟨n, "source", n.namedChildren.getLast?⟩]

end Node

/-- What a recipe asks of a node. -/
def Filling.demands (n : Node) : Filling → List Demand
  | .required name => [n.demandField name]
  | _ => []

/-- The nodes that a recipe translates, in order. -/
def Filling.visited (n : Node) : Filling → List Node
  | .all | .nodes | .separatedAll _ => n.children
  | .named | .separated _ => n.namedChildren
  | .first => n.firstNamed?.toList
  | .field name | .required name => (n.child? name).toList
  | .text | .verbatim | .kind | .path | .nothing => []

/-- What a rendering asks of a node. -/
def Rendering.demands (n : Node) : Rendering → List Demand
  | .operation => [n.demandField "left", ⟨n, "operator", n.operator?⟩, n.demandField "right"]
  | .access => [n.demandField "object", n.demandField "property"]
  | .call => [n.demandField "function", n.demandField "arguments"]
  | .importedModule => n.importDemands
  | .definition => [n.demandField "name", n.demandField "parameters", n.demandField "body"]
  | .pattern => [n.demandField "pattern"]
  | .branches =>
    [n.demandField "condition", n.demandField "consequence"] ++
      (n.child? "alternative").toList.map fun a => ⟨a, "statement", a.firstNamed?⟩
  | .recipe r => r.filling.demands n
  | _ => []

/-- The nodes that a rendering translates, in order. -/
def Rendering.visited (n : Node) : Rendering → List Node
  | .marker | .lines => n.children
  | .rawText | .quotedValue | .importedModule | .snakeName | .refusal _ => []
  | .braces | .suite => n.statements?.toList
  | .returned | .firstNamed => n.firstNamed?.toList
  | .operation => (n.child? "left").toList ++ (n.child? "right").toList
  | .access => (n.child? "object").toList ++ (n.child? "property").toList
  | .call =>
    (n.child? "function").toList ++ (n.child? "arguments").toList.flatMap Node.namedChildren
  | .definition =>
    (n.child? "name").toList ++ (n.child? "parameters").toList.flatMap Node.namedChildren ++
      (n.child? "body").toList
  | .pattern => (n.child? "pattern").toList
  | .branches =>
    (n.child? "condition").toList ++ (n.child? "consequence").toList ++
      (n.child? "alternative").toList.flatMap fun a => a.firstNamed?.toList
  | .recipe r => r.filling.visited n

/-- The rendering of a node under a scheme: nodes without a role are marked, the structure of a file
apart. -/
def Scheme.rendering? (scheme : Scheme) (n : Node) : Option Rendering :=
  match n.kind with
  | .sourceFile | .punctuation => none
  | .role role => some (scheme role)
  | .other _ => some .marker

/-- What a scheme asks of a node. -/
def Scheme.demands (scheme : Scheme) (n : Node) : List Demand :=
  ((scheme.rendering? n).map (·.demands n)).getD []

/-- The nodes that a scheme translates for a node, in order. -/
def Scheme.visited (scheme : Scheme) (n : Node) : List Node :=
  ((scheme.rendering? n).map (·.visited n)).getD n.children

theorem Scheme.visited_of_role {scheme : Scheme} {n : Node} {role : Role}
    (h : n.kind = .role role) :
    scheme.visited n = (scheme role).visited n := by
  simp [visited, rendering?, h]

/-- Only nodes with a role are asked for anything. -/
theorem Scheme.mem_demands_iff {scheme : Scheme} {n : Node} {d : Demand} :
    d ∈ scheme.demands n ↔ ∃ role, n.kind = .role role ∧ d ∈ (scheme role).demands n := by
  unfold Scheme.demands Scheme.rendering?
  cases n.kind <;> simp [Rendering.demands]

/-! ## Visited nodes are descendants -/

namespace Node

theorem mem_children_of_statements? {list n : Node} (h : n.statements? = some list) :
    list ∈ n.children := by
  obtain ⟨hlist, -⟩ := Option.filter_eq_some_iff.1 h
  exact mem_children_of_childOfKind? hlist

theorem mem_descendants_of_mem_toList {o : Option Node} {m n : Node}
    (h : ∀ c, o = some c → c ∈ n.children) (hm : m ∈ o.toList) : m ∈ n.descendants :=
  mem_descendants_of_mem_children (h m (Option.mem_toList.1 hm))

theorem mem_descendants_of_mem_child?_toList {m n : Node} {field : String}
    (h : m ∈ (n.child? field).toList) : m ∈ n.descendants :=
  mem_descendants_of_mem_toList (fun _ => mem_children_of_child?) h

theorem mem_descendants_of_mem_flatMap {m n : Node} {field : String} {f : Node → List Node}
    (hf : ∀ c, ∀ k ∈ f c, k ∈ c.children) (h : m ∈ (n.child? field).toList.flatMap f) :
    m ∈ n.descendants := by
  obtain ⟨c, hc, hm⟩ := List.mem_flatMap.1 h
  have hchild := mem_children_of_child? (Option.mem_toList.1 hc)
  exact mem_descendants_of_mem_child hchild (mem_descendants_of_mem_children (hf c m hm))

end Node

theorem Filling.mem_descendants_of_mem_visited {m n : Node} (filling : Filling)
    (h : m ∈ filling.visited n) : m ∈ n.descendants := by
  cases filling <;> simp only [Filling.visited, List.not_mem_nil] at h
  case all | nodes | separatedAll => exact Node.mem_descendants_of_mem_children h
  case named | separated =>
    exact Node.mem_descendants_of_mem_children (Node.mem_children_of_mem_namedChildren h)
  case first =>
    exact Node.mem_descendants_of_mem_toList (fun _ => Node.mem_children_of_firstNamed?) h
  case field | required => exact Node.mem_descendants_of_mem_child?_toList h

/-- A rendering looks below the node, never at it again or above it. -/
theorem Rendering.mem_descendants_of_mem_visited {m n : Node} (r : Rendering)
    (h : m ∈ r.visited n) : m ∈ n.descendants := by
  have hnamed : ∀ c : Node, ∀ k ∈ c.namedChildren, k ∈ c.children := fun _ _ =>
    Node.mem_children_of_mem_namedChildren
  have hfirst : ∀ c : Node, ∀ k ∈ c.firstNamed?.toList, k ∈ c.children := fun _ _ hk =>
    Node.mem_children_of_firstNamed? (Option.mem_toList.1 hk)
  cases r <;> simp only [Rendering.visited, List.mem_append, List.not_mem_nil] at h
  case marker | lines => exact Node.mem_descendants_of_mem_children h
  case braces | suite =>
    exact Node.mem_descendants_of_mem_toList (fun _ => Node.mem_children_of_statements?) h
  case returned | firstNamed =>
    exact Node.mem_descendants_of_mem_toList (fun _ => Node.mem_children_of_firstNamed?) h
  case operation | access =>
    rcases h with h | h <;> exact Node.mem_descendants_of_mem_child?_toList h
  case call =>
    rcases h with h | h
    · exact Node.mem_descendants_of_mem_child?_toList h
    · exact Node.mem_descendants_of_mem_flatMap hnamed h
  case definition =>
    rcases h with (h | h) | h
    · exact Node.mem_descendants_of_mem_child?_toList h
    · exact Node.mem_descendants_of_mem_flatMap hnamed h
    · exact Node.mem_descendants_of_mem_child?_toList h
  case pattern => exact Node.mem_descendants_of_mem_child?_toList h
  case branches =>
    rcases h with (h | h) | h
    · exact Node.mem_descendants_of_mem_child?_toList h
    · exact Node.mem_descendants_of_mem_child?_toList h
    · exact Node.mem_descendants_of_mem_flatMap hfirst h
  case recipe recipe => exact recipe.filling.mem_descendants_of_mem_visited h

theorem Scheme.mem_descendants_of_mem_visited {m n : Node} (scheme : Scheme)
    (h : m ∈ scheme.visited n) : m ∈ n.descendants := by
  unfold Scheme.visited at h
  cases hr : scheme.rendering? n with
  | none =>
    rw [hr] at h
    exact Node.mem_descendants_of_mem_children h
  | some r =>
    rw [hr] at h
    exact r.mem_descendants_of_mem_visited h

end TreeScribe
