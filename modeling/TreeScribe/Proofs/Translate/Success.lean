import TreeScribe.Proofs.Translate.Equation

/-!
# When a translation succeeds

Main statements: a rendering has a document exactly when all of its demands are met and all nodes
that it visits have one (`succeeds_apply_iff`), for every rendering but a refusal; a tree translates
if the demands of all of its nodes are met (`translate_succeeds`).
-/

namespace TreeScribe

open Traced

/-- The child is there. -/
def Demand.Met (d : Demand) : Prop := d.found?.isSome = true

section Helpers

variable {visit : Node → Traced Doc}

theorem succeeds_visitAll_iff {ns : List Node} :
    (visitAll visit ns).Succeeds ↔ ∀ n ∈ ns, (visit n).Succeeds := by
  induction ns with
  | nil => simp [visitAll]
  | cons n ns ih =>
    have hrest : ∀ d, (visitAll visit ns >>= fun ds => (pure (d :: ds) : Traced (List Doc))).Succeeds ↔
        ∀ m ∈ ns, (visit m).Succeeds := fun d => by
      rw [succeeds_bind_const_iff (fun _ => iff_of_true (succeeds_pure _) trivial), and_true, ih]
    rw [visitAll, succeeds_bind_const_iff hrest, List.forall_mem_cons]

/-- A computation is as successful as one whose value is only wrapped. -/
theorem succeeds_bind_pure_iff {α β : Type} {x : Traced α} {f : α → β} :
    (x >>= fun a => pure (f a)).Succeeds ↔ x.Succeeds := by
  rw [succeeds_bind_const_iff (fun _ => iff_of_true (succeeds_pure _) trivial), and_true]

/-- Two computations in a row whose values are only put together. -/
theorem succeeds_bind_bind_pure_iff {α β γ : Type} {x : Traced α} {y : Traced β} {f : α → β → γ} :
    (x >>= fun a => y >>= fun b => pure (f a b)).Succeeds ↔ x.Succeeds ∧ y.Succeeds :=
  succeeds_bind_const_iff fun _ => succeeds_bind_pure_iff

theorem succeeds_visitConcat_iff {ns : List Node} :
    (visitConcat visit ns).Succeeds ↔ ∀ n ∈ ns, (visit n).Succeeds :=
  succeeds_bind_pure_iff.trans succeeds_visitAll_iff

theorem succeeds_visitSeparated_iff {ns : List Node} {between : List Char} :
    (visitSeparated visit ns between).Succeeds ↔ ∀ n ∈ ns, (visit n).Succeeds :=
  succeeds_bind_pure_iff.trans succeeds_visitAll_iff

theorem succeeds_visitOptional_iff {o : Option Node} :
    (visitOptional visit o).Succeeds ↔ ∀ n ∈ o.toList, (visit n).Succeeds := by
  cases o <;> simp [visitOptional]

theorem succeeds_visitBranch_iff {n : Node} :
    (visitBranch visit n).Succeeds ↔ (visit n).Succeeds := by
  unfold visitBranch
  split
  · rfl
  · exact succeeds_bind_pure_iff

theorem succeeds_visitElse_iff {n : Node} :
    (visitElse visit n).Succeeds ↔ (visit n).Succeeds := by
  unfold visitElse
  split
  · exact succeeds_bind_pure_iff
  · exact succeeds_bind_pure_iff.trans succeeds_visitBranch_iff

/-- A child that is asked for is there, and the rest succeeds with it. -/
theorem succeeds_demand_bind_iff {α : Type} {n : Node} {field : String} {found? : Option Node}
    {f : Node → Traced α} :
    (n.demand field found? >>= f).Succeeds ↔
      Demand.Met ⟨n, field, found?⟩ ∧ ∀ c ∈ found?.toList, (f c).Succeeds := by
  rw [succeeds_bind_iff, Demand.Met]
  cases found? <;> simp [Node.outcome_demand_eq_ok_iff]

theorem succeeds_require_bind_iff {α : Type} {n : Node} {field : String} {f : Node → Traced α} :
    (n.require field >>= f).Succeeds ↔
      (n.demandField field).Met ∧ ∀ c ∈ (n.child? field).toList, (f c).Succeeds :=
  succeeds_demand_bind_iff

end Helpers

section Renderings

variable (file : SourceFile) {visit : Node → Traced Doc}

theorem Filling.succeeds_parts_iff (n : Node) (filling : Filling) :
    (filling.parts file visit n).Succeeds ↔
      (∀ d ∈ filling.demands n, d.Met) ∧ ∀ m ∈ filling.visited n, (visit m).Succeeds := by
  cases filling <;>
    simp only [Filling.parts, Filling.demands, Filling.visited, List.forall_mem_singleton,
      List.not_mem_nil, false_implies, implies_true, true_and, succeeds_pure]
  case all => exact succeeds_visitAll_iff
  case nodes | named => exact succeeds_bind_pure_iff.trans succeeds_visitConcat_iff
  case first | field => exact succeeds_bind_pure_iff.trans succeeds_visitOptional_iff
  case separated | separatedAll =>
    exact succeeds_bind_pure_iff.trans succeeds_visitSeparated_iff
  case required name =>
    rw [succeeds_require_bind_iff]
    simp only [succeeds_bind_pure_iff]

/-- What an import is asked for decides whether its module is found. -/
theorem Node.succeeds_importedModule_iff (n : Node) (source : List Char) :
    (n.importedModule source).Succeeds ↔ ∀ d ∈ n.importDemands, d.Met := by
  unfold Node.importedModule Node.importDemands
  cases n.child? "source" with
  | some s => simp
  | none =>
    cases n.childOfKind? requireClause with
    | some clause => simp [succeeds_demand_bind_iff]
    | none => simp [succeeds_demand_bind_iff]

/-- **When a rendering has a document**: all of its demands are met, and every node that it visits
has a document. -/
theorem Rendering.succeeds_apply_iff (n : Node) (r : Rendering) (hr : ∀ e, r ≠ .refusal e) :
    (r.apply file visit n).Succeeds ↔
      (∀ d ∈ r.demands n, d.Met) ∧ ∀ m ∈ r.visited n, (visit m).Succeeds := by
  cases r <;>
    simp only [Rendering.apply, Rendering.demands, Rendering.visited, List.forall_mem_cons,
      List.forall_mem_append, List.forall_mem_map, List.forall_mem_flatMap, List.not_mem_nil,
      false_implies, implies_true, true_and, and_true, succeeds_pure, succeeds_require_bind_iff,
      succeeds_demand_bind_iff]
  case marker =>
    rw [renderMarker, succeeds_bind_const_iff fun _ => succeeds_bind_pure_iff]
    simp [succeeds_visitAll_iff]
  case lines => exact succeeds_visitSeparated_iff
  case braces | suite => cases n.statements? <;> simp [succeeds_bind_pure_iff]
  case returned => cases n.firstNamed? <;> simp [succeeds_bind_pure_iff]
  case operation =>
    simp only [succeeds_bind_bind_pure_iff, Demand.Met, Node.demandField]
    cases n.child? "left" <;> cases n.operator? <;> cases n.child? "right" <;> simp
  case access =>
    simp only [succeeds_bind_bind_pure_iff, Demand.Met, Node.demandField]
    cases n.child? "object" <;> cases n.child? "property" <;> simp
  case call =>
    simp only [succeeds_bind_bind_pure_iff, succeeds_visitSeparated_iff, Demand.Met,
      Node.demandField]
    cases n.child? "function" <;> cases n.child? "arguments" <;> simp
  case firstNamed => exact succeeds_visitOptional_iff
  case importedModule =>
    exact succeeds_bind_pure_iff.trans (n.succeeds_importedModule_iff file.text)
  case definition =>
    have hseq : ∀ name parameters body : Node,
        (do
          let name ← visit name
          let parameters ← visitSeparated visit parameters.namedChildren [',', ' ']
          let body ← visit body
          pure (Doc.concat
            [.plain ("def ".toList) [name, .text ['('], parameters, .text [')']], body])).Succeeds ↔
        (visit name).Succeeds ∧ (∀ m ∈ parameters.namedChildren, (visit m).Succeeds) ∧
          (visit body).Succeeds := fun name parameters body =>
      succeeds_bind_const_iff fun _ => succeeds_bind_bind_pure_iff.trans
        (and_congr_left' succeeds_visitSeparated_iff)
    simp only [hseq, Demand.Met, Node.demandField]
    cases n.child? "name" <;> cases n.child? "parameters" <;> cases n.child? "body" <;>
      simp [and_assoc]
  case branches =>
    simp only [Demand.Met, Node.demandField]
    cases halternative : n.child? "alternative" with
    | none =>
      simp only [succeeds_bind_bind_pure_iff, succeeds_visitBranch_iff]
      cases n.child? "condition" <;> cases n.child? "consequence" <;> simp
    | some alternative =>
      have helse : ∀ first : Doc,
          (do
            let statement ← alternative.demand "statement" alternative.firstNamed?
            let second ← visitElse visit statement
            pure (Doc.concat [first, second])).Succeeds ↔
          alternative.firstNamed?.isSome = true ∧
            ∀ m ∈ alternative.firstNamed?.toList, (visit m).Succeeds := fun first => by
        simp only [succeeds_demand_bind_iff, Demand.Met, succeeds_bind_pure_iff,
          succeeds_visitElse_iff]
      have hseq : ∀ condition consequence : Node,
          (do
            let condition ← visit condition
            let consequence ← visitBranch visit consequence
            let statement ← alternative.demand "statement" alternative.firstNamed?
            let second ← visitElse visit statement
            pure (Doc.concat [Doc.plain ("if ".toList) [condition, consequence], second])).Succeeds ↔
          (visit condition).Succeeds ∧ (visit consequence).Succeeds ∧
            alternative.firstNamed?.isSome = true ∧
              ∀ m ∈ alternative.firstNamed?.toList, (visit m).Succeeds :=
        fun condition consequence => succeeds_bind_const_iff fun c =>
          (succeeds_bind_const_iff fun b => helse (Doc.plain ("if ".toList) [c, b])).trans
            (and_congr_left' succeeds_visitBranch_iff)
      simp only [hseq]
      cases n.child? "condition" <;> cases n.child? "consequence" <;>
        simp [and_assoc, and_left_comm]
  case recipe recipe => exact succeeds_bind_pure_iff.trans (recipe.filling.succeeds_parts_iff file n)
  case refusal e => exact absurd rfl (hr e)

/-- No role is refused. -/
def Scheme.NeverRefuses (scheme : Scheme) : Prop := ∀ role e, scheme role ≠ .refusal e

/-- When a node has a document under a scheme. -/
theorem succeeds_renderNode_iff {scheme : Scheme} (hs : scheme.NeverRefuses) (n : Node) :
    (renderNode file visit scheme n).Succeeds ↔
      (∀ d ∈ scheme.demands n, d.Met) ∧ ∀ m ∈ scheme.visited n, (visit m).Succeeds := by
  unfold renderNode Scheme.demands Scheme.visited Scheme.rendering?
  cases n.kind with
  | sourceFile => simpa using succeeds_visitConcat_iff
  | punctuation => simpa using succeeds_visitConcat_iff
  | role role => exact (scheme role).succeeds_apply_iff file n (hs role)
  | other name => exact Rendering.succeeds_apply_iff file n .marker (fun _ => by simp)

end Renderings

/-- **A tree translates if every node of it has what its rendering demands.** -/
theorem Node.translate_succeeds (file : SourceFile) {scheme : Scheme} (hs : scheme.NeverRefuses)
    (n : Node) (h : ∀ m ∈ n.nodes, ∀ d ∈ scheme.demands m, d.Met) :
    (n.translate file scheme).Succeeds := by
  rw [translate_eq, succeeds_renderNode_iff file hs]
  refine ⟨h n (mem_nodes_self n), fun m hm => ?_⟩
  have hbelow := scheme.mem_descendants_of_mem_visited hm
  have hlower := height_lt_of_mem_descendants hbelow
  have hnodes : m ∈ n.nodes := mem_nodes_iff.2 (.inr hbelow)
  exact translate_succeeds file hs m fun k hk => h k (mem_nodes_trans n hk hnodes)
termination_by n.height

end TreeScribe
