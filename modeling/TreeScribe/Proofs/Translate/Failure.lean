import Mathlib.Logic.Relation
import TreeScribe.Proofs.Translate.Success

/-!
# How translations fail

A rendering fails with the error of a demand that is not met, or with the error of a node that it
translates.  It asks for what it needs before it goes on to the nodes below, the statement of an
alternative apart, which it asks for behind the first branch.

Main statements: every error of a rendering comes from one of these two sources
(`Rendering.apply_failsOnly`), so every error of a tree is that of a demand of a node which the
translation comes to (`Node.translate_failsOnly`), and a tree with such a node does not translate
(`Node.not_succeeds_of_visited`).
-/

namespace TreeScribe

open Traced

/-- The error of a demand that is not met. -/
def Demand.error (d : Demand) : TranslateError := .missingChild d.holder.kind d.field

/-! ## Errors of traced computations -/

namespace Traced

variable {α β : Type} {P : TranslateError → Prop}

/-- If the computation fails, its error satisfies `P`. -/
def FailsOnly (x : Traced α) (P : TranslateError → Prop) : Prop :=
  ∀ e, x.outcome = .error e → P e

theorem failsOnly_pure (a : α) : (pure a : Traced α).FailsOnly P := by
  intro e he
  cases he

theorem failsOnly_report (e : Event) : (report e).FailsOnly P := by
  intro e he
  cases he

theorem failsOnly_fail {e : TranslateError} (h : P e) : (fail e : Traced α).FailsOnly P := by
  intro e' he'
  cases he'
  exact h

/-- **Two computations in a row**: the second one counts only behind a value of the first. -/
theorem FailsOnly.bind {x : Traced α} {f : α → Traced β} (hx : x.FailsOnly P)
    (hf : ∀ a, x.outcome = .ok a → (f a).FailsOnly P) : (x >>= f).FailsOnly P := by
  intro e he
  cases h : x.outcome with
  | error e' =>
    rw [bind_of_error h] at he
    cases he
    exact hx e h
  | ok a =>
    rw [bind_of_ok h] at he
    exact hf a h e he

/-- A computation whose value is only wrapped. -/
theorem FailsOnly.map {x : Traced α} {f : α → β} (hx : x.FailsOnly P) :
    (x >>= fun a => pure (f a)).FailsOnly P :=
  hx.bind fun a _ => failsOnly_pure (f a)

/-- A child that is asked for: the computation fails without it, or goes on with it. -/
theorem failsOnly_demand_bind {n : Node} {field : String} {found? : Option Node}
    {f : Node → Traced α} (hnone : ¬ Demand.Met ⟨n, field, found?⟩ → P (.missingChild n.kind field))
    (hsome : ∀ c, found? = some c → (f c).FailsOnly P) :
    (n.demand field found? >>= f).FailsOnly P := by
  cases hfound : found? with
  | none =>
    have herror : P (.missingChild n.kind field) := hnone (by simp [Demand.Met, hfound])
    exact (failsOnly_fail herror).bind fun c hc => by cases hc
  | some c =>
    have hbind : n.demand field (some c) >>= f = f c := bind_of_ok rfl f
    rw [hbind]
    exact hsome c hfound

theorem failsOnly_require_bind {n : Node} {field : String} {f : Node → Traced α}
    (hnone : ¬ (n.demandField field).Met → P (n.demandField field).error)
    (hsome : ∀ c, n.child? field = some c → (f c).FailsOnly P) :
    (n.require field >>= f).FailsOnly P :=
  failsOnly_demand_bind hnone hsome

end Traced

section Renderings

variable {file : SourceFile} {visit : Node → Traced Doc} {P : TranslateError → Prop}

/-! ## Helpers of renderings -/

theorem visitAll_failsOnly {ns : List Node} (h : ∀ m ∈ ns, (visit m).FailsOnly P) :
    (visitAll visit ns).FailsOnly P := by
  induction ns with
  | nil => exact failsOnly_pure []
  | cons n ns ih =>
    have hn : (visit n).FailsOnly P := h n (List.mem_cons_self ..)
    have hns : (visitAll visit ns).FailsOnly P := ih fun m hm => h m (List.mem_cons_of_mem _ hm)
    exact hn.bind fun d _ => hns.map

theorem visitConcat_failsOnly {ns : List Node} (h : ∀ m ∈ ns, (visit m).FailsOnly P) :
    (visitConcat visit ns).FailsOnly P :=
  (visitAll_failsOnly h).map

theorem visitSeparated_failsOnly {ns : List Node} (between : List Char)
    (h : ∀ m ∈ ns, (visit m).FailsOnly P) : (visitSeparated visit ns between).FailsOnly P :=
  (visitAll_failsOnly h).map

theorem visitOptional_failsOnly {o : Option Node} (h : ∀ m ∈ o.toList, (visit m).FailsOnly P) :
    (visitOptional visit o).FailsOnly P := by
  cases o with
  | none => exact failsOnly_pure Doc.empty
  | some n => exact h n (List.mem_singleton_self n)

theorem visitBranch_failsOnly {n : Node} (h : (visit n).FailsOnly P) :
    (visitBranch visit n).FailsOnly P := by
  unfold visitBranch
  split
  · exact h
  · exact h.map

theorem visitElse_failsOnly {n : Node} (h : (visit n).FailsOnly P) :
    (visitElse visit n).FailsOnly P := by
  unfold visitElse
  split
  · exact h.map
  · exact (visitBranch_failsOnly h).map

theorem renderMarker_failsOnly {n : Node} (h : ∀ m ∈ n.children, (visit m).FailsOnly P) :
    (renderMarker file visit n).FailsOnly P :=
  (failsOnly_report _).bind fun _ _ => (visitAll_failsOnly h).map

theorem Node.importedModule_failsOnly {n : Node} (source : List Char)
    (hlack : ∀ d ∈ n.importDemands, ¬ d.Met → P d.error) :
    (n.importedModule source).FailsOnly P := by
  unfold Node.importedModule
  unfold Node.importDemands at hlack
  cases hsource : n.child? "source" with
  | some s => exact failsOnly_pure _
  | none =>
    cases hclause : n.childOfKind? requireClause with
    | some clause =>
      rw [hsource, hclause] at hlack
      exact failsOnly_demand_bind (hlack _ (List.mem_singleton_self _)) fun _ _ => failsOnly_pure _
    | none =>
      rw [hsource, hclause] at hlack
      exact failsOnly_demand_bind (hlack _ (List.mem_singleton_self _)) fun _ _ => failsOnly_pure _

theorem Filling.parts_failsOnly {n : Node} (filling : Filling)
    (hlack : ∀ d ∈ filling.demands n, ¬ d.Met → P d.error)
    (hbelow : (∀ d ∈ filling.demands n, d.Met) → ∀ m ∈ filling.visited n, (visit m).FailsOnly P) :
    (filling.parts file visit n).FailsOnly P := by
  cases filling <;>
    simp only [Filling.parts, Filling.demands, Filling.visited, List.forall_mem_singleton,
      List.not_mem_nil, false_implies, implies_true, true_implies] at hlack hbelow ⊢
  case all => exact visitAll_failsOnly hbelow
  case nodes | named => exact (visitConcat_failsOnly hbelow).map
  case first | field => exact (visitOptional_failsOnly hbelow).map
  case separated between | separatedAll between =>
    exact (visitSeparated_failsOnly between hbelow).map
  case required name =>
    refine failsOnly_require_bind hlack fun c hc => ?_
    have hmet : (n.demandField name).Met := by simp [Demand.Met, Node.demandField, hc]
    have hchild : (visit c).FailsOnly P := hbelow hmet c (by simp [hc])
    exact hchild.map
  case text | verbatim | kind | path | nothing => exact failsOnly_pure _

/-! ## Renderings -/

/-- What a rendering asks of a node before it goes on to the nodes below. -/
def Rendering.lookups (n : Node) : Rendering → List Demand
  | .branches => [n.demandField "condition", n.demandField "consequence"]
  | r => r.demands n

/-- **Where the errors of a rendering come from**: a demand that is not met, or a node below, to
which the rendering goes on only if it has found what it asks for before. -/
theorem Rendering.apply_failsOnly {n : Node} (r : Rendering) (hr : ∀ e, r ≠ .refusal e)
    (hlack : ∀ d ∈ r.demands n, ¬ d.Met → P d.error)
    (hbelow : (∀ d ∈ r.lookups n, d.Met) → ∀ m ∈ r.visited n, (visit m).FailsOnly P) :
    (r.apply file visit n).FailsOnly P := by
  cases r <;>
    simp only [Rendering.apply, Rendering.demands, Rendering.lookups, Rendering.visited,
      List.forall_mem_cons, List.forall_mem_append, List.forall_mem_map, List.forall_mem_flatMap,
      List.not_mem_nil, false_implies, implies_true, true_implies, and_true]
      at hlack hbelow ⊢
  case marker => exact renderMarker_failsOnly hbelow
  case rawText | quotedValue | snakeName => exact failsOnly_pure _
  case lines => exact visitSeparated_failsOnly ['\n'] hbelow
  case braces | suite =>
    cases hlist : n.statements? with
    | none => exact failsOnly_pure _
    | some list =>
      have hinner : (visit list).FailsOnly P := hbelow list (by simp [hlist])
      exact hinner.map
  case returned =>
    cases hfirst : n.firstNamed? with
    | none => exact failsOnly_pure _
    | some expression =>
      have hinner : (visit expression).FailsOnly P := hbelow expression (by simp [hfirst])
      exact hinner.map
  case operation =>
    obtain ⟨hleft, hoperator, hright⟩ := hlack
    refine failsOnly_require_bind hleft fun left hl => ?_
    refine failsOnly_demand_bind hoperator fun operator ho => ?_
    refine failsOnly_require_bind hright fun right hr => ?_
    obtain ⟨hbelowLeft, hbelowRight⟩ := hbelow (by simp [Demand.Met, Node.demandField, hl, ho, hr])
    have hleftDoc : (visit left).FailsOnly P := hbelowLeft left (by simp [hl])
    have hrightDoc : (visit right).FailsOnly P := hbelowRight right (by simp [hr])
    exact hleftDoc.bind fun _ _ => hrightDoc.map
  case access =>
    obtain ⟨hobject, hproperty⟩ := hlack
    refine failsOnly_require_bind hobject fun object ho => ?_
    refine failsOnly_require_bind hproperty fun property hp => ?_
    obtain ⟨hbelowObject, hbelowProperty⟩ := hbelow (by simp [Demand.Met, Node.demandField, ho, hp])
    have hobjectDoc : (visit object).FailsOnly P := hbelowObject object (by simp [ho])
    have hpropertyDoc : (visit property).FailsOnly P := hbelowProperty property (by simp [hp])
    exact hobjectDoc.bind fun _ _ => hpropertyDoc.map
  case call =>
    obtain ⟨hcallee, harguments⟩ := hlack
    refine failsOnly_require_bind hcallee fun callee hc => ?_
    refine failsOnly_require_bind harguments fun arguments ha => ?_
    obtain ⟨hbelowCallee, hbelowArguments⟩ :=
      hbelow (by simp [Demand.Met, Node.demandField, hc, ha])
    have hcalleeDoc : (visit callee).FailsOnly P := hbelowCallee callee (by simp [hc])
    have hargumentDocs : ∀ m ∈ arguments.namedChildren, (visit m).FailsOnly P :=
      hbelowArguments arguments (by simp [ha])
    exact hcalleeDoc.bind fun _ _ => (visitSeparated_failsOnly _ hargumentDocs).map
  case firstNamed => exact visitOptional_failsOnly hbelow
  case importedModule => exact (n.importedModule_failsOnly file.text hlack).map
  case definition =>
    obtain ⟨hname, hparameters, hbody⟩ := hlack
    refine failsOnly_require_bind hname fun name hn => ?_
    refine failsOnly_require_bind hparameters fun parameters hp => ?_
    refine failsOnly_require_bind hbody fun body hb => ?_
    obtain ⟨⟨hbelowName, hbelowParameters⟩, hbelowBody⟩ :=
      hbelow (by simp [Demand.Met, Node.demandField, hn, hp, hb])
    have hnameDoc : (visit name).FailsOnly P := hbelowName name (by simp [hn])
    have hparameterDocs : ∀ m ∈ parameters.namedChildren, (visit m).FailsOnly P :=
      hbelowParameters parameters (by simp [hp])
    have hbodyDoc : (visit body).FailsOnly P := hbelowBody body (by simp [hb])
    exact hnameDoc.bind fun _ _ => (visitSeparated_failsOnly _ hparameterDocs).bind fun _ _ =>
      hbodyDoc.map
  case pattern =>
    refine failsOnly_require_bind hlack fun pattern hp => ?_
    exact hbelow (by simp [Demand.Met, Node.demandField, hp]) pattern (by simp [hp])
  case branches =>
    obtain ⟨⟨hcondition, hconsequence⟩, hstatement⟩ := hlack
    refine failsOnly_require_bind hcondition fun condition hc => ?_
    refine failsOnly_require_bind hconsequence fun consequence hq => ?_
    obtain ⟨⟨hbelowCondition, hbelowConsequence⟩, hbelowStatement⟩ :=
      hbelow (by simp [Demand.Met, Node.demandField, hc, hq])
    have hconditionDoc : (visit condition).FailsOnly P := hbelowCondition condition (by simp [hc])
    have hconsequenceDoc : (visit consequence).FailsOnly P :=
      hbelowConsequence consequence (by simp [hq])
    refine hconditionDoc.bind fun _ _ => (visitBranch_failsOnly hconsequenceDoc).bind fun _ _ => ?_
    cases halternative : n.child? "alternative" with
    | none => exact failsOnly_pure _
    | some alternative =>
      refine failsOnly_demand_bind (hstatement alternative (by simp [halternative])) fun s hs => ?_
      have hstatementDoc : (visit s).FailsOnly P :=
        hbelowStatement alternative (by simp [halternative]) s (by simp [hs])
      exact (visitElse_failsOnly hstatementDoc).map
  case recipe recipe => exact (recipe.filling.parts_failsOnly hlack hbelow).map
  case refusal e => exact absurd rfl (hr e)

theorem Rendering.mem_demands_of_mem_lookups {n : Node} {d : Demand} (r : Rendering)
    (h : d ∈ r.lookups n) : d ∈ r.demands n := by
  unfold Rendering.lookups at h
  split at h
  · exact List.mem_append_left _ h
  · exact h

/-- What a scheme asks of a node before it goes on to the nodes below. -/
def Scheme.lookups (scheme : Scheme) (n : Node) : List Demand :=
  ((scheme.rendering? n).map (·.lookups n)).getD []

theorem Scheme.lookups_of_role {scheme : Scheme} {n : Node} {role : Role}
    (h : n.kind = .role role) :
    scheme.lookups n = (scheme role).lookups n := by
  simp [lookups, rendering?, h]

theorem Scheme.mem_demands_of_mem_lookups {scheme : Scheme} {n : Node} {d : Demand}
    (h : d ∈ scheme.lookups n) : d ∈ scheme.demands n := by
  unfold lookups at h
  unfold demands
  cases hr : scheme.rendering? n with
  | none => simp [hr] at h
  | some r =>
    rw [hr] at h
    exact r.mem_demands_of_mem_lookups h

/-- **The step of a failure.**  An error of a node is that of a demand, or of a node below. -/
theorem renderNode_failsOnly {scheme : Scheme} (hs : scheme.NeverRefuses) (n : Node)
    (hlack : ∀ d ∈ scheme.demands n, ¬ d.Met → P d.error)
    (hbelow : (∀ d ∈ scheme.lookups n, d.Met) → ∀ m ∈ scheme.visited n, (visit m).FailsOnly P) :
    (renderNode file visit scheme n).FailsOnly P := by
  unfold renderNode
  unfold Scheme.demands Scheme.rendering? at hlack
  unfold Scheme.lookups Scheme.visited Scheme.rendering? at hbelow
  cases hkind : n.kind <;> rw [hkind] at hlack hbelow
  case sourceFile | punctuation =>
    exact visitConcat_failsOnly (hbelow fun d hd => absurd hd List.not_mem_nil)
  case role role => exact (scheme role).apply_failsOnly (hs role) hlack hbelow
  case other name => exact Rendering.apply_failsOnly .marker (fun _ => by simp) hlack hbelow

end Renderings

/-! ## Whole trees -/

/-- A translation goes on from a node to one below: it finds what it asks for before, and translates
the other node. -/
def Scheme.GoesOn (scheme : Scheme) (n m : Node) : Prop :=
  (∀ d ∈ scheme.lookups n, d.Met) ∧ m ∈ scheme.visited n

variable (file : SourceFile) {scheme : Scheme}

/-- **An error of a tree is that of a demand** of a node which the translation comes to. -/
theorem Node.translate_failsOnly {P : TranslateError → Prop} (hs : scheme.NeverRefuses) (n : Node)
    (h : ∀ m, Relation.ReflTransGen scheme.GoesOn n m →
      ∀ d ∈ scheme.demands m, ¬ d.Met → P d.error) :
    (n.translate file scheme).FailsOnly P := by
  rw [translate_eq]
  refine renderNode_failsOnly hs n (h n .refl) fun hmet m hm => ?_
  have hbelow : m ∈ n.descendants := scheme.mem_descendants_of_mem_visited hm
  have hlower : m.height < n.height := height_lt_of_mem_descendants hbelow
  exact translate_failsOnly hs m fun k hk => h k (.head ⟨hmet, hm⟩ hk)
termination_by n.height

/-- **A demand that is not met is fatal** wherever nodes are visited. -/
theorem Node.not_succeeds_of_visited (hs : scheme.NeverRefuses) {n m : Node}
    (hvisited : Relation.ReflTransGen (fun n m => m ∈ scheme.visited n) n m) {d : Demand}
    (hd : d ∈ scheme.demands m) (hunmet : ¬ d.Met) : ¬ (n.translate file scheme).Succeeds := by
  induction hvisited using Relation.ReflTransGen.head_induction_on with
  | refl =>
    rw [translate_eq, succeeds_renderNode_iff file hs]
    rintro ⟨hmet, -⟩
    exact hunmet (hmet d hd)
  | head hstep _ ih =>
    rw [translate_eq, succeeds_renderNode_iff file hs]
    rintro ⟨-, hbelow⟩
    exact ih (hbelow _ hstep)

end TreeScribe
