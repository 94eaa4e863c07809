import TreeScribe.Proofs.Translate.Visited

/-!
# The equation of translation

`Node.translateWithin` renders a node with a function for the nodes below that goes one level less
deep.  Main statements: a rendering hangs on the documents of the nodes that it visits and of no
others (`apply_congr`, `renderNode_congr`), so from the height of a node on the bound never shows
(`translateWithin_eq_of_height_le`), and `Node.translate` renders a node with itself for the nodes
below (`translate_eq`).  Both hold of whatever goes down the tree in this way (`within_eq_within`,
`within_height_eq`).
-/

namespace TreeScribe

open Traced

section Congruence

variable {visit visit' : Node → Traced Doc}

/-! ## Helpers of renderings -/

theorem visitAll_congr {ns : List Node} (h : ∀ m ∈ ns, visit m = visit' m) :
    visitAll visit ns = visitAll visit' ns := by
  induction ns with
  | nil => rfl
  | cons n ns ih =>
    rw [visitAll, visitAll, h n (List.mem_cons_self ..),
      ih fun m hm => h m (List.mem_cons_of_mem _ hm)]

theorem visitConcat_congr {ns : List Node} (h : ∀ m ∈ ns, visit m = visit' m) :
    visitConcat visit ns = visitConcat visit' ns := by
  rw [visitConcat, visitConcat, visitAll_congr h]

theorem visitSeparated_congr {ns : List Node} (between : List Char)
    (h : ∀ m ∈ ns, visit m = visit' m) :
    visitSeparated visit ns between = visitSeparated visit' ns between := by
  rw [visitSeparated, visitSeparated, visitAll_congr h]

theorem visitOptional_congr {o : Option Node} (h : ∀ m ∈ o.toList, visit m = visit' m) :
    visitOptional visit o = visitOptional visit' o := by
  cases o with
  | none => rfl
  | some n => exact h n (List.mem_singleton_self n)

theorem visitBranch_congr {n : Node} (h : visit n = visit' n) :
    visitBranch visit n = visitBranch visit' n := by
  rw [visitBranch, visitBranch, h]

theorem visitElse_congr {n : Node} (h : visit n = visit' n) :
    visitElse visit n = visitElse visit' n := by
  rw [visitElse, visitElse, h, visitBranch_congr h]

/-! ## Lookups with an error -/

theorem Node.outcome_require_eq_ok_iff {n c : Node} {field : String} :
    (n.require field).outcome = .ok c ↔ n.child? field = some c := by
  unfold Node.require
  cases n.child? field <;> simp

theorem Node.outcome_demand_eq_ok_iff {n c : Node} {field : String} {found? : Option Node} :
    (n.demand field found?).outcome = .ok c ↔ found? = some c := by
  unfold Node.demand
  cases found? <;> simp

/-! ## Renderings -/

theorem Filling.parts_congr (file : SourceFile) (n : Node) (filling : Filling)
    (h : ∀ m ∈ filling.visited n, visit m = visit' m) :
    filling.parts file visit n = filling.parts file visit' n := by
  cases filling <;> simp only [Filling.parts, Filling.visited] at h ⊢
  case all => exact visitAll_congr h
  case nodes => rw [visitConcat_congr h]
  case named => rw [visitConcat_congr h]
  case first => rw [visitOptional_congr h]
  case separated between => rw [visitSeparated_congr between h]
  case separatedAll between => rw [visitSeparated_congr between h]
  case field name => rw [visitOptional_congr h]
  case required name =>
    refine bind_congr_ok fun c hc => ?_
    rw [h c (by rw [Node.outcome_require_eq_ok_iff.1 hc]; exact List.mem_singleton_self c)]

/-- **A rendering hangs on the nodes that it visits** and on no others. -/
theorem Rendering.apply_congr (file : SourceFile) (n : Node) (r : Rendering)
    (h : ∀ m ∈ r.visited n, visit m = visit' m) :
    r.apply file visit n = r.apply file visit' n := by
  cases r <;> simp only [Rendering.apply, Rendering.visited, List.mem_append] at h ⊢
  case marker => rw [renderMarker, renderMarker, visitAll_congr h]
  case lines => exact visitSeparated_congr ['\n'] h
  case braces | suite =>
    cases hlist : n.statements? with
    | none => rfl
    | some list => simp only [h list (by simp [hlist])]
  case returned =>
    cases hfirst : n.firstNamed? with
    | none => rfl
    | some expression => simp only [h expression (by simp [hfirst])]
  case operation =>
    refine bind_congr_ok fun left hleft => bind_congr_ok fun operator _ =>
      bind_congr_ok fun right hright => ?_
    rw [Node.outcome_require_eq_ok_iff] at hleft hright
    rw [h left (by simp [hleft]), h right (by simp [hright])]
  case access =>
    refine bind_congr_ok fun object hobject => bind_congr_ok fun property hproperty => ?_
    rw [Node.outcome_require_eq_ok_iff] at hobject hproperty
    rw [h object (by simp [hobject]), h property (by simp [hproperty])]
  case call =>
    refine bind_congr_ok fun callee hcallee => bind_congr_ok fun arguments harguments => ?_
    rw [Node.outcome_require_eq_ok_iff] at hcallee harguments
    rw [h callee (by simp [hcallee]),
      visitSeparated_congr [',', ' '] fun m hm => h m (by simp [harguments, hm])]
  case firstNamed => exact visitOptional_congr h
  case definition =>
    refine bind_congr_ok fun name hname => bind_congr_ok fun parameters hparameters =>
      bind_congr_ok fun body hbody => ?_
    rw [Node.outcome_require_eq_ok_iff] at hname hparameters hbody
    rw [h name (by simp [hname]), h body (by simp [hbody]),
      visitSeparated_congr [',', ' '] fun m hm => h m (by simp [hparameters, hm])]
  case pattern =>
    refine bind_congr_ok fun pattern hpattern => ?_
    rw [Node.outcome_require_eq_ok_iff] at hpattern
    exact h pattern (by simp [hpattern])
  case branches =>
    refine bind_congr_ok fun condition hcondition => bind_congr_ok fun consequence hconsequence => ?_
    rw [Node.outcome_require_eq_ok_iff] at hcondition hconsequence
    rw [h condition (by simp [hcondition]),
      visitBranch_congr (h consequence (by simp [hconsequence]))]
    refine bind_congr_ok fun _ _ => bind_congr_ok fun _ _ => ?_
    cases halternative : n.child? "alternative" with
    | none => rfl
    | some alternative =>
      refine bind_congr_ok fun statement hstatement => ?_
      rw [Node.outcome_demand_eq_ok_iff] at hstatement
      rw [visitElse_congr (h statement (by simp [halternative, hstatement]))]
  case recipe recipe => rw [recipe.filling.parts_congr file n h]

/-- The document of a node hangs on the nodes that the scheme visits for it. -/
theorem renderNode_congr (file : SourceFile) (scheme : Scheme) (n : Node)
    (h : ∀ m ∈ scheme.visited n, visit m = visit' m) :
    renderNode file visit scheme n = renderNode file visit' scheme n := by
  unfold renderNode
  unfold Scheme.visited Scheme.rendering? at h
  cases hkind : n.kind <;> rw [hkind] at h
  case sourceFile | punctuation => exact visitConcat_congr h
  case role role => exact (scheme role).apply_congr file n h
  case other name => exact Rendering.apply_congr file n .marker h

end Congruence

/-! ## The bound on the depth -/

section Bound

variable {β : Type} {within : Nat → Node → β} {step : (Node → β) → Node → β} (scheme : Scheme)
  (hwithin : ∀ depth n, within (depth + 1) n = step (within depth) n)
  (hstep : ∀ f g n, (∀ m ∈ scheme.visited n, f m = g m) → step f n = step g n)
include hwithin hstep

/-- Whatever goes down the tree along the visits of a scheme: two bounds on the depth that are not
below the height of a node give the same. -/
theorem Node.within_eq_within (j k : Nat) (n : Node) (hj : n.height ≤ j) (hk : n.height ≤ k) :
    within j n = within k n := by
  induction j generalizing k n with
  | zero =>
    rw [height_eq] at hj
    omega
  | succ j ih =>
    cases k with
    | zero =>
      rw [height_eq] at hk
      omega
    | succ k =>
      rw [hwithin, hwithin]
      refine hstep _ _ n fun m hm => ?_
      have hlt := height_lt_of_mem_descendants (scheme.mem_descendants_of_mem_visited hm)
      exact ih k m (by omega) (by omega)

/-- Bounded by the heights, a node gives what its step makes of the nodes that are visited for it. -/
theorem Node.within_height_eq (n : Node) :
    within n.height n = step (fun m => within m.height m) n := by
  rw [height_eq, hwithin]
  refine hstep _ _ n fun m hm => ?_
  have hlt := height_lt_of_mem_descendants (scheme.mem_descendants_of_mem_visited hm)
  rw [height_eq n] at hlt
  exact within_eq_within scheme hwithin hstep _ _ m (by omega) (Nat.le_refl _)

end Bound

variable (file : SourceFile) (scheme : Scheme)

/-- From the height of a node on, the bound on the depth does not show. -/
theorem Node.translateWithin_eq_of_height_le (depth : Nat) (n : Node) (h : n.height ≤ depth) :
    n.translateWithin file scheme depth = n.translate file scheme :=
  within_eq_within scheme (fun _ _ => rfl) (fun _ _ => renderNode_congr file scheme) depth n.height n
    h (Nat.le_refl _)

/-- **The equation of translation**: a node is rendered with the documents of the nodes below. -/
theorem Node.translate_eq (n : Node) :
    n.translate file scheme = renderNode file (Node.translate file scheme) scheme n :=
  within_height_eq scheme (fun _ _ => rfl) (fun _ _ => renderNode_congr file scheme) n

variable {file scheme}

/-- A node with a role is rendered as the scheme says. -/
theorem Node.translate_of_role {n : Node} {role : Role} (h : n.kind = .role role) :
    n.translate file scheme = (scheme role).apply file (Node.translate file scheme) n := by
  rw [translate_eq, renderNode, h]

end TreeScribe
