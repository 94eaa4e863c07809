import Mathlib.Data.Set.Insert
import TreeScribe.Proofs.Translate.Equation

/-!
# Schemes that agree

Two schemes may differ in the renderings of some roles only.  A rendering leaves the nodes below to
the scheme of the translation, so such schemes can only differ on trees in which one of these roles
occurs.

Main statement: two schemes that agree on all roles outside a set translate a tree in which no role
of the set occurs alike, event by event and with the same end; the Python scheme and the plain one
are such schemes (`Node.translate_eq_of_agree`).
-/

namespace TreeScribe

open Traced

namespace Scheme

/-- Two schemes agree on a role: whatever file a node with that role is in and however the nodes
below are translated, they report the same events for it and end alike. -/
def AgreeOn (s t : Scheme) (role : Role) : Prop :=
  ∀ (file : SourceFile) (visit : Node → Traced Doc) (n : Node), n.kind = .role role →
    (s role).apply file visit n = (t role).apply file visit n

theorem AgreeOn.of_eq {s t : Scheme} {role : Role} (h : s role = t role) : s.AgreeOn t role := by
  intro file visit n _
  rw [h]

/-- The roles that the Python scheme has renderings of its own for. -/
def pythonRoles : Set Role :=
  {.importDeclaration, .identifier, .functionDeclaration, .block, .parameter, .ifStatement}

theorem python_agreeOn_plain {role : Role} (h : role ∉ pythonRoles) :
    python.AgreeOn plain role := by
  apply AgreeOn.of_eq
  cases role <;> simp [pythonRoles] at h <;> rfl

end Scheme

/-! ## One node -/

/-- For a node without a role, or with a role that two schemes agree on, they do the same. -/
theorem renderNode_eq_of_agreeOn {s t : Scheme} {n : Node}
    (h : ∀ role, n.kind = .role role → s.AgreeOn t role) (file : SourceFile)
    (visit : Node → Traced Doc) : renderNode file visit s n = renderNode file visit t n := by
  unfold renderNode
  cases hkind : n.kind with
  | sourceFile => rfl
  | punctuation => rfl
  | other name => rfl
  | role role =>
    have hagree : s.AgreeOn t role := h role hkind
    exact hagree file visit n hkind

/-! ## Whole trees -/

/-- Schemes that agree on the roles in a tree translate it alike. -/
theorem Node.translate_eq_of_agreeOn {s t : Scheme} (file : SourceFile) (n : Node)
    (h : ∀ m ∈ n.nodes, ∀ role, m.kind = .role role → s.AgreeOn t role) :
    n.translate file s = n.translate file t := by
  rw [translate_eq file s n, translate_eq file t n,
    renderNode_eq_of_agreeOn (h n (mem_nodes_self n)) file (Node.translate file s)]
  -- the nodes below are translated with the same schemes, and they stand in the same tree
  refine renderNode_congr file t n fun m hm => ?_
  have hbelow : m ∈ n.descendants := t.mem_descendants_of_mem_visited hm
  have hlower : m.height < n.height := height_lt_of_mem_descendants hbelow
  have hmem : m ∈ n.nodes := mem_nodes_iff.2 (.inr hbelow)
  exact translate_eq_of_agreeOn file m fun k hk => h k (mem_nodes_trans n hk hmem)
termination_by n.height

/-- **A rendering counts only where its role occurs.**  If two schemes agree on all roles outside
`roles`, they translate every tree without a node of these roles alike: the same events in the same
order, and the same document or the same error.  So the Python scheme and the plain one translate
alike what has no import, identifier, function, block, parameter or `if`. -/
theorem Node.translate_eq_of_agree :
    (∀ (roles : Set Role) (s t : Scheme), (∀ role, role ∉ roles → s.AgreeOn t role) →
      ∀ (file : SourceFile) (n : Node), (∀ m ∈ n.nodes, ∀ role ∈ roles, m.kind ≠ .role role) →
        n.translate file s = n.translate file t) ∧
    ∀ (file : SourceFile) (n : Node),
      (∀ m ∈ n.nodes, ∀ role ∈ Scheme.pythonRoles, m.kind ≠ .role role) →
        n.translate file .python = n.translate file .plain := by
  have hroles : ∀ (roles : Set Role) (s t : Scheme), (∀ role, role ∉ roles → s.AgreeOn t role) →
      ∀ (file : SourceFile) (n : Node), (∀ m ∈ n.nodes, ∀ role ∈ roles, m.kind ≠ .role role) →
        n.translate file s = n.translate file t := by
    intro roles s t hagree file n hn
    refine translate_eq_of_agreeOn file n fun m hm role hkind => hagree role ?_
    intro hrole
    exact hn m hm role hrole hkind
  refine ⟨hroles, ?_⟩
  intro file n hn
  exact hroles Scheme.pythonRoles .python .plain (fun _ => Scheme.python_agreeOn_plain) file n hn

/-- `return 1 + "a"; class {}`, as a list with a return and a construct without a role. -/
def returnedSum : Node :=
  let left : Node := (Node.plain (.role .token) ⟨7, 8⟩ []).withField "left"
  let operator : Node := (Node.plain (.role .token) ⟨9, 10⟩ []).anonymous
  let right : Node := (Node.plain (.role .stringLiteral) ⟨11, 14⟩ []).withField "right"
  let sum : Node := .plain (.role .binaryExpression) ⟨7, 14⟩ [left, operator, right]
  .plain (.role .syntaxList) ⟨0, 24⟩
    [.plain (.role .returnStatement) ⟨0, 15⟩ [sum],
      .plain (.other "class_declaration") ⟨16, 24⟩ [.plain (.other "class_body") ⟨22, 24⟩ []]]

/-- The two schemes render a return in the way of lists, though they do not say so in the same words,
and differ on identifiers: nothing of it shows in a tree without identifiers.  Nor do the Python
scheme and the plain one differ there. -/
theorem Node.translate_eq_of_agree_returnedSum :
    let file : SourceFile := ⟨"input.ts", "return 1 + \"a\"; class {}".toList⟩
    let s : Scheme := Scheme.plain.override
      [(.returnStatement, Scheme.plain .syntaxList), (.identifier, .refusal "no names")]
    let t : Scheme := Scheme.plain.override
      [(.identifier, .recipe ⟨.kind, ['<'], true, .none⟩), (.returnStatement, .lines)]
    (∀ role, role ∉ ({.identifier} : Set Role) → s.AgreeOn t role) ∧
      (∀ m ∈ returnedSum.nodes, ∀ role ∈ ({.identifier} : Set Role), m.kind ≠ .role role) ∧
      (∀ m ∈ returnedSum.nodes, ∀ role ∈ Scheme.pythonRoles, m.kind ≠ .role role) ∧
      returnedSum.translate file s = returnedSum.translate file t ∧
      returnedSum.translate file .python = returnedSum.translate file .plain ∧
      (returnedSum.translate file .plain).events =
        [.unknownSyntax (.other "class_declaration") ⟨16, 24⟩,
          .unknownSyntax (.other "class_body") ⟨22, 24⟩] := by
  intro file s t
  have hagree : ∀ role, role ∉ ({.identifier} : Set Role) → s.AgreeOn t role := by
    intro role hrole
    apply Scheme.AgreeOn.of_eq
    cases role <;> simp at hrole <;> rfl
  have hkinds : ∀ m ∈ returnedSum.nodes,
      m.kind ∈ [.role .syntaxList, .role .returnStatement, .role .binaryExpression, .role .token,
        .role .stringLiteral, .other "class_declaration", .other "class_body"] := by decide
  have hother : ∀ m ∈ returnedSum.nodes, ∀ role ∈ ({.identifier} : Set Role),
      m.kind ≠ .role role := by
    rintro m hm role rfl hkind
    simpa [hkind] using hkinds m hm
  have hpython : ∀ m ∈ returnedSum.nodes, ∀ role ∈ Scheme.pythonRoles, m.kind ≠ .role role := by
    intro m hm role hrole hkind
    have hmem := hkinds m hm
    rw [hkind] at hmem
    cases role <;> simp [Scheme.pythonRoles] at hrole hmem
  obtain ⟨hroles, hplain⟩ := translate_eq_of_agree
  exact ⟨hagree, hother, hpython, hroles _ s t hagree file returnedSum hother,
    hplain file returnedSum hpython, rfl⟩

end TreeScribe
