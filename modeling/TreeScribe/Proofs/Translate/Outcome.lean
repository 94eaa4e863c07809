import TreeScribe.Proofs.Translate.Equation

/-!
# What renderings make

For each rendering of the Python scheme, the document that it makes when it finds its children and
these have documents.
-/

namespace TreeScribe

open Traced

section

variable {file : SourceFile} {visit : Node → Traced Doc} {n : Node}

theorem Node.outcome_require_bind {α : Type} {field : String} {c : Node}
    (hc : n.child? field = some c) (f : Node → Traced α) :
    (n.require field >>= f).outcome = (f c).outcome :=
  outcome_bind_of_ok (outcome_require_eq_ok_iff.2 hc) f

theorem Node.outcome_demand_bind {α : Type} {field : String} {found? : Option Node} {c : Node}
    (hc : found? = some c) (f : Node → Traced α) :
    (n.demand field found? >>= f).outcome = (f c).outcome :=
  outcome_bind_of_ok (outcome_demand_eq_ok_iff.2 hc) f

/-! ## Several nodes -/

theorem outcome_visitAll_cons {ns : List Node} {d : Doc} {ds : List Doc}
    (hd : (visit n).outcome = .ok d) (hds : (visitAll visit ns).outcome = .ok ds) :
    (visitAll visit (n :: ns)).outcome = .ok (d :: ds) := by
  rw [visitAll, outcome_bind_of_ok hd, outcome_bind_of_ok hds, outcome_pure]

theorem length_of_outcome_visitAll {ns : List Node} {ds : List Doc}
    (hds : (visitAll visit ns).outcome = .ok ds) : ds.length = ns.length := by
  induction ns generalizing ds with
  | nil =>
    cases hds
    rfl
  | cons n ns ih =>
    rw [visitAll, outcome_bind_eq_ok_iff] at hds
    obtain ⟨d, -, hds⟩ := hds
    obtain ⟨rest, hrest, hds⟩ := outcome_bind_eq_ok_iff.1 hds
    cases hds
    rw [List.length_cons, List.length_cons, ih hrest]

theorem outcome_visitConcat {ns : List Node} {ds : List Doc}
    (hds : (visitAll visit ns).outcome = .ok ds) :
    (visitConcat visit ns).outcome = .ok (.concat ds) := by
  rw [visitConcat, outcome_bind_of_ok hds, outcome_pure]

theorem outcome_visitSeparated {ns : List Node} {ds : List Doc} (between : List Char)
    (hds : (visitAll visit ns).outcome = .ok ds) :
    (visitSeparated visit ns between).outcome = .ok (.concat (ds.intersperse (.text between))) := by
  rw [visitSeparated, outcome_bind_of_ok hds, outcome_pure]

/-! ## Expressions -/

theorem outcome_operation {left operator right : Node} {l r : Doc}
    (hleft : n.child? "left" = some left) (hoperator : n.operator? = some operator)
    (hright : n.child? "right" = some right) (hl : (visit left).outcome = .ok l)
    (hr : (visit right).outcome = .ok r) :
    (Rendering.operation.apply file visit n).outcome =
      .ok (.concat [l, .text (' ' :: (textOf file operator ++ [' '])), r]) := by
  rw [Rendering.apply, Node.outcome_require_bind hleft, Node.outcome_demand_bind hoperator,
    Node.outcome_require_bind hright, outcome_bind_of_ok hl, outcome_bind_of_ok hr, outcome_pure]

theorem outcome_access {object property : Node} {o p : Doc}
    (hobject : n.child? "object" = some object) (hproperty : n.child? "property" = some property)
    (ho : (visit object).outcome = .ok o) (hp : (visit property).outcome = .ok p) :
    (Rendering.access.apply file visit n).outcome = .ok (.concat [o, .text ['.'], p]) := by
  rw [Rendering.apply, Node.outcome_require_bind hobject, Node.outcome_require_bind hproperty,
    outcome_bind_of_ok ho, outcome_bind_of_ok hp, outcome_pure]

theorem outcome_call {callee arguments : Node} {c : Doc} {args : List Doc}
    (hcallee : n.child? "function" = some callee) (harguments : n.child? "arguments" = some arguments)
    (hc : (visit callee).outcome = .ok c)
    (hargs : (visitAll visit arguments.namedChildren).outcome = .ok args) :
    (Rendering.call.apply file visit n).outcome =
      .ok (.concat
        [c, .text ['('], .concat (args.intersperse (.text [',', ' '])), .text [')']]) := by
  rw [Rendering.apply, Node.outcome_require_bind hcallee, Node.outcome_require_bind harguments,
    outcome_bind_of_ok hc, outcome_bind_of_ok (outcome_visitSeparated _ hargs), outcome_pure]

/-! ## Statements -/

theorem outcome_firstNamed {c : Node} (hc : n.firstNamed? = some c) :
    (Rendering.firstNamed.apply file visit n).outcome = (visit c).outcome := by
  rw [Rendering.apply, hc, visitOptional]

theorem outcome_returned_none (hn : n.firstNamed? = none) :
    (Rendering.returned.apply file visit n).outcome = .ok (.text "return".toList) := by
  rw [Rendering.apply, hn, outcome_pure]

theorem outcome_returned_some {c : Node} {d : Doc} (hc : n.firstNamed? = some c)
    (hd : (visit c).outcome = .ok d) :
    (Rendering.returned.apply file visit n).outcome = .ok (.plain "return ".toList [d]) := by
  simp only [Rendering.apply, hc]
  rw [outcome_bind_of_ok hd, outcome_pure]

/-- An import with a source. -/
theorem outcome_importedModule {c : Node} (hc : n.child? "source" = some c) :
    (Rendering.importedModule.apply file visit n).outcome =
      .ok (.text ("import ".toList ++ Node.unquoted (c.text file.text))) := by
  have hmodule : (n.importedModule file.text).outcome = .ok (Node.unquoted (c.text file.text)) := by
    rw [Node.importedModule, hc, outcome_pure]
  rw [Rendering.apply, outcome_bind_of_ok hmodule, outcome_pure]

theorem outcome_definition {name parameters body : Node} {nameDoc bodyDoc : Doc} {ps : List Doc}
    (hname : n.child? "name" = some name) (hparameters : n.child? "parameters" = some parameters)
    (hbody : n.child? "body" = some body) (hnameDoc : (visit name).outcome = .ok nameDoc)
    (hps : (visitAll visit parameters.namedChildren).outcome = .ok ps)
    (hbodyDoc : (visit body).outcome = .ok bodyDoc) :
    (Rendering.definition.apply file visit n).outcome =
      .ok (.concat
        [.plain "def ".toList
          [nameDoc, .text ['('], .concat (ps.intersperse (.text [',', ' '])), .text [')']],
          bodyDoc]) := by
  rw [Rendering.apply, Node.outcome_require_bind hname, Node.outcome_require_bind hparameters,
    Node.outcome_require_bind hbody, outcome_bind_of_ok hnameDoc,
    outcome_bind_of_ok (outcome_visitSeparated _ hps), outcome_bind_of_ok hbodyDoc, outcome_pure]

theorem outcome_pattern {pattern : Node} (hpattern : n.child? "pattern" = some pattern) :
    (Rendering.pattern.apply file visit n).outcome = (visit pattern).outcome := by
  rw [Rendering.apply, Node.outcome_require_bind hpattern]

/-! ## Blocks and branches -/

/-- A block without statements. -/
theorem outcome_suite_none {list : Node} (hlist : n.childOfKind? (.role .syntaxList) = some list)
    (hempty : list.children = []) :
    (Rendering.suite.apply file visit n).outcome = .ok (.suite (.text "pass".toList)) := by
  have hnone : n.statements? = none := by
    simp [Node.statements?, hlist, Node.hasChildren, hempty]
  simp only [Rendering.apply, hnone, outcome_pure]

/-- A block with statements. -/
theorem outcome_suite_some {list : Node} {d : Doc}
    (hlist : n.childOfKind? (.role .syntaxList) = some list) (hchildren : list.children ≠ [])
    (hd : (visit list).outcome = .ok d) :
    (Rendering.suite.apply file visit n).outcome = .ok (.suite d) := by
  have hsome : n.statements? = some list := by
    simp [Node.statements?, hlist, Node.hasChildren, hchildren]
  simp only [Rendering.apply, hsome]
  rw [outcome_bind_of_ok hd, outcome_pure]

theorem visitBranch_of_block (h : n.kind = .role .block) : visitBranch visit n = visit n :=
  if_pos h

theorem outcome_visitBranch_of_ne {d : Doc} (h : n.kind ≠ .role .block)
    (hd : (visit n).outcome = .ok d) : (visitBranch visit n).outcome = .ok (.suite d) := by
  rw [visitBranch, if_neg h, outcome_bind_of_ok hd, outcome_pure]

theorem outcome_visitElse_of_if {d : Doc} (h : n.kind = .role .ifStatement)
    (hd : (visit n).outcome = .ok d) :
    (visitElse visit n).outcome = .ok (.plain "\nel".toList [d]) := by
  rw [visitElse, if_pos h, outcome_bind_of_ok hd, outcome_pure]

theorem outcome_visitElse_of_ne {d : Doc} (h : n.kind ≠ .role .ifStatement)
    (hd : (visitBranch visit n).outcome = .ok d) :
    (visitElse visit n).outcome = .ok (.plain "\nelse".toList [d]) := by
  rw [visitElse, if_neg h, outcome_bind_of_ok hd, outcome_pure]

section Branches

variable {condition consequence : Node} {conditionDoc branchDoc : Doc}

/-- An `if` alone. -/
theorem outcome_branches_none (hcondition : n.child? "condition" = some condition)
    (hconsequence : n.child? "consequence" = some consequence)
    (halternative : n.child? "alternative" = none)
    (hcdoc : (visit condition).outcome = .ok conditionDoc)
    (hbdoc : (visitBranch visit consequence).outcome = .ok branchDoc) :
    (Rendering.branches.apply file visit n).outcome =
      .ok (.concat [.plain "if ".toList [conditionDoc, branchDoc]]) := by
  rw [Rendering.apply, Node.outcome_require_bind hcondition, Node.outcome_require_bind hconsequence,
    outcome_bind_of_ok hcdoc, outcome_bind_of_ok hbdoc, halternative, outcome_pure]

/-- An `if` with an alternative. -/
theorem outcome_branches_some {alternative statement : Node} {elseDoc : Doc}
    (hcondition : n.child? "condition" = some condition)
    (hconsequence : n.child? "consequence" = some consequence)
    (halternative : n.child? "alternative" = some alternative)
    (hstatement : alternative.firstNamed? = some statement)
    (hcdoc : (visit condition).outcome = .ok conditionDoc)
    (hbdoc : (visitBranch visit consequence).outcome = .ok branchDoc)
    (hedoc : (visitElse visit statement).outcome = .ok elseDoc) :
    (Rendering.branches.apply file visit n).outcome =
      .ok (.concat [.plain "if ".toList [conditionDoc, branchDoc], elseDoc]) := by
  rw [Rendering.apply, Node.outcome_require_bind hcondition, Node.outcome_require_bind hconsequence,
    outcome_bind_of_ok hcdoc, outcome_bind_of_ok hbdoc, halternative]
  simp only
  rw [Node.outcome_demand_bind hstatement, outcome_bind_of_ok hedoc, outcome_pure]

end Branches

end

end TreeScribe
