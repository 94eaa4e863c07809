import TreeScribe.Proofs.Translate.Demands

/-!
# Conformant trees translate

What the schemes that are built in ask of a syntax tree is there if the concrete tree that it is made
of is conformant.  Main statements: the demands of a converted conformant node are met
(`met_of_conformant`), so that no demand can fail in a faultless file of conformant nodes
(`translate_conformant_succeeds`).  Of weakly conformant nodes this does not hold
(`python_weaklyConformant_fails`).
-/

namespace TreeScribe

open Traced

namespace ConcreteTree

/-! ## Whole trees -/

/-- The fields that are promised to a kind are there. -/
theorem KeepsFields.hasField {t : ConcreteTree} (h : t.KeepsFields) {kind field : String}
    (hkind : t.IsNamed kind) (hfield : field ∈ (promisedFields.lookup kind).getD []) :
    t.HasField field := by
  obtain ⟨hnamed, rfl⟩ := hkind
  exact h.1 hnamed field hfield

theorem KeepsFields.hasOperands {t : ConcreteTree} (h : t.KeepsFields)
    (hnamed : t.label.named = true)
    (hkind : t.label.kind = "binary_expression" ∨ t.label.kind = "assignment_expression" ∨
      t.label.kind = "augmented_assignment_expression") :
    t.HasField "left" ∧ t.HasOperator ∧ t.HasField "right" := by
  rcases hkind with hkind | hkind | hkind <;>
    refine ⟨h.hasField ⟨hnamed, hkind⟩ (by decide), ?_, h.hasField ⟨hnamed, hkind⟩ (by decide)⟩
  · exact .inl (h.hasField ⟨hnamed, hkind⟩ (by decide))
  · exact h.2.1 ⟨hnamed, hkind⟩
  · exact .inl (h.hasField ⟨hnamed, hkind⟩ (by decide))

/-- **The demands of a conformant node are met**, in whichever field it is held. -/
theorem met_of_conformant {scheme : Scheme} (hscheme : scheme ∈ Scheme.builtIn) {t : ConcreteTree}
    (h : t.Conformant) (held? : Option String) :
    ∀ d ∈ scheme.demands (t.toNodeIn held?), d.Met := by
  intro d hd
  have hd := Scheme.demands_subset_python hscheme _ hd
  obtain ⟨hfields, halternatives, himport⟩ := h
  simp only [Scheme.demands, Scheme.rendering?, kind_toNodeIn] at hd
  rcases hkind : t.classify with _ | _ | role | name <;> rw [hkind] at hd
  case role =>
    cases role <;> simp [Scheme.python, Scheme.plain, Rendering.demands] at hd
    all_goals
      have ht : t.IsUngrouped := by constructor <;> rw [hkind] <;> simp
      obtain ⟨hnamed, hknown⟩ := mem_knownKinds_of_classify hkind (by decide)
      simp [knownKinds] at hknown
    case importDeclaration =>
      have hconditionals : t.label.kind ∉ conditionals := by
        rcases hknown with hknown | hknown <;> rw [hknown] <;> decide
      have hkeeps := himport (hknown.imp (⟨hnamed, ·⟩) (⟨hnamed, ·⟩))
      exact met_importDemands ht hconditionals hkeeps d hd
    case functionDeclaration =>
      have hpromised : ∀ field ∈ ["name", "parameters", "body"], t.HasField field := by
        intro field hfield
        rcases hknown with hknown | hknown <;> exact hfields.hasField ⟨hnamed, hknown⟩ hfield
      rcases hd with rfl | rfl | rfl <;> exact met_demandField ht (by decide) (hpromised _ (by decide))
    case parameter =>
      have hpromised : t.HasField "pattern" := by
        rcases hknown with hknown | hknown <;> exact hfields.hasField ⟨hnamed, hknown⟩ (by decide)
      rw [hd]
      exact met_demandField ht (by decide) hpromised
    case binaryExpression =>
      obtain ⟨hleft, hoperator, hright⟩ := hfields.hasOperands hnamed hknown
      rcases hd with rfl | rfl | rfl
      · exact met_demandField ht (by decide) hleft
      · exact met_operator ht hoperator
      · exact met_demandField ht (by decide) hright
    case ifStatement =>
      have hif : t.IsNamed "if_statement" := ⟨hnamed, hknown⟩
      rcases hd with rfl | rfl | ⟨a, ha, rfl⟩
      · exact met_condition ht (hfields.2.2 hif)
      · exact met_demandField ht (by decide) (hfields.hasField hif (by decide))
      · exact met_statement ht (halternatives hif) ha
    case propertyAccess =>
      rcases hd with rfl | rfl <;>
        exact met_demandField ht (by decide) (hfields.hasField ⟨hnamed, hknown⟩ (by decide))
    case callExpression =>
      rcases hd with rfl | rfl <;>
        exact met_demandField ht (by decide) (hfields.hasField ⟨hnamed, hknown⟩ (by decide))
  all_goals simp [Rendering.demands] at hd

/-- A tree of conformant nodes translates. -/
theorem translate_toNode_succeeds (file : SourceFile) {scheme : Scheme}
    (hscheme : scheme ∈ Scheme.builtIn) {t : ConcreteTree} (h : ∀ s ∈ t.kept, s.Conformant) :
    (t.toNode.translate file scheme).Succeeds := by
  refine Node.translate_succeeds file (Scheme.neverRefuses_of_mem_builtIn hscheme) _ fun m hm => ?_
  rcases mem_nodes_toNodeIn none t hm with hlist | ⟨s, hs, held?, rfl⟩
  · intro d hd
    have hd := Scheme.demands_subset_python hscheme _ hd
    simp [Scheme.demands, Scheme.rendering?, hlist, Scheme.python, Scheme.plain,
      Rendering.demands] at hd
  · exact met_of_conformant hscheme (h s hs) held?

/-! ## Parsing -/

mutual

/-- A tree without errors and assumed nodes has no fault. -/
theorem firstFault?_eq_none (t : ConcreteTree)
    (h : ∀ s ∈ t.nodes, s.label.error = false ∧ s.label.missing = false) :
    t.firstFault? = none := by
  obtain ⟨l, children⟩ := t
  have hlabel : l.error = false ∧ l.missing = false := h _ (mem_nodes_self _)
  have hchildren := firstFaultAmong?_eq_none children (forall_nodes_children h)
  rw [firstFault?, if_neg (by simp [hlabel]), hchildren, ite_self]

theorem firstFaultAmong?_eq_none (ts : List ConcreteTree)
    (h : ∀ s ∈ nodesAll ts, s.label.error = false ∧ s.label.missing = false) :
    firstFaultAmong? ts = none := by
  match ts with
  | [] => rfl
  | t :: ts =>
    rw [firstFaultAmong?, firstFault?_eq_none t (forall_nodes_head h),
      firstFaultAmong?_eq_none ts (forall_nodes_tail h), Option.none_or]

end

/-- A named program without a fault is parsed. -/
theorem parse_eq_ok {grammar : Grammar} {source : List Char} {t : ConcreteTree}
    (hgrammar : grammar source = some t)
    (hfaultless : ∀ s ∈ t.nodes, s.label.error = false ∧ s.label.missing = false) :
    (Parser.typeScript grammar).parse source = .ok t.toNode := by
  simp only [Parser.typeScript, hgrammar, firstFault?_eq_none t hfaultless]

theorem kind_toNode_of_isNamed_program {t : ConcreteTree} (h : t.IsNamed "program") :
    t.toNode.kind = .sourceFile := by
  obtain ⟨hnamed, hkind⟩ := h
  have hlookup : knownKinds.lookup "program" = some .sourceFile := by decide
  rw [toNode, kind_toNodeIn]
  simp [classify, Label.classify, hnamed, hkind, hlookup]

end ConcreteTree

open ConcreteTree

/-! ## Files -/

/-- **No demand fails in a conformant file.**  If the grammar makes a program without faults of the
source, all of whose nodes are conformant, then every scheme that is built in translates the file. -/
theorem SourceFile.translate_conformant_succeeds (file : SourceFile) (grammar : Grammar)
    {t : ConcreteTree} (hgrammar : grammar file.text = some t) (hroot : t.IsNamed "program")
    (hfaultless : ∀ s ∈ t.nodes, s.label.error = false ∧ s.label.missing = false)
    (hconformant : ∀ s ∈ t.kept, s.Conformant) {scheme : Scheme}
    (hscheme : scheme ∈ Scheme.builtIn) :
    ∃ doc, (file.translate (.typeScript grammar) scheme).outcome = .ok doc := by
  have hparse := parse_eq_ok hgrammar hfaultless
  obtain ⟨doc, hdoc⟩ := translate_toNode_succeeds file hscheme hconformant
  refine ⟨doc, ?_⟩
  unfold SourceFile.translate
  rw [hparse, outcome_bind_eq_ok_iff]
  refine ⟨(), rfl, outcome_bind_eq_ok_iff.2 ⟨t.toNode, rfl, ?_⟩⟩
  rw [if_pos (kind_toNode_of_isNamed_program hroot), outcome_bind_eq_ok_iff]
  exact ⟨doc, hdoc, rfl⟩

namespace ConcreteTree

/-- A node that is neither extra nor faulty. -/
def sound (kind : String) (named : Bool) (start stop : Nat) (field? : Option String)
    (children : List ConcreteTree) : ConcreteTree :=
  ⟨⟨kind, start, stop, field?, named, false, false, false, false⟩, children⟩

/-- `import "m";if (a) b; else c.d`. -/
def importAndBranches : ConcreteTree :=
  sound "program" true 0 29 none
    [sound "import_statement" true 0 11 none
      [sound "import" false 0 6 none [],
        sound "string" true 7 10 (some "source")
          [sound "\"" false 7 8 none [], sound "string_fragment" true 8 9 none [],
            sound "\"" false 9 10 none []],
        sound ";" false 10 11 none []],
      sound "if_statement" true 11 29 none
        [sound "if" false 11 13 none [],
          sound "parenthesized_expression" true 14 17 (some "condition")
            [sound "(" false 14 15 none [], sound "identifier" true 15 16 none [],
              sound ")" false 16 17 none []],
          sound "expression_statement" true 18 20 (some "consequence")
            [sound "identifier" true 18 19 none [], sound ";" false 19 20 none []],
          sound "else_clause" true 21 29 (some "alternative")
            [sound "else" false 21 25 none [],
              sound "expression_statement" true 26 29 none
                [sound "member_expression" true 26 29 none
                  [sound "identifier" true 26 27 (some "object") [],
                    sound "." false 27 28 none [],
                    sound "property_identifier" true 28 29 (some "property") []]]]]]

/-- `if (x) y while ()`, with an alternative that has nothing in its parentheses. -/
def emptyCondition : ConcreteTree :=
  sound "program" true 0 17 none
    [sound "if_statement" true 0 17 none
      [sound "if" false 0 2 none [],
        sound "parenthesized_expression" true 3 6 (some "condition")
          [sound "(" false 3 4 none [], sound "identifier" true 4 5 none [],
            sound ")" false 5 6 none []],
        sound "identifier" true 7 8 (some "consequence") [],
        sound "while_statement" true 9 17 (some "alternative")
          [sound "while" false 9 14 none [],
            sound "parenthesized_expression" true 15 17 (some "condition")
              [sound "(" false 15 16 none [], sound ")" false 16 17 none []]]]]

/-- `import a=require() b=require("m")`, whose first clause has no source. -/
def twoClauses : ConcreteTree :=
  sound "program" true 0 33 none
    [sound "import_statement" true 0 33 none
      [sound "import" false 0 6 none [],
        sound "import_require_clause" true 7 18 none
          [sound "identifier" true 7 8 none [], sound "=" false 8 9 none [],
            sound "require" false 9 16 none [], sound "(" false 16 17 none [],
            sound ")" false 17 18 none []],
        sound "import_require_clause" true 19 33 none
          [sound "identifier" true 19 20 none [], sound "=" false 20 21 none [],
            sound "require" false 21 28 none [], sound "(" false 28 29 none [],
            sound "string" true 29 32 (some "source") [], sound ")" false 32 33 none []]]]

end ConcreteTree

/-- An import and an `if` with both branches translate. -/
theorem SourceFile.translate_importAndBranches_succeeds :
    importAndBranches.IsNamed "program" ∧
      (∀ s ∈ importAndBranches.nodes, s.label.error = false ∧ s.label.missing = false) ∧
      (∀ s ∈ importAndBranches.kept, s.Conformant) ∧ Scheme.python ∈ Scheme.builtIn ∧
      ∃ doc, (SourceFile.translate ⟨"input.ts", "import \"m\";if (a) b; else c.d".toList⟩
        (.typeScript fun _ => some importAndBranches) .python).outcome = .ok doc :=
  have hroot : importAndBranches.IsNamed "program" := by decide
  have hfaultless : ∀ s ∈ importAndBranches.nodes,
      s.label.error = false ∧ s.label.missing = false := by decide
  have hconformant : ∀ s ∈ importAndBranches.kept, s.Conformant := by decide +kernel
  have hscheme : Scheme.python ∈ Scheme.builtIn := by simp [Scheme.builtIn]
  ⟨hroot, hfaultless, hconformant, hscheme,
    SourceFile.translate_conformant_succeeds _ _ rfl hroot hfaultless hconformant hscheme⟩

/-- **Weak conformance is not enough**: neither a named part of an alternative that is taken apart,
nor a source in another clause of an import than the first. -/
theorem SourceFile.python_weaklyConformant_fails :
    (emptyCondition.IsNamed "program" ∧
      (∀ s ∈ emptyCondition.nodes, s.label.error = false ∧ s.label.missing = false) ∧
      (∀ s ∈ emptyCondition.kept, s.WeaklyConformant) ∧
      (SourceFile.translate ⟨"input.ts", "if (x) y while ()".toList⟩
        (.typeScript fun _ => some emptyCondition) .python).outcome =
          .error (.missingChild (.other "while_statement") "statement")) ∧
    (twoClauses.IsNamed "program" ∧
      (∀ s ∈ twoClauses.nodes, s.label.error = false ∧ s.label.missing = false) ∧
      (∀ s ∈ twoClauses.kept, s.WeaklyConformant) ∧
      (SourceFile.translate ⟨"input.ts", "import a=require() b=require(\"m\")".toList⟩
        (.typeScript fun _ => some twoClauses) .python).outcome =
          .error (.missingChild (.other "import_require_clause") "source")) :=
  ⟨⟨by decide, by decide, by decide +kernel, rfl⟩, ⟨by decide, by decide, by decide +kernel, rfl⟩⟩

end TreeScribe
