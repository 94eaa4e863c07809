import TreeScribe.Proofs.Python.Statement
import TreeScribe.Proofs.Translate.Outcome

/-!
# The layout of Python

Main statements: the Python scheme translates every expression and every statement of the language,
and their documents write the text of the expression (`Expression.exists_writesText`) and the lines
of the statement (`Statement.exists_writes`), to any depth of blocks and for any length of an `elif`
chain.  So a file of such statements is translated to the lines of its statements
(`translate_python_eq_lines`).
-/

namespace TreeScribe.Python

open Traced Doc

variable {file : SourceFile}

/-! ## Expressions -/

mutual

/-- **An expression is translated to its text.** -/
theorem Expression.exists_writesText (e : Expression) {n : Node} (h : e.IsAt file.text n) :
    ∃ d, (n.translate file .python).outcome = .ok d ∧ d.WritesText e.text := by
  match e with
  | .name raw =>
    obtain ⟨hkind, htext⟩ := h
    refine ⟨.text (snakeCase (n.text file.text)), ?_, ?_⟩
    · rw [Node.translate_of_role hkind]
      rfl
    · rw [htext]
      exact writesText_text (unbroken_snakeCase raw.unbroken)
  | .token raw =>
    obtain ⟨hkind, htext⟩ := h
    refine ⟨.text (n.text file.text), ?_, ?_⟩
    · rw [Node.translate_of_role hkind]
      rfl
    · rw [htext]
      exact writesText_text raw.unbroken
  | .string value =>
    obtain ⟨hkind, hvalue⟩ := h
    refine ⟨.text (Json.quote value), ?_, writesText_text (Json.unbroken_quote value)⟩
    rw [Node.translate_of_role hkind, ← Literal.denotes_iff.1 hvalue]
    rfl
  | .binary left operator right =>
    obtain ⟨hkind, ⟨l, hl, hleft⟩, ⟨o, ho, htext⟩, r, hr, hright⟩ := h
    obtain ⟨dl, hdl, hwl⟩ := left.exists_writesText hleft
    obtain ⟨dr, hdr, hwr⟩ := right.exists_writesText hright
    have hbetween : Unbroken (' ' :: (operator.chars ++ [' '])) := by
      simpa using operator.unbroken
    have hwrites := (WritesAll.cons_text hwl
      (.cons_text (writesText_text hbetween) (.singleton hwr))).concat
    have hdoc : (Rendering.operation.apply file (Node.translate file .python) n).outcome = _ :=
      outcome_operation hl ho hr hdl hdr
    rw [textOf, htext] at hdoc
    refine ⟨_, ?_, by simpa [Expression.text] using hwrites⟩
    rw [Node.translate_of_role hkind]
    exact hdoc
  | .access object property =>
    obtain ⟨hkind, ⟨o, ho, hobject⟩, p, hp, hproperty⟩ := h
    obtain ⟨dobj, hdo, hwo⟩ := object.exists_writesText hobject
    obtain ⟨dp, hdp, hwp⟩ := property.exists_writesText hproperty
    have hwrites := (WritesAll.cons_text hwo
      (.cons_text (writesText_text (s := ['.']) (by decide)) (.singleton hwp))).concat
    refine ⟨_, ?_, hwrites⟩
    rw [Node.translate_of_role hkind]
    exact outcome_access ho hp hdo hdp
  | .call callee arguments =>
    obtain ⟨hkind, ⟨c, hc, hcallee⟩, a, ha, harguments⟩ := h
    obtain ⟨dc, hdc, hwc⟩ := callee.exists_writesText hcallee
    obtain ⟨args, hargs, hwargs⟩ := Expression.exists_forall₂_writesText arguments harguments
    refine ⟨_, ?_, by simpa [Expression.text] using (writesAll_application hwc hwargs).concat⟩
    rw [Node.translate_of_role hkind]
    exact outcome_call hc ha hdc hargs

/-- Several expressions are translated to their texts. -/
theorem Expression.exists_forall₂_writesText (es : List Expression) {ns : List Node}
    (h : Expression.AreAt file.text es ns) :
    ∃ ds, (visitAll (Node.translate file .python) ns).outcome = .ok ds ∧
      List.Forall₂ WritesText ds (Expression.textAll es) := by
  match es with
  | [] =>
    rw [Expression.AreAt] at h
    subst h
    exact ⟨[], rfl, .nil⟩
  | e :: es =>
    obtain ⟨n, rest, rfl, he, hes⟩ := h
    obtain ⟨d, hd, hw⟩ := e.exists_writesText he
    obtain ⟨ds, hds, hws⟩ := Expression.exists_forall₂_writesText es hes
    exact ⟨d :: ds, outcome_visitAll_cons hd hds, .cons hw hws⟩

end

/-! ## Parts of statements -/

/-- Parameters are translated to the names that they bind. -/
theorem exists_forall₂_writesText_parameters {parameters : List Piece} {ns : List Node}
    (h : List.Forall₂ (IsParameterAt file.text) parameters ns) :
    ∃ ds, (visitAll (Node.translate file .python) ns).outcome = .ok ds ∧
      List.Forall₂ WritesText ds (parameters.map fun p => snakeCase p.chars) := by
  induction h with
  | nil => exact ⟨[], rfl, .nil⟩
  | cons hparameter _ ih =>
    obtain ⟨hkind, m, hm, hname⟩ := hparameter
    obtain ⟨d, hd, hw⟩ := Expression.exists_writesText _ hname
    obtain ⟨ds, hds, hws⟩ := ih
    refine ⟨d :: ds, outcome_visitAll_cons ?_ hds, .cons hw hws⟩
    rw [Node.translate_of_role hkind, ← hd]
    exact outcome_pattern hm

/-- A node that holds a statement is no block, and an `if` exactly if the statement is one. -/
theorem Statement.kind_of_isAt {s : Statement} {source : List Char} {n : Node}
    (h : s.IsAt source n) :
    n.kind ≠ .role .block ∧ (s.isConditional = true ↔ n.kind = .role .ifStatement) := by
  cases s with
  | returned e? => cases e? <;> simp [h.1, isConditional]
  | _ => simp [h.1, isConditional]

/-- A block is translated to a colon and the lines of its statements, or to a `pass`. -/
theorem exists_writes_block {ns : List Node} {n : Node} (hblock : IsBlockOf ns n) {ds : List Doc}
    {lines : Nat → List (List Char)} {depth : Nat}
    (hds : (visitAll (Node.translate file .python) ns).outcome = .ok ds)
    (hlines : WritesLines ds lines depth) :
    ∃ d, (n.translate file .python).outcome = .ok d ∧
      d.Writes [':'] (fun k => orPass (k + 1) (lines (k + 1))) (depth + 1) := by
  obtain ⟨hkind, list, hlist, rfl⟩ := hblock
  have hlength := length_of_outcome_visitAll hds
  rcases hlines with ⟨rfl, rfl⟩ | ⟨hne, header, inner, hwrites, rfl⟩
  · have hempty : list.children = [] := List.eq_nil_of_length_eq_zero hlength.symm
    have hpass : Unbroken "pass".toList := by decide
    have hdoc : (n.translate file .python).outcome = .ok (.suite (.text "pass".toList)) := by
      rw [Node.translate_of_role hkind]
      exact outcome_suite_none hlist hempty
    exact ⟨_, hdoc, (writesText_text hpass).suite.mono (by omega)⟩
  · have hchildren : list.children ≠ [] := by
      rw [← List.length_pos_iff, ← hlength]
      exact List.length_pos_iff.2 hne
    have hlistKind : list.kind = .role .syntaxList := by
      simpa using List.find?_some hlist
    have hlistDoc : (list.translate file .python).outcome =
        .ok (.concat (ds.intersperse (.text ['\n']))) := by
      rw [Node.translate_of_role hlistKind]
      exact outcome_visitSeparated ['\n'] hds
    refine ⟨.suite (.concat (ds.intersperse (.text ['\n']))), ?_, ?_⟩
    · rw [Node.translate_of_role hkind]
      exact outcome_suite_some hlist hchildren hlistDoc
    · simpa [orPass] using hwrites.concat.suite

/-! ## Statements -/

mutual

/-- **A statement is translated to its lines.** -/
theorem Statement.exists_writes (s : Statement) {n : Node} (h : s.IsAt file.text n) :
    ∃ d, (n.translate file .python).outcome = .ok d ∧
      d.Writes s.header (fun k => s.inner k) s.depth := by
  match s with
  | .expression e =>
    obtain ⟨hkind, m, hm, he⟩ := h
    obtain ⟨d, hd, hw⟩ := e.exists_writesText he
    refine ⟨d, ?_, hw⟩
    rw [Node.translate_of_role hkind, ← hd]
    exact outcome_firstNamed hm
  | .returned none =>
    obtain ⟨hkind, hnone⟩ := h
    refine ⟨_, ?_, writesText_text (by decide)⟩
    rw [Node.translate_of_role hkind]
    exact outcome_returned_none hnone
  | .returned (some e) =>
    obtain ⟨hkind, m, hm, he⟩ := h
    obtain ⟨d, hd, hw⟩ := e.exists_writesText he
    refine ⟨_, ?_, (WritesAll.singleton hw).plain (by decide)⟩
    rw [Node.translate_of_role hkind]
    exact outcome_returned_some hm hd
  | .imported specifier =>
    obtain ⟨hkind, m, hm, hspecifies⟩ := h
    have himport : Unbroken ("import ".toList ++ specifier.chars) :=
      unbroken_append.2 ⟨by decide, specifier.unbroken⟩
    refine ⟨.text ("import ".toList ++ specifier.chars), ?_, writesText_text himport⟩
    rw [Node.translate_of_role hkind, ← specifies_iff.1 hspecifies]
    exact outcome_importedModule hm
  | .function name parameters body =>
    obtain ⟨hkind, ⟨m, hm, hname⟩, ⟨ps, hps, hparameters⟩, b, hb, ns, hblock, hbody⟩ := h
    obtain ⟨dname, hdname, hwname⟩ := Expression.exists_writesText _ hname
    obtain ⟨dps, hdps, hwps⟩ := exists_forall₂_writesText_parameters hparameters
    obtain ⟨ds, hds, hlines⟩ := Statement.exists_writesLines body hbody
    obtain ⟨dbody, hdbody, hwbody⟩ := exists_writes_block hblock hds hlines
    have hheader := (writesAll_application hwname hwps).plain (s := "def ".toList) (by decide)
    refine ⟨_, ?_, (WritesAll.cons_text hheader (.singleton hwbody)).concat⟩
    rw [Node.translate_of_role hkind]
    exact outcome_definition hm hps hb hdname hdps hdbody
  | .ifThen condition consequence =>
    obtain ⟨hkind, ⟨c, hc, hcondition⟩, ⟨b, hb, hconsequence⟩, hnone⟩ := h
    obtain ⟨dc, hdc, hwc⟩ := condition.exists_writesText hcondition
    obtain ⟨db, hdb, hwb⟩ := consequence.exists_writes hconsequence
    have hif := (WritesAll.cons_text hwc (.singleton hwb)).plain (s := "if ".toList) (by decide)
    refine ⟨_, ?_, (WritesAll.singleton hif).concat⟩
    rw [Node.translate_of_role hkind]
    exact outcome_branches_none hc hb hnone hdc hdb
  | .ifElse condition consequence alternative =>
    obtain ⟨hkind, ⟨c, hc, hcondition⟩, ⟨b, hb, hconsequence⟩, a, ha, m, hm, halternative⟩ := h
    obtain ⟨dc, hdc, hwc⟩ := condition.exists_writesText hcondition
    obtain ⟨db, hdb, hwb⟩ := consequence.exists_writes hconsequence
    obtain ⟨de, hde, hwe⟩ := alternative.exists_writes_else halternative
    have hif := (WritesAll.cons_text hwc (.singleton hwb)).plain (s := "if ".toList) (by decide)
    refine ⟨_, ?_, (WritesAll.cons_lines hif (.singleton hwe)).concat⟩
    rw [Node.translate_of_role hkind]
    exact outcome_branches_some hc hb ha hm hdc hdb hde

/-- A branch is translated to a colon and its lines. -/
theorem Branch.exists_writes (b : Branch) {n : Node} (h : b.IsAt file.text n) :
    ∃ d, (visitBranch (Node.translate file .python) n).outcome = .ok d ∧
      d.Writes [':'] (fun k => b.lines (k + 1)) (b.depth + 1) := by
  match b with
  | .block statements =>
    obtain ⟨ns, hblock, hstatements⟩ := h
    obtain ⟨ds, hds, hlines⟩ := Statement.exists_writesLines statements hstatements
    rw [visitBranch_of_block hblock.1]
    exact exists_writes_block hblock hds hlines
  | .single statement =>
    obtain ⟨hblock, -⟩ := Statement.kind_of_isAt h
    obtain ⟨d, hd, hw⟩ := statement.exists_writes h
    exact ⟨_, outcome_visitBranch_of_ne hblock hd, hw.suite⟩

/-- An alternative is translated to its lines. -/
theorem Branch.exists_writes_else (b : Branch) {n : Node} (h : b.IsAt file.text n) :
    ∃ d, (visitElse (Node.translate file .python) n).outcome = .ok d ∧
      d.Writes [] (fun k => b.elseLines k) b.elseDepth := by
  match b with
  | .block statements =>
    obtain ⟨ns, hblock, hstatements⟩ := h
    obtain ⟨ds, hds, hlines⟩ := Statement.exists_writesLines statements hstatements
    obtain ⟨d, hd, hw⟩ := exists_writes_block hblock hds hlines
    have hne : n.kind ≠ .role .ifStatement := by simp [hblock.1]
    have hbranch : (visitBranch (Node.translate file .python) n).outcome = .ok d := by
      rw [visitBranch_of_block hblock.1, hd]
    exact ⟨_, outcome_visitElse_of_ne hne hbranch,
      (WritesAll.singleton hw).plain_lineBreak (s := "else".toList) (by decide)⟩
  | .single statement =>
    obtain ⟨hblock, hif⟩ := Statement.kind_of_isAt h
    obtain ⟨d, hd, hw⟩ := statement.exists_writes h
    -- The `else` is left out before another `if`: its `el` continues in the header of that `if`.
    by_cases hconditional : statement.isConditional = true
    · have helif := (WritesAll.singleton hw).plain_lineBreak (s := "el".toList) (by decide)
      exact ⟨_, outcome_visitElse_of_if (hif.1 hconditional) hd,
        by simpa [Branch.elseLines, Branch.elseDepth, hconditional] using helif⟩
    · have helse := (WritesAll.singleton hw.suite).plain_lineBreak (s := "else".toList) (by decide)
      exact ⟨_, outcome_visitElse_of_ne (fun hn => hconditional (hif.2 hn))
          (outcome_visitBranch_of_ne hblock hd),
        by simpa [Branch.elseLines, Branch.elseDepth, hconditional] using helse⟩

/-- Statements are translated to their lines. -/
theorem Statement.exists_writesLines (ss : List Statement) {ns : List Node}
    (h : Statement.AreAt file.text ss ns) :
    ∃ ds, (visitAll (Node.translate file .python) ns).outcome = .ok ds ∧
      WritesLines ds (fun k => Statement.linesAll k ss) (Statement.depthAll ss) := by
  match ss with
  | [] =>
    rw [Statement.AreAt] at h
    subst h
    exact ⟨[], rfl, .inl ⟨rfl, rfl⟩⟩
  | s :: ss =>
    obtain ⟨n, rest, rfl, hs, hss⟩ := h
    obtain ⟨d, hd, hw⟩ := s.exists_writes hs
    obtain ⟨ds, hds, hws⟩ := Statement.exists_writesLines ss hss
    exact ⟨d :: ds, outcome_visitAll_cons hd hds, .cons hw hws⟩

end

/-! ## Files -/

/-- **The layout of Python.**  A file that holds one list of statements is translated without a mark,
and its text is that of the lines of the statements.  The renderer accepts the document as long as
four spaces for each of the blocks inside each other make a word. -/
theorem translate_python_eq_lines {root : Node} {ss : List Statement}
    (h : IsFileAt file.text ss root) :
    ∃ doc, (root.translate file .python).outcome = .ok doc ∧ doc.unknownCount = 0 ∧
      doc.render = ['\n'].intercalate (Statement.linesAll 0 ss) ∧
      (4 * Statement.depthAll ss < indentLimit →
        doc.render? = .ok (['\n'].intercalate (Statement.linesAll 0 ss))) := by
  obtain ⟨hroot, list, hchildren, hlist, hstatements⟩ := h
  obtain ⟨ds, hds, hlines⟩ := Statement.exists_writesLines ss hstatements
  have hlistDoc : (list.translate file .python).outcome =
      .ok (.concat (ds.intersperse (.text ['\n']))) := by
    rw [Node.translate_of_role hlist]
    exact outcome_visitSeparated ['\n'] hds
  have hdoc : (root.translate file .python).outcome =
      .ok (.concat [.concat (ds.intersperse (.text ['\n']))]) := by
    rw [Node.translate_eq, renderNode, hroot, hchildren]
    exact outcome_visitConcat (outcome_visitAll_cons hlistDoc rfl)
  exact ⟨_, hdoc, hlines.render_concat⟩

/-- A token that no field holds. -/
def leafAt (kind : Kind) (start stop : Nat) : Node := ⟨kind, ⟨start, stop⟩, none, false, []⟩

/-- A named node. -/
def nodeAt (kind : Kind) (start stop : Nat) (field? : Option String) (children : List Node) :
    Node :=
  ⟨kind, ⟨start, stop⟩, field?, true, children⟩

/-- `function fooBar(a) { if (a) return b; else if (c) { } else d; }`. -/
def chainedBranches : Node :=
  let mark (start : Nat) : Node := leafAt .punctuation start (start + 1)
  let token : Nat → Nat → Node := leafAt (.role .token)
  let name (start stop : Nat) (field? : Option String) : Node :=
    nodeAt (.role .identifier) start stop field? []
  nodeAt .sourceFile 0 63 none
    [nodeAt (.role .syntaxList) 0 63 none
      [nodeAt (.role .functionDeclaration) 0 63 none
        [token 0 8, name 9 15 (some "name"),
          nodeAt (.other "formal_parameters") 15 18 (some "parameters")
            [mark 15, nodeAt (.role .parameter) 16 17 none [name 16 17 (some "pattern")], mark 17],
          nodeAt (.role .block) 19 63 (some "body")
            [mark 19,
              nodeAt (.role .syntaxList) 21 61 none
                [nodeAt (.role .ifStatement) 21 61 none
                  [token 21 23, mark 24, name 25 26 (some "condition"), mark 26,
                    nodeAt (.role .returnStatement) 28 37 (some "consequence")
                      [token 28 34, name 35 36 none, mark 36],
                    nodeAt (.other "else_clause") 38 61 (some "alternative")
                      [token 38 42,
                        nodeAt (.role .ifStatement) 43 61 none
                          [token 43 45, mark 46, name 47 48 (some "condition"), mark 48,
                            nodeAt (.role .block) 50 53 (some "consequence")
                              [mark 50, nodeAt (.role .syntaxList) 51 51 none [], mark 52],
                            nodeAt (.other "else_clause") 54 61 (some "alternative")
                              [token 54 58,
                                nodeAt (.role .expressionStatement) 59 61 none
                                  [name 59 60 none, mark 60]]]]]],
              mark 62]]]]

/-- `import f from './f'; d.logAll(a + b, '\'"');`. -/
def importedCall : Node :=
  let mark (start : Nat) : Node := leafAt .punctuation start (start + 1)
  let token : Nat → Nat → Node := leafAt (.role .token)
  let name (start stop : Nat) (field? : Option String) : Node :=
    nodeAt (.role .identifier) start stop field? []
  nodeAt .sourceFile 0 44 none
    [nodeAt (.role .syntaxList) 0 44 none
      [nodeAt (.role .importDeclaration) 0 20 none
        [token 0 6, nodeAt (.other "import_clause") 7 8 none [name 7 8 none], token 9 13,
          nodeAt (.role .stringLiteral) 14 19 (some "source") [], mark 19],
        nodeAt (.role .expressionStatement) 21 44 none
          [nodeAt (.role .callExpression) 21 43 none
            [nodeAt (.role .propertyAccess) 21 29 (some "function")
              [name 21 22 (some "object"), token 22 23, name 23 29 (some "property")],
              nodeAt (.other "arguments") 29 43 (some "arguments")
                [mark 29,
                  nodeAt (.role .binaryExpression) 30 35 none
                    [name 30 31 (some "left"), token 32 33, name 34 35 (some "right")],
                  mark 35, nodeAt (.role .stringLiteral) 37 42 none [], mark 42]],
            mark 43]]]

/-- One file has an `if` without braces, an `elif` with an empty block, and an `else` in a function;
the other has an import, and the call of an access with an operation and a string. -/
theorem translate_chainedBranches_eq_lines :
    let name (raw : List Char) (h : Unbroken raw) : Expression := .name ⟨raw, h⟩
    let chain : Statement := .ifElse (name ['c'] (by decide)) (.block [])
      (.single (.expression (name ['d'] (by decide))))
    let branches : List Statement :=
      [.function ⟨"fooBar".toList, by decide⟩ [⟨['a'], by decide⟩]
        [.ifElse (name ['a'] (by decide))
          (.single (.returned (some (name ['b'] (by decide))))) (.single chain)]]
    let branchesFile : SourceFile :=
      ⟨"input.ts", "function fooBar(a) { if (a) return b; else if (c) { } else d; }".toList⟩
    let branchesText : List Char :=
      ("def foo_bar(a):\n    if a:\n        return b\n    elif c:\n        pass\n" ++
        "    else:\n        d").toList
    let call : Expression :=
      .call (.access (name ['d'] (by decide)) (name "logAll".toList (by decide)))
        [.binary (name ['a'] (by decide)) ⟨['+'], by decide⟩ (name ['b'] (by decide)),
          .string ['\'', '"']]
    let calls : List Statement := [.imported ⟨"./f".toList, by decide⟩, .expression call]
    let callsFile : SourceFile :=
      ⟨"input.ts", "import f from './f'; d.logAll(a + b, '\\'\"');".toList⟩
    let callsText : List Char := "import ./f\nd.log_all(a + b, \"'\\\"\")".toList
    (IsFileAt branchesFile.text branches chainedBranches ∧
      branchesText = ['\n'].intercalate (Statement.linesAll 0 branches) ∧
      ∃ doc, (chainedBranches.translate branchesFile .python).outcome = .ok doc ∧
        doc.unknownCount = 0 ∧ doc.render = branchesText ∧ doc.render? = .ok branchesText) ∧
    IsFileAt callsFile.text calls importedCall ∧
      callsText = ['\n'].intercalate (Statement.linesAll 0 calls) ∧
      ∃ doc, (importedCall.translate callsFile .python).outcome = .ok doc ∧
        doc.unknownCount = 0 ∧ doc.render = callsText ∧ doc.render? = .ok callsText := by
  intro name chain branches branchesFile branchesText call calls callsFile callsText
  constructor
  · have h : IsFileAt branchesFile.text branches chainedBranches :=
      ⟨rfl, _, rfl, rfl, _, _, rfl,
        ⟨rfl, ⟨_, rfl, rfl, rfl⟩, ⟨_, rfl, .cons ⟨rfl, _, rfl, rfl, rfl⟩ .nil⟩, _, rfl, _,
          ⟨rfl, _, rfl, rfl⟩, _, _, rfl,
          ⟨rfl, ⟨_, rfl, rfl, rfl⟩, ⟨_, rfl, rfl, _, rfl, rfl, rfl⟩, _, rfl, _, rfl,
            rfl, ⟨_, rfl, rfl, rfl⟩, ⟨_, rfl, _, ⟨rfl, _, rfl, rfl⟩, rfl⟩, _, rfl, _, rfl,
            rfl, _, rfl, rfl, rfl⟩,
          rfl⟩,
        rfl⟩
    have htext : branchesText = ['\n'].intercalate (Statement.linesAll 0 branches) := by
      decide +kernel
    obtain ⟨doc, hdoc, hunmarked, hrender, hrender?⟩ := translate_python_eq_lines h
    rw [← htext] at hrender hrender?
    exact ⟨h, htext, doc, hdoc, hunmarked, hrender, hrender? (by decide)⟩
  · have hmark : '\'' ∈ specifierMarks := by decide
    have hquote : '\'' ∈ Literal.quoteMarks := by decide
    have hspells : Literal.Spells ['\\', '\'', '"'] ['\'', '"'] :=
      .char (.escaped (by decide)) (.char (.itself (by decide)) .nil)
    have hsource : Specifies ['\'', '.', '/', 'f', '\''] ['.', '/', 'f'] :=
      .marked hmark hmark ['.', '/', 'f']
    have hstring : Literal.Denotes ['\'', '\\', '\'', '"', '\''] ['\'', '"'] :=
      .spelled hquote hspells
    have h : IsFileAt callsFile.text calls importedCall :=
      ⟨rfl, _, rfl, rfl, _, _, rfl, ⟨rfl, _, rfl, hsource⟩, _, _, rfl,
        ⟨rfl, _, rfl, rfl, ⟨_, rfl, rfl, ⟨_, rfl, rfl, rfl⟩, _, rfl, rfl, rfl⟩, _, rfl,
          _, _, rfl, ⟨rfl, ⟨_, rfl, rfl, rfl⟩, ⟨_, rfl, rfl⟩, _, rfl, rfl, rfl⟩,
          _, _, rfl, ⟨rfl, hstring⟩, rfl⟩,
        rfl⟩
    have htext : callsText = ['\n'].intercalate (Statement.linesAll 0 calls) := by
      decide +kernel
    obtain ⟨doc, hdoc, hunmarked, hrender, hrender?⟩ := translate_python_eq_lines h
    rw [← htext] at hrender hrender?
    exact ⟨h, htext, doc, hdoc, hunmarked, hrender, hrender? (by decide)⟩

end TreeScribe.Python
