import TreeScribe.Proofs.Node.Placed
import TreeScribe.Proofs.Translate.Markers
import TreeScribe.Proofs.Translate.Outcome

/-!
# The text of an outline

The outline scheme marks every node but source files and punctuation, which give way to their
children.  Main statement: every tree has an outline; it has a mark for each shown node, and its text
is made of their markers, parents before children, each with a line break behind it and two spaces
for the node itself and for every shown node above it (`translate_outline_eq_lines`).
-/

namespace TreeScribe

open Traced Doc

/-- The marker of a node, and the beginning of the line behind it. -/
def Placed.line (source : List Char) (p : Placed) : List Char :=
  p.node.markText source ++ '\n' :: List.replicate (2 * (p.depth + 1)) ' '

/-! ## The document of an outline -/

namespace Node

section

variable (source : List Char)

mutual

/-- The outline of a tree. -/
def outlineDoc : Node → Doc
  | ⟨kind, span, field?, named, children⟩ =>
    let n : Node := ⟨kind, span, field?, named, children⟩
    if n.isShown then n.markDoc source (outlineDocs children) else .concat (outlineDocs children)

/-- The outlines of several trees. -/
def outlineDocs : List Node → List Doc
  | [] => []
  | n :: ns => n.outlineDoc :: outlineDocs ns

end

end

variable {source : List Char} {file : SourceFile}

theorem outcome_renderMarker {visit : Node → Traced Doc} {n : Node} {ds : List Doc}
    (hds : (visitAll visit n.children).outcome = .ok ds) :
    (renderMarker file visit n).outcome = .ok (n.markDoc file.text ds) := by
  rw [renderMarker, outcome_bind_of_ok (outcome_report _), outcome_bind_of_ok hds]
  rfl

/-- The outline scheme marks the shown nodes, and puts the children in place of the others. -/
theorem outcome_renderNode_outline {visit : Node → Traced Doc} {n : Node} {ds : List Doc}
    (hds : (visitAll visit n.children).outcome = .ok ds) :
    (renderNode file visit .outline n).outcome =
      .ok (if n.isShown then n.markDoc file.text ds else .concat ds) := by
  unfold renderNode
  cases hkind : n.kind with
  | sourceFile | punctuation =>
    have hhidden : n.isShown = false := by simp [isShown, hkind]
    rw [hhidden]
    exact outcome_visitConcat hds
  | role role =>
    have hshown : n.isShown = true := by simp [isShown, hkind]
    rw [hshown]
    exact outcome_renderMarker hds
  | other name =>
    have hshown : n.isShown = true := by simp [isShown, hkind]
    rw [hshown]
    exact outcome_renderMarker hds

mutual

/-- **Every tree has an outline.** -/
theorem outcome_translate_outline (n : Node) :
    (n.translate file .outline).outcome = .ok (n.outlineDoc file.text) := by
  obtain ⟨kind, span, field?, named, children⟩ := n
  rw [translate_eq, outlineDoc]
  exact outcome_renderNode_outline (outcome_visitAll_outline children)

theorem outcome_visitAll_outline (ns : List Node) :
    (visitAll (Node.translate file .outline) ns).outcome = .ok (outlineDocs file.text ns) := by
  match ns with
  | [] => rfl
  | n :: ns =>
    exact outcome_visitAll_cons (outcome_translate_outline n) (outcome_visitAll_outline ns)

end

/-! ## Its marks -/

theorem unknownCount_markDoc (n : Node) (ds : List Doc) :
    (n.markDoc source ds).unknownCount = unknownCountAll ds + 1 := by
  simp [markDoc, Doc.marked, Doc.plain, Doc.text, withIndent, verbatimText, unknownCount,
    unknownCountAll, Nat.add_comm]

/-- The indent of a mark is in force for its parts and its children. -/
theorem fitsAt_markDoc (outer : Nat) (n : Node) (ds : List Doc) :
    (n.markDoc source ds).fitsAt outer =
      (decide (outer + 2 < indentLimit) && fitAllAt (outer + 2) ds) := by
  simp [markDoc, Doc.marked, Doc.plain, Doc.text, withIndent, verbatimText, fitsAt, fitAllAt,
    Layout.none]

mutual

theorem unknownCount_outlineDoc (n : Node) :
    (n.outlineDoc source).unknownCount = (n.nodes.filter isShown).length := by
  obtain ⟨kind, span, field?, named, children⟩ := n
  have hchildren := unknownCount_outlineDocs children
  rw [outlineDoc, nodes]
  by_cases hshown : (⟨kind, span, field?, named, children⟩ : Node).isShown = true
  · rw [if_pos hshown, List.filter_cons_of_pos hshown, unknownCount_markDoc, hchildren,
      List.length_cons]
  · rw [if_neg hshown, List.filter_cons_of_neg hshown, ← hchildren]
    exact unknownCount_plain [] _

theorem unknownCount_outlineDocs (ns : List Node) :
    unknownCountAll (outlineDocs source ns) = ((nodesAll ns).filter isShown).length := by
  match ns with
  | [] => rfl
  | n :: ns =>
    rw [outlineDocs, unknownCountAll, nodesAll, List.filter_append, List.length_append,
      unknownCount_outlineDoc n, unknownCount_outlineDocs ns]

end

/-! ## Its text -/

mutual

/-- **The text of an outline** under two spaces for each shown node above it. -/
theorem renderAt_outlineDoc (n : Node) (above : List Node)
    (hnames : ∀ m ∈ n.nodes, Unbroken m.kind.name.toList) :
    (n.outlineDoc source).renderAt (2 * above.countP isShown) =
      ((n.placedBelow above).filter (·.node.isShown)).flatMap (Placed.line source) := by
  obtain ⟨kind, span, field?, named, children⟩ := n
  set n : Node := ⟨kind, span, field?, named, children⟩ with hn
  have hname : Unbroken n.kind.name.toList := hnames n (mem_nodes_self n)
  have hchildren := renderAllAt_outlineDocs children (n :: above) fun m hm =>
    hnames m (mem_nodes_iff.2 (.inr hm))
  rw [hn, outlineDoc, placedBelow, ← hn, List.filter_cons]
  by_cases hshown : n.isShown = true
  · rw [List.countP_cons_of_pos hshown] at hchildren
    rw [if_pos hshown, if_pos hshown, List.flatMap_cons, renderAt_markDoc _ _ hname, ← hchildren,
      Placed.line, Placed.depth]
    simp [Nat.mul_add]
  · rw [List.countP_cons_of_neg hshown] at hchildren
    rw [if_neg hshown, if_neg hshown, ← hchildren]
    exact renderAt_plain _ [] _

theorem renderAllAt_outlineDocs (ns : List Node) (above : List Node)
    (hnames : ∀ m ∈ nodesAll ns, Unbroken m.kind.name.toList) :
    renderAllAt (2 * above.countP isShown) (outlineDocs source ns) =
      ((placedAllBelow above ns).filter (·.node.isShown)).flatMap (Placed.line source) := by
  match ns with
  | [] => rfl
  | n :: ns =>
    have hfirst := renderAt_outlineDoc n above fun m hm => hnames m (List.mem_append_left _ hm)
    have hrest := renderAllAt_outlineDocs ns above fun m hm => hnames m (List.mem_append_right _ hm)
    rw [outlineDocs, renderAllAt, placedAllBelow, List.filter_append, List.flatMap_append, hfirst,
      hrest]

end

/-! ## Its indents -/

mutual

/-- The indents of an outline are words if those behind its markers are. -/
theorem fitsAt_outlineDoc (n : Node) (above : List Node)
    (habove : 2 * above.countP isShown < indentLimit) :
    (n.outlineDoc source).fitsAt (2 * above.countP isShown) = true ↔
      ∀ p ∈ (n.placedBelow above).filter (·.node.isShown), 2 * (p.depth + 1) < indentLimit := by
  obtain ⟨kind, span, field?, named, children⟩ := n
  set n : Node := ⟨kind, span, field?, named, children⟩ with hn
  rw [hn, outlineDoc, placedBelow, ← hn, List.filter_cons]
  by_cases hshown : n.isShown = true
  · rw [if_pos hshown, if_pos hshown, List.forall_mem_cons, fitsAt_markDoc, Placed.depth]
    rw [Bool.and_eq_true, decide_eq_true_iff, ← Nat.mul_add_one]
    refine and_congr_right fun hword => ?_
    have hbelow := List.countP_cons_of_pos (l := above) hshown
    rw [← hbelow] at hword ⊢
    exact fitAllAt_outlineDocs children (n :: above) hword
  · have hchildren := fitAllAt_outlineDocs children (n :: above) (by
      rwa [List.countP_cons_of_neg hshown])
    rw [List.countP_cons_of_neg hshown] at hchildren
    rw [if_neg hshown, if_neg hshown, ← hchildren, concat, fitsAt_plain, decide_eq_true habove,
      Bool.true_and]

theorem fitAllAt_outlineDocs (ns : List Node) (above : List Node)
    (habove : 2 * above.countP isShown < indentLimit) :
    fitAllAt (2 * above.countP isShown) (outlineDocs source ns) = true ↔
      ∀ p ∈ (placedAllBelow above ns).filter (·.node.isShown), 2 * (p.depth + 1) < indentLimit := by
  match ns with
  | [] => simp [outlineDocs, fitAllAt, placedAllBelow]
  | n :: ns =>
    rw [outlineDocs, fitAllAt, placedAllBelow, List.filter_append, List.forall_mem_append,
      Bool.and_eq_true, fitsAt_outlineDoc n above habove, fitAllAt_outlineDocs ns above habove]

end

/-- **The outline of a tree.**  Every tree has one.  It has a mark for each node that is shown, and
its text is made of the markers of these nodes, parents before children, with the raw source text
unchanged: behind each marker there is a line break, and two spaces for the node itself and for each
shown node above it.  Only an indent that is no word can keep this text from being written. -/
theorem translate_outline_eq_lines (file : SourceFile) (n : Node) :
    ∃ doc, (n.translate file .outline).outcome = .ok doc ∧
      doc.unknownCount = (n.nodes.filter isShown).length ∧
      ((∀ m ∈ n.nodes, Unbroken m.kind.name.toList) →
        doc.render = n.shown.flatMap (Placed.line file.text) ∧
        doc.render? =
          if ∀ p ∈ n.shown, 2 * (p.depth + 1) < indentLimit then
            .ok (n.shown.flatMap (Placed.line file.text))
          else .error .addition) := by
  refine ⟨n.outlineDoc file.text, outcome_translate_outline n, unknownCount_outlineDoc n, ?_⟩
  intro hnames
  have hrender : (n.outlineDoc file.text).render = n.shown.flatMap (Placed.line file.text) :=
    renderAt_outlineDoc n [] hnames
  have hfits : (n.outlineDoc file.text).fitsAt 0 = true ↔
      ∀ p ∈ n.shown, 2 * (p.depth + 1) < indentLimit :=
    fitsAt_outlineDoc n [] (by decide)
  refine ⟨hrender, ?_⟩
  rw [render?, hrender]
  exact if_congr hfits rfl rfl

/-- A block with punctuation that holds a node, and with a source file inside. -/
def oddPlaces : Node :=
  let hidden : Node := .plain .sourceFile ⟨3, 6⟩ [.plain (.other "inner") ⟨3, 6⟩ []]
  .plain (.role .block) ⟨0, 6⟩
    [.plain .punctuation ⟨0, 1⟩ [.plain (.role .identifier) ⟨1, 2⟩ []], hidden]

/-- Nodes below hidden ones are as deep as these, and texts of several lines are not indented. -/
theorem translate_oddPlaces_eq_lines :
    ∃ doc, (oddPlaces.translate ⟨"input.ts", "(abc\nd".toList⟩ .outline).outcome = .ok doc ∧
      doc.unknownCount = 3 ∧
      doc.render? =
        .ok "(Block (abc\nd)\n  (Identifier a)\n    (inner c\nd)\n    ".toList := by
  obtain ⟨doc, hdoc, hcount, htext⟩ :=
    translate_outline_eq_lines ⟨"input.ts", "(abc\nd".toList⟩ oddPlaces
  obtain ⟨-, htext⟩ := htext (by decide)
  refine ⟨doc, hdoc, hcount, ?_⟩
  rw [htext]
  decide

end Node

end TreeScribe
