import TreeScribe.Proofs.Outline.Text

/-!
# The layout of an outline

An outline is meant to have one line for each shown node, two spaces further in than the line of the
nearest shown node above it.  But the line break and the spaces in front of a line come with the
marker before it.  Main statement: an outline has this layout exactly if each shown node is one level
below the shown node before it (`translate_outline_laidOut_iff`), so two siblings are enough to break
it (`translate_twoStatements_not_laidOut`).
-/

namespace TreeScribe

open Traced Doc

/-! ## Laid out texts -/

/-- A text that consists of lines, up to blanks behind the last one. -/
def LaidOut (lines : List (List Char)) (text : List Char) : Prop :=
  ∃ trailing, (∀ c ∈ trailing, c.isWhitespace = true) ∧ text = ['\n'].intercalate lines ++ trailing

theorem laidOut_nil {text : List Char} (h : ∀ c ∈ text, c.isWhitespace = true) :
    LaidOut [] text :=
  ⟨text, h, rfl⟩

/-- The number of spaces in front of a parenthesis can be read off. -/
theorem spaces_append_inj {j k : Nat} {s t : List Char} :
    List.replicate j ' ' ++ '(' :: s = List.replicate k ' ' ++ '(' :: t ↔ j = k ∧ s = t := by
  induction j generalizing k with
  | zero =>
    cases k with
    | zero => simp
    | succ k => simp [List.replicate_succ]
  | succ j ih =>
    cases k with
    | zero => simp [List.replicate_succ]
    | succ k => simp [List.replicate_succ, ih]

/-- A text that starts with a line is laid out if this line has its indent, and so has the rest. -/
theorem laidOut_cons_iff {j k : Nat} {line rest : List Char} {lines : List (List Char)} :
    LaidOut ((List.replicate j ' ' ++ '(' :: line) :: lines)
        (List.replicate k ' ' ++ '(' :: (line ++ '\n' :: rest)) ↔
      k = j ∧ LaidOut lines rest := by
  constructor
  · rintro ⟨trailing, hblank, htext⟩
    rw [intercalate_lineBreak, List.append_assoc, List.append_assoc, List.cons_append,
      spaces_append_inj, List.append_cancel_left_eq] at htext
    obtain ⟨hindent, hrest⟩ := htext
    refine ⟨hindent, ?_⟩
    cases lines with
    | nil =>
      refine laidOut_nil fun c hc => hblank c ?_
      rw [show trailing = '\n' :: rest from hrest.symm]
      exact List.mem_cons_of_mem _ hc
    | cons next lines =>
      refine ⟨trailing, hblank, ?_⟩
      rw [intercalate_lineBreak]
      simpa using hrest
  · rintro ⟨rfl, trailing, hblank, rfl⟩
    cases lines with
    | nil =>
      refine ⟨'\n' :: trailing, ?_, by simp⟩
      rw [List.forall_mem_cons]
      exact ⟨by decide, hblank⟩
    | cons next lines =>
      refine ⟨trailing, hblank, ?_⟩
      rw [List.intercalate_cons_cons]
      simp

/-! ## Lines of an outline -/

variable {source : List Char}

/-- The line for a node: its marker behind two spaces for each shown node above it. -/
def Placed.ownLine (source : List Char) (p : Placed) : List Char :=
  List.replicate (2 * p.depth) ' ' ++ p.node.markText source

/-- Markers that start `depth` levels in are laid out if each is one level below the one before. -/
theorem laidOut_flatMap_line_iff (ps : List Placed) (depth : Nat) :
    LaidOut (ps.map (Placed.ownLine source))
        (List.replicate (2 * depth) ' ' ++ ps.flatMap (Placed.line source)) ↔
      ps.map Placed.depth = List.range' depth ps.length := by
  induction ps generalizing depth with
  | nil =>
    have hblank : ∀ c ∈ List.replicate (2 * depth) ' ', c.isWhitespace = true := by
      intro c hc
      rw [List.eq_of_mem_replicate hc]
      rfl
    simpa using laidOut_nil hblank
  | cons p ps ih =>
    have htext : (p :: ps).flatMap (Placed.line source) =
        '(' :: ((p.node.kind.name.toList ++ ' ' :: (p.node.text source ++ [')'])) ++
          '\n' :: (List.replicate (2 * (p.depth + 1)) ' ' ++
            ps.flatMap (Placed.line source))) := by
      simp [Placed.line, Node.markText]
    rw [htext, List.map_cons, Placed.ownLine, Node.markText, laidOut_cons_iff, ih, List.map_cons,
      List.length_cons, List.range'_succ, List.cons.injEq]
    constructor
    · rintro ⟨hindent, hrest⟩
      obtain rfl : depth = p.depth := by omega
      exact ⟨rfl, hrest⟩
    · rintro ⟨rfl, hrest⟩
      exact ⟨rfl, hrest⟩

namespace Node

/-- **The layout of an outline.**  The outline of a tree has one line for each shown node, two
spaces further in than that of the nearest shown node above, exactly if each shown node is one level
below the shown node before it.  So the outline of a chain has this layout, and no outline has it in
which two shown nodes are equally deep. -/
theorem translate_outline_laidOut_iff (file : SourceFile) (n : Node)
    (hnames : ∀ m ∈ n.nodes, Unbroken m.kind.name.toList) :
    ∃ doc, (n.translate file .outline).outcome = .ok doc ∧
      (LaidOut (n.shown.map (Placed.ownLine file.text)) doc.render ↔
        n.shown.map Placed.depth = List.range n.shown.length) := by
  refine ⟨n.outlineDoc file.text, outcome_translate_outline n, ?_⟩
  have hrender : (n.outlineDoc file.text).render = n.shown.flatMap (Placed.line file.text) :=
    renderAt_outlineDoc n [] hnames
  rw [hrender, List.range_eq_range']
  exact laidOut_flatMap_line_iff n.shown 0

/-- The statement `a;` of a source file. -/
def oneStatement : Node :=
  .plain .sourceFile ⟨0, 2⟩ [.plain (.role .syntaxList) ⟨0, 2⟩
    [.plain (.role .expressionStatement) ⟨0, 2⟩
      [.plain (.role .identifier) ⟨0, 1⟩ [], ⟨.punctuation, ⟨1, 2⟩, none, false, []⟩]]]

/-- The statements `a;` and `b;` of a source file. -/
def twoStatements : Node :=
  .plain .sourceFile ⟨0, 4⟩ [.plain (.role .syntaxList) ⟨0, 4⟩
    [.plain (.role .expressionStatement) ⟨0, 2⟩
      [.plain (.role .identifier) ⟨0, 1⟩ [], ⟨.punctuation, ⟨1, 2⟩, none, false, []⟩],
    .plain (.role .expressionStatement) ⟨2, 4⟩
      [.plain (.role .identifier) ⟨2, 3⟩ [], ⟨.punctuation, ⟨3, 4⟩, none, false, []⟩]]]

theorem translate_oneStatement_laidOut :
    (∀ m ∈ oneStatement.nodes, Unbroken m.kind.name.toList) ∧
      ∃ doc, (oneStatement.translate ⟨"input.ts", "a;".toList⟩ .outline).outcome = .ok doc ∧
        LaidOut ["(SyntaxList a;)".toList, "  (ExpressionStatement a;)".toList,
          "    (Identifier a)".toList] doc.render := by
  have hnames : ∀ m ∈ oneStatement.nodes, Unbroken m.kind.name.toList := by decide
  obtain ⟨doc, hdoc, hlayout⟩ :=
    translate_outline_laidOut_iff ⟨"input.ts", "a;".toList⟩ oneStatement hnames
  refine ⟨hnames, doc, hdoc, ?_⟩
  exact hlayout.2 (by decide)

/-- The second statement starts as far in as a child of the first one would. -/
theorem translate_twoStatements_not_laidOut :
    let file : SourceFile := ⟨"input.ts", "a;b;".toList⟩
    twoStatements.kind = .sourceFile ∧
      (∀ m ∈ twoStatements.nodes, Unbroken m.kind.name.toList ∧ Unbroken (m.text file.text)) ∧
      ∃ doc, (twoStatements.translate file .outline).outcome = .ok doc ∧
        doc.render = ['\n'].intercalate
          ["(SyntaxList a;b;)".toList, "  (ExpressionStatement a;)".toList,
            "    (Identifier a)".toList, "      (ExpressionStatement b;)".toList,
            "    (Identifier b)".toList, "      ".toList] ∧
        ¬ LaidOut (twoStatements.shown.map (Placed.ownLine file.text)) doc.render := by
  intro file
  have hrender : (twoStatements.outlineDoc file.text).render =
      twoStatements.shown.flatMap (Placed.line file.text) :=
    renderAt_outlineDoc twoStatements [] (by decide)
  refine ⟨rfl, by decide, twoStatements.outlineDoc file.text, outcome_translate_outline _, ?_, ?_⟩
  · rw [hrender]
    rfl
  · rw [hrender]
    intro hlayout
    have hdepths := (laidOut_flatMap_line_iff twoStatements.shown 0).1 hlayout
    revert hdepths
    decide

end Node

end TreeScribe
