import TreeScribe.Proofs.Doc.Lines
import TreeScribe.Proofs.Text.InOrder
import TreeScribe.Proofs.Translate.Assembly

/-!
# Markers in the rendered text

A marked node is written as a marker, `(KIND TEXT)`, where `TEXT` is its raw source text.  Main
statement: the markers of a translated tree stand in its text in the order in which they are
reported, each of them unchanged, whatever indents, separators and tails enclose them
(`exists_positions_markText`).
-/

namespace TreeScribe

open Doc

/-- The marker of a node, with its raw source text. -/
def Node.markText (source : List Char) (n : Node) : List Char :=
  '(' :: (n.kind.name.toList ++ ' ' :: (n.text source ++ [')']))

/-- A marked document writes the marker, and its children on lines that are two spaces further in. -/
theorem Node.renderAt_markDoc {source : List Char} {n : Node} (outer : Nat) (ds : List Doc)
    (h : Unbroken n.kind.name.toList) :
    (n.markDoc source ds).renderAt outer =
      n.markText source ++
        '\n' :: (List.replicate (outer + 2) ' ' ++ renderAllAt (outer + 2) ds) := by
  have hlead : Unbroken ('(' :: (n.kind.name.toList ++ [' '])) := by
    simpa using h
  have hparts : renderAllAt (outer + 2)
      (.verbatimText (n.text source) :: .text [')', '\n'] :: ds) =
      n.text source ++ ')' :: '\n' :: (List.replicate (outer + 2) ' ' ++
        renderAllAt (outer + 2) ds) := by
    simp [renderAllAt, renderAt, verbatimText, Doc.text, Doc.plain, Layout.none, before, indented]
  have hdoc : (n.markDoc source ds).renderAt outer =
      indented (outer + 2) ('(' :: (n.kind.name.toList ++ [' '])) ++
        renderAllAt (outer + 2) (.verbatimText (n.text source) :: .text [')', '\n'] :: ds) := by
    simp [markDoc, Doc.marked, Doc.plain, withIndent, renderAt, Layout.none, before, indented]
  rw [hdoc, hparts, indented_of_unbroken _ hlead, markText]
  simp

namespace Doc

section

variable {source : List Char} {own : Prop}

mutual

/-- The markers of the nodes whose documents stand in a document stand in its text. -/
theorem Holds.inOrder {ns : List Node} {d : Doc} (h : Holds source own ns d)
    (hnames : ∀ n ∈ ns, Unbroken n.kind.name.toList) (outer : Nat) :
    InOrder (ns.map (Node.markText source)) (d.renderAt outer) := by
  match h with
  | .doc lead layout verbatim hunknown hall =>
    have hbody := hall.inOrder hnames (outer + layout.indent)
    rw [renderAt]
    exact (hbody.append_left _).append_right _
  | .mark n hall =>
    have hname := hnames n (List.mem_cons_self ..)
    have hbody := hall.inOrder (fun m hm => hnames m (List.mem_cons_of_mem _ hm)) (outer + 2)
    rw [Node.renderAt_markDoc outer _ hname, List.map_cons]
    exact .cons_append _ (.append_left ('\n' :: List.replicate (outer + 2) ' ') hbody)

/-- The markers for documents one behind the other. -/
theorem HoldAll.inOrder {ns : List Node} {ds : List Doc} (h : HoldAll source own ns ds)
    (hnames : ∀ n ∈ ns, Unbroken n.kind.name.toList) (outer : Nat) :
    InOrder (ns.map (Node.markText source)) (renderAllAt outer ds) := by
  match h with
  | .nil => trivial
  | .cons hd hds =>
    have hfirst := hd.inOrder (fun m hm => hnames m (List.mem_append_left _ hm)) outer
    have hrest := hds.inOrder (fun m hm => hnames m (List.mem_append_right _ hm)) outer
    rw [renderAllAt, List.map_append]
    exact hfirst.append hrest

end

end

end Doc

/-- **Markers survive.**  Under any scheme, the marks that a translation reports are those of the
marked nodes, in order, and the markers of these nodes stand in the rendered text: each at a position
behind the end of all markers before it, with the raw source text of its node unchanged. -/
theorem Node.exists_positions_markText (file : SourceFile) (scheme : Scheme) (n : Node)
    (hnames : ∀ m ∈ n.marked scheme, Unbroken m.kind.name.toList) {doc : Doc} {text : List Char}
    (hdoc : (n.translate file scheme).outcome = .ok doc) (htext : doc.render? = .ok text) :
    (n.translate file scheme).events = (n.marked scheme).map Node.markEvent ∧
      ∃ places : List (Nat × List Char),
        places.map Prod.snd = (n.marked scheme).map (Node.markText file.text) ∧
        (∀ p ∈ places, p.2 <+: text.drop p.1) ∧
        places.Pairwise fun p q => p.1 < q.1 ∧ p.1 + p.2.length ≤ q.1 := by
  obtain ⟨ns, hevents, hholds⟩ := n.translate_records file scheme
  obtain ⟨rfl, hdoc⟩ := hholds doc hdoc
  have hrender : text = doc.renderAt 0 := by
    rw [render?] at htext
    split at htext
    · cases htext
      rfl
    · cases htext
  obtain ⟨places, htexts, hplaces, hordered⟩ := (hdoc.inOrder hnames 0).exists_positions
  refine ⟨hevents, places, htexts, ?_, ?_⟩
  · rw [hrender]
    exact hplaces
  · refine hordered.imp_of_mem fun {p q} hp _ hpq => ⟨?_, hpq⟩
    have hmarker : p.2 ∈ (n.marked scheme).map (Node.markText file.text) := by
      rw [← htexts]
      exact List.mem_map_of_mem hp
    obtain ⟨m, -, hm⟩ := List.mem_map.1 hmarker
    have hpos : 0 < p.2.length := by
      rw [← hm, Node.markText, List.length_cons]
      omega
    omega

/-- A scheme that puts blocks into a frame of their own, with a line break in each part. -/
def framedBlocks : Scheme :=
  Scheme.plain.override [(.block, .recipe
    ⟨.all, ['\n', '<'], false, ⟨true, 3, some ['\n', ':'], some ['\n', '>']⟩⟩)]

/-- A block that holds a node of two lines, which another node fills. -/
def nestedPair : Node :=
  let inner : Node := .plain (.other "inner") ⟨1, 4⟩ []
  .plain .sourceFile ⟨0, 5⟩ [.plain (.role .block) ⟨0, 5⟩ [.plain (.other "outer") ⟨1, 4⟩ [inner]]]

/-- The indent of the frame goes into every line break but those inside the two markers. -/
theorem Node.exists_positions_markText_nestedPair :
    let file : SourceFile := ⟨"input.ts", "\x7ba\nb\x7d".toList⟩
    let text : List Char :=
      ("\n   <\n   \n   :(outer a\nb)\n     (inner a\nb)\n       \n>").toList
    (∀ m ∈ nestedPair.marked framedBlocks, Unbroken m.kind.name.toList) ∧
      ∃ doc, (nestedPair.translate file framedBlocks).outcome = .ok doc ∧ doc.render? = .ok text ∧
        ∃ places : List (Nat × List Char),
          places.map Prod.snd = ["(outer a\nb)".toList, "(inner a\nb)".toList] ∧
          (∀ p ∈ places, p.2 <+: text.drop p.1) ∧
          places.Pairwise fun p q => p.1 < q.1 ∧ p.1 + p.2.length ≤ q.1 := by
  intro file text
  have hnames : ∀ m ∈ nestedPair.marked framedBlocks, Unbroken m.kind.name.toList := by decide
  obtain ⟨doc, hdoc, htext⟩ :
      ∃ doc, (nestedPair.translate file framedBlocks).outcome = .ok doc ∧ doc.render? = .ok text :=
    ⟨_, rfl, by decide⟩
  have hmarkers : (nestedPair.marked framedBlocks).map (Node.markText file.text) =
      ["(outer a\nb)".toList, "(inner a\nb)".toList] := by decide
  obtain ⟨-, hplaces⟩ := exists_positions_markText file framedBlocks nestedPair hnames hdoc htext
  rw [hmarkers] at hplaces
  exact ⟨hnames, doc, hdoc, htext, hplaces⟩

end TreeScribe
