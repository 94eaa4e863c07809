import TreeScribe.Proofs.Doc.Pinned

/-!
# Indents on the way down

A way down a document goes from the document to one of its children, and so on, and stops anywhere.
The indents of the documents on it add up, whether or not there is text to indent where it stops.

Main statement: rendering fails exactly if the indents of some way down do not fit a word; and
otherwise the text consists of the pieces of the document in order, each with the sum of its way
behind its line breaks: a tail without the indent of its own document, and the leading text of a
verbatim document without any (`render?_indents_by_ways`).
-/

namespace TreeScribe.Doc

/-! ## Ways -/

/-- The documents on a way down from the first of them. -/
inductive Way : Doc → List Doc → Prop
  | stop (d : Doc) : Way d [d]
  | down {d child : Doc} {way : List Doc} (hchild : child ∈ d.children) (hway : Way child way) :
      Way d (d :: way)

/-- The sum of the documents' indents. -/
def indentSum : List Doc → Nat
  | [] => 0
  | d :: way => d.layout.indent + indentSum way

theorem indentSum_concat (above : List Doc) (d : Doc) :
    indentSum (above ++ [d]) = indentSum above + d.layout.indent := by
  induction above with
  | nil => simp [indentSum]
  | cons e above ih => rw [List.cons_append, indentSum, ih, indentSum, Nat.add_assoc]

/-- All ways down, one for each document: those of the children go on behind the document. -/
theorem way_iff {d : Doc} {way : List Doc} :
    Way d way ↔ way = [d] ∨ ∃ child ∈ d.children, ∃ rest, Way child rest ∧ way = d :: rest := by
  constructor
  · intro h
    cases h with
    | stop => exact .inl rfl
    | down hchild hway => exact .inr ⟨_, hchild, _, hway, rfl⟩
  · rintro (rfl | ⟨child, hchild, rest, hway, rfl⟩)
    · exact .stop d
    · exact .down hchild hway

mutual

/-- **The step of the sums.**  All sums inside a document fit under `outer` if those of all ways
down do. -/
theorem fitsAt_iff (outer : Nat) (d : Doc) :
    d.fitsAt outer = true ↔ ∀ way, Way d way → outer + indentSum way < indentLimit := by
  obtain ⟨lead, children, layout, unknown, verbatim⟩ := d
  rw [fitsAt, Bool.and_eq_true, decide_eq_true_iff, fitAllAt_iff _ children]
  constructor
  · rintro ⟨hown, hchildren⟩ way hway
    rcases way_iff.1 hway with rfl | ⟨child, hchild, rest, hrest, rfl⟩
    · simpa [indentSum] using hown
    · rw [indentSum, ← Nat.add_assoc]
      exact hchildren child hchild rest hrest
  · intro h
    refine ⟨by simpa [indentSum] using h _ (.stop _), fun child hchild rest hrest => ?_⟩
    rw [Nat.add_assoc]
    exact h _ (.down hchild hrest)

/-- The step for documents one behind the other. -/
theorem fitAllAt_iff (outer : Nat) (ds : List Doc) :
    fitAllAt outer ds = true ↔
      ∀ d ∈ ds, ∀ way, Way d way → outer + indentSum way < indentLimit := by
  match ds with
  | [] => simp [fitAllAt]
  | d :: ds =>
    rw [fitAllAt, Bool.and_eq_true, fitsAt_iff outer d, fitAllAt_iff outer ds, List.forall_mem_cons]

end

/-! ## Pieces -/

/-- The texts that a document brings along, its children apart. -/
inductive Part
  | lead
  | lineBreak
  | separator
  | tail
deriving DecidableEq, Repr

/-- A text in a document, with the documents around the one that brings it along, the outermost
first. -/
structure Piece where
  above : List Doc
  owner : Doc
  part : Part

namespace Piece

/-- The text as the document has it. -/
def text (p : Piece) : List Char :=
  match p.part with
  | .lead => p.owner.lead
  | .lineBreak => ['\n']
  | .separator => p.owner.layout.separator?.getD []
  | .tail => p.owner.layout.tail?.getD []

/-- How many spaces the line breaks of the text get. -/
def spaces (p : Piece) : Nat :=
  match p.part with
  | .lead => if p.owner.verbatim then 0 else indentSum (p.above ++ [p.owner])
  | .lineBreak | .separator => indentSum (p.above ++ [p.owner])
  | .tail => indentSum p.above

/-- The text with the spaces behind each of its line breaks, and nothing else changed. -/
def written (p : Piece) : List Char :=
  p.text.flatMap fun c => if c = '\n' then '\n' :: List.replicate p.spaces ' ' else [c]

theorem written_eq (p : Piece) : p.written = indented p.spaces p.text := by
  unfold written
  induction p.text with
  | nil => rfl
  | cons c s ih =>
    rw [List.flatMap_cons, ih, indented]
    split <;> rfl

theorem written_eq_nil_iff {p : Piece} : p.written = [] ↔ p.text = [] := by
  rw [written_eq, indented_eq_nil_iff]

end Piece

mutual

/-- The pieces of a document below the documents `above`, in order.  The separator is among them if
the children have any text. -/
def piecesBelow (above : List Doc) : Doc → List Piece
  | ⟨lead, children, layout, unknown, verbatim⟩ =>
    let d : Doc := ⟨lead, children, layout, unknown, verbatim⟩
    let inner := piecesAllBelow (above ++ [d]) children
    [⟨above, d, .lead⟩] ++ (if layout.newline then [⟨above, d, .lineBreak⟩] else []) ++
      (if ∀ p ∈ inner, p.text = [] then [] else [⟨above, d, .separator⟩]) ++ inner ++
      [⟨above, d, .tail⟩]

/-- The pieces of documents one behind the other. -/
def piecesAllBelow (above : List Doc) : List Doc → List Piece
  | [] => []
  | d :: ds => d.piecesBelow above ++ piecesAllBelow above ds

end

/-- The pieces of a document, in order. -/
def pieces (d : Doc) : List Piece := d.piecesBelow []

theorem piecesBelow_eq (above : List Doc) (d : Doc) :
    d.piecesBelow above =
      [⟨above, d, .lead⟩] ++ (if d.layout.newline then [⟨above, d, .lineBreak⟩] else []) ++
        (if ∀ p ∈ piecesAllBelow (above ++ [d]) d.children, p.text = [] then []
          else [⟨above, d, .separator⟩]) ++
        piecesAllBelow (above ++ [d]) d.children ++ [⟨above, d, .tail⟩] := by
  obtain ⟨lead, children, layout, unknown, verbatim⟩ := d
  rw [piecesBelow]

mutual

/-- The documents around a piece and the one that brings it along are a way down. -/
theorem exists_way_of_mem_piecesBelow {above : List Doc} (d : Doc) {p : Piece}
    (h : p ∈ d.piecesBelow above) : ∃ way, Way d way ∧ p.above ++ [p.owner] = above ++ way := by
  obtain ⟨lead, children, layout, unknown, verbatim⟩ := d
  have hown (part : Part) (hp : p = ⟨above, ⟨lead, children, layout, unknown, verbatim⟩, part⟩) :
      ∃ way, Way ⟨lead, children, layout, unknown, verbatim⟩ way ∧
        p.above ++ [p.owner] = above ++ way :=
    ⟨_, .stop _, by rw [hp]⟩
  rw [piecesBelow_eq] at h
  simp only [List.mem_append, List.mem_singleton] at h
  rcases h with (((hp | hp) | hp) | hp) | hp
  · exact hown _ hp
  · split at hp
    · exact hown _ (List.mem_singleton.1 hp)
    · exact absurd hp List.not_mem_nil
  · split at hp
    · exact absurd hp List.not_mem_nil
    · exact hown _ (List.mem_singleton.1 hp)
  · obtain ⟨child, hchild, way, hway, heq⟩ := exists_way_of_mem_piecesAllBelow children hp
    exact ⟨_, .down hchild hway, by rw [heq, List.append_assoc, List.singleton_append]⟩
  · exact hown _ hp

theorem exists_way_of_mem_piecesAllBelow {above : List Doc} (ds : List Doc) {p : Piece}
    (h : p ∈ piecesAllBelow above ds) :
    ∃ d ∈ ds, ∃ way, Way d way ∧ p.above ++ [p.owner] = above ++ way := by
  match ds with
  | [] => exact absurd h List.not_mem_nil
  | d :: ds =>
    rcases List.mem_append.1 h with h | h
    · exact ⟨d, List.mem_cons_self .., exists_way_of_mem_piecesBelow d h⟩
    · obtain ⟨e, he, hway⟩ := exists_way_of_mem_piecesAllBelow ds h
      exact ⟨e, List.mem_cons_of_mem d he, hway⟩

end

/-- Every piece of a document stands where some way down stops. -/
theorem way_of_mem_pieces {d : Doc} {p : Piece} (h : p ∈ d.pieces) :
    Way d (p.above ++ [p.owner]) := by
  obtain ⟨way, hway, heq⟩ := exists_way_of_mem_piecesBelow d h
  rwa [heq]

/-! ## What the pieces write -/

section

variable (above : List Doc) (d : Doc)

theorem written_lead : (⟨above, d, .lead⟩ : Piece).written =
    if d.verbatim then d.lead else indented (indentSum above + d.layout.indent) d.lead := by
  simp only [Piece.written_eq, Piece.spaces, Piece.text, indentSum_concat]
  split
  · exact indented_zero d.lead
  · rfl

theorem written_lineBreak : (⟨above, d, .lineBreak⟩ : Piece).written =
    indented (indentSum above + d.layout.indent) ['\n'] := by
  rw [Piece.written_eq, Piece.spaces, Piece.text, indentSum_concat]

theorem written_separator : (⟨above, d, .separator⟩ : Piece).written =
    indented (indentSum above + d.layout.indent) (d.layout.separator?.getD []) := by
  rw [Piece.written_eq, Piece.spaces, Piece.text, indentSum_concat]

theorem written_tail : (⟨above, d, .tail⟩ : Piece).written =
    indented (indentSum above) (d.layout.tail?.getD []) := by
  rw [Piece.written_eq, Piece.spaces, Piece.text]

end

/-- Pieces write nothing if they have no text. -/
theorem flatMap_written_eq_nil_iff {ps : List Piece} :
    ps.flatMap Piece.written = [] ↔ ∀ p ∈ ps, p.text = [] := by
  simp only [List.flatMap_eq_nil_iff, Piece.written_eq_nil_iff]

/-- A document writes its pieces if its children do. -/
theorem renderAt_eq_written_of_children {above : List Doc} {d : Doc}
    (h : renderAllAt (indentSum above + d.layout.indent) d.children =
      (piecesAllBelow (above ++ [d]) d.children).flatMap Piece.written) :
    d.renderAt (indentSum above) = (d.piecesBelow above).flatMap Piece.written := by
  have hrender : d.renderAt (indentSum above) =
      (⟨above, d, .lead⟩ : Piece).written ++
        (if d.layout.newline then (⟨above, d, .lineBreak⟩ : Piece).written else []) ++
        before (⟨above, d, .separator⟩ : Piece).written
          (renderAllAt (indentSum above + d.layout.indent) d.children) ++
        renderAllAt (indentSum above + d.layout.indent) d.children ++
        (⟨above, d, .tail⟩ : Piece).written := by
    rw [written_lead, written_lineBreak, written_separator, written_tail]
    obtain ⟨lead, children, layout, unknown, verbatim⟩ := d
    rw [renderAt]
  rw [hrender, h, piecesBelow_eq, before]
  simp only [List.flatMap_append, List.flatMap_singleton, flatMap_written_eq_nil_iff,
    apply_ite (List.flatMap Piece.written), List.flatMap_nil]

mutual

/-- **The step of the text.**  Under the indents of the documents above, a document writes its
pieces. -/
theorem renderAt_eq_written (above : List Doc) (d : Doc) :
    d.renderAt (indentSum above) = (d.piecesBelow above).flatMap Piece.written := by
  obtain ⟨lead, children, layout, unknown, verbatim⟩ := d
  have hchildren := renderAllAt_eq_written (above ++ [⟨lead, children, layout, unknown, verbatim⟩])
    children
  rw [indentSum_concat] at hchildren
  exact renderAt_eq_written_of_children hchildren

/-- The step for documents one behind the other. -/
theorem renderAllAt_eq_written (above : List Doc) (ds : List Doc) :
    renderAllAt (indentSum above) ds = (piecesAllBelow above ds).flatMap Piece.written := by
  match ds with
  | [] => rfl
  | d :: ds =>
    rw [renderAllAt, piecesAllBelow, List.flatMap_append, renderAt_eq_written above d,
      renderAllAt_eq_written above ds]

end

/-- **Rendering overflows exactly if the indents of a way do.**  It fails with the message of an
addition that leaves its word if the indents on some way down, the last document's included, add up
to the limit or more, whatever text there is.  Otherwise it gives the pieces of the document, each
where a way down stops and with the spaces of that way behind its line breaks. -/
theorem render?_indents_by_ways (d : Doc) :
    ((∃ e, d.render? = .error e ∧ e.message = "attempt to add with overflow") ↔
      ∃ way, Way d way ∧ indentLimit ≤ indentSum way) ∧
    (∀ text, d.render? = .ok text ↔
      (∀ way, Way d way → indentSum way < indentLimit) ∧ text = d.pieces.flatMap Piece.written) ∧
    ∀ p ∈ d.pieces, Way d (p.above ++ [p.owner]) := by
  have hfits := fitsAt_iff 0 d
  have htext : d.render = d.pieces.flatMap Piece.written := renderAt_eq_written [] d
  simp only [Nat.zero_add] at hfits
  refine ⟨?_, ?_, fun p hp => way_of_mem_pieces hp⟩
  · by_cases h : d.fitsAt 0 = true
    · rw [render?, if_pos h]
      constructor
      · rintro ⟨e, he, -⟩
        cases he
      · rintro ⟨way, hway, hsum⟩
        exact absurd (hfits.1 h way hway) (Nat.not_lt.2 hsum)
    · rw [render?, if_neg h]
      have hway : ∃ way, Way d way ∧ indentLimit ≤ indentSum way := by
        simpa only [not_forall, Nat.not_lt, exists_prop] using mt hfits.2 h
      exact ⟨fun _ => hway, fun _ => ⟨.addition, rfl, rfl⟩⟩
  · intro text
    by_cases h : d.fitsAt 0 = true
    · rw [render?, if_pos h, htext, Except.ok.injEq, eq_comm]
      exact ⟨fun heq => ⟨hfits.1 h, heq⟩, fun heq => heq.2⟩
    · rw [render?, if_neg h]
      constructor
      · intro heq
        cases heq
      · rintro ⟨hways, -⟩
        exact absurd (hfits.2 hways) h

/-- A document without any text, one space inside the largest indent there is. -/
def overfull : Doc := (plain [] [empty.withIndent 1]).withIndent (indentLimit - 1)

/-- Line breaks in all parts of a document, and in verbatim text, below another document. -/
def brokenParts : Doc :=
  let inner : Doc :=
    ⟨"(\n".toList, [verbatimText "a\nb".toList], ⟨true, 2, "\n-".toList, "\n)".toList⟩, false, false⟩
  (plain [] [text ['\n'], inner]).withIndent 4

/-- The document without text overflows; the other one is written with six spaces inside, and with
four before the tail. -/
theorem render?_indents_by_ways_brokenParts :
    (∃ e, overfull.render? = .error e ∧ e.message = "attempt to add with overflow") ∧
    brokenParts.render? = .ok "\n    (\n      \n      \n      -a\nb\n    )".toList ∧
    brokenParts.pieces.flatMap Piece.written =
      "\n    (\n      \n      \n      -a\nb\n    )".toList := by
  have hover : ∃ way, Way overfull way ∧ indentLimit ≤ indentSum way :=
    ⟨[overfull, empty.withIndent 1], .down (List.mem_singleton_self _) (.stop _), by decide⟩
  have hrender :
      brokenParts.render? = .ok "\n    (\n      \n      \n      -a\nb\n    )".toList := by
    decide
  exact ⟨(render?_indents_by_ways overfull).1.2 hover, hrender,
    (((render?_indents_by_ways brokenParts).2.1 _).1 hrender).2.symm⟩

end TreeScribe.Doc
