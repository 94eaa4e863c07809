import TreeScribe.Proofs.Doc.BottomUp

/-!
# Rewriting documents

A part of a document may give way to another one if both have the same text under all indents.  Two
documents that agree where they stand alone need not do so elsewhere, since the indents around them
go into line breaks but not into verbatim text.

Main statements: what has the same text under all indents can be exchanged anywhere
(`renderAt_within_congr`); the text of a document without verbatim text under `outer` indents is its
own text, indented (`renderAt_of_verbatimFree`); so empty parts can come and go, parts without a
layout can give way to their children, and parts without verbatim text to any others with the same
text (`render?_within_rewrite`).
-/

namespace TreeScribe

/-! ## Texts without verbatim parts -/

namespace Glyph

/-- None of the glyphs stems from verbatim text. -/
def AllFree (gs : List Glyph) : Prop := ∀ g ∈ gs, g.fixed = false

theorem allFree_free (s : List Char) : AllFree (free s) := by
  intro g hg
  obtain ⟨c, -, rfl⟩ := List.mem_map.1 hg
  rfl

theorem AllFree.append {gs hs : List Glyph} (hgs : AllFree gs) (hhs : AllFree hs) :
    AllFree (gs ++ hs) :=
  List.forall_mem_append.2 ⟨hgs, hhs⟩

/-- The spaces behind line breaks are free as well. -/
theorem AllFree.reindent {gs : List Glyph} (h : AllFree gs) (n : Nat) :
    AllFree (reindent n gs) := by
  intro g hg
  obtain ⟨origin, horigin, hg⟩ := List.mem_flatMap.1 hg
  rw [spaced] at hg
  split at hg
  · rcases List.mem_cons.1 hg with rfl | hg
    · exact h g horigin
    · exact allFree_free _ g hg
  · rw [List.mem_singleton.1 hg]
    exact h origin horigin

theorem AllFree.free_chars {gs : List Glyph} (h : AllFree gs) : free (chars gs) = gs := by
  induction gs with
  | nil => rfl
  | cons g gs ih =>
    have hhead : (⟨g.char, false⟩ : Glyph) = g := by rw [← h g (List.mem_cons_self ..)]
    have htail : free (chars gs) = gs := ih fun k hk => h k (List.mem_cons_of_mem _ hk)
    show ⟨g.char, false⟩ :: free (chars gs) = g :: gs
    rw [hhead, htail]

end Glyph

namespace Doc

/-! ## Places in a document -/

/-- A document with a gap among its children. -/
structure Frame where
  lead : List Char
  before : List Doc
  after : List Doc
  layout : Layout
  unknown : Bool
  verbatim : Bool

/-- The document whose gap is filled with `ds`. -/
def Frame.fill (f : Frame) (ds : List Doc) : Doc :=
  ⟨f.lead, f.before ++ ds ++ f.after, f.layout, f.unknown, f.verbatim⟩

/-- A document inside frames, the first of them the outermost. -/
def within : List Frame → Doc → Doc
  | [], d => d
  | f :: fs, d => f.fill [within fs d]

section

variable {d e : Doc} {ds es : List Doc}

theorem renderAllAt_append (outer : Nat) (ds es : List Doc) :
    renderAllAt outer (ds ++ es) = renderAllAt outer ds ++ renderAllAt outer es := by
  induction ds with
  | nil => rfl
  | cons d ds ih => rw [List.cons_append, renderAllAt, ih, renderAllAt, List.append_assoc]

theorem fitAllAt_append (outer : Nat) (ds es : List Doc) :
    fitAllAt outer (ds ++ es) = (fitAllAt outer ds && fitAllAt outer es) := by
  induction ds with
  | nil => rfl
  | cons d ds ih => rw [List.cons_append, fitAllAt, ih, fitAllAt, Bool.and_assoc]

@[simp] theorem renderAllAt_singleton (outer : Nat) (d : Doc) :
    renderAllAt outer [d] = d.renderAt outer := by
  simp [renderAllAt]

@[simp] theorem fitAllAt_singleton (outer : Nat) (d : Doc) :
    fitAllAt outer [d] = d.fitsAt outer := by
  simp [fitAllAt]

theorem render?_of_fits (h : d.fitsAt 0 = true) : d.render? = .ok d.render := by
  rw [render?, if_pos h]

/-! ## Exchanging parts -/

/-- The gap is filled under the indent of the frame. -/
theorem Frame.renderAt_fill_congr (f : Frame)
    (h : ∀ outer, renderAllAt outer ds = renderAllAt outer es) (outer : Nat) :
    (f.fill ds).renderAt outer = (f.fill es).renderAt outer := by
  simp only [fill, renderAt, renderAllAt_append, h]

/-- **Parts can be exchanged anywhere**, if they have the same text under all indents. -/
theorem renderAt_within_congr (fs : List Frame) (h : ∀ outer, d.renderAt outer = e.renderAt outer)
    (outer : Nat) : (within fs d).renderAt outer = (within fs e).renderAt outer := by
  induction fs generalizing outer with
  | nil => exact h outer
  | cons f fs ih =>
    rw [within, within]
    refine f.renderAt_fill_congr (fun inner => ?_) outer
    rw [renderAllAt_singleton, renderAllAt_singleton, ih inner]

/-- A text that a part has under all indents stands in the text of the whole. -/
theorem infix_renderAt_within {s : List Char} (fs : List Frame)
    (h : ∀ outer, s <:+: d.renderAt outer) (outer : Nat) :
    s <:+: (within fs d).renderAt outer := by
  induction fs generalizing outer with
  | nil => exact h outer
  | cons f fs ih =>
    obtain ⟨front, behind, hinner⟩ := ih (outer + f.layout.indent)
    have hbody : s <:+: renderAllAt (outer + f.layout.indent)
        (f.before ++ [within fs d] ++ f.after) := by
      refine ⟨renderAllAt (outer + f.layout.indent) f.before ++ front,
        behind ++ renderAllAt (outer + f.layout.indent) f.after, ?_⟩
      rw [renderAllAt_append, renderAllAt_append, renderAllAt_singleton, ← hinner]
      simp
    rw [within, Frame.fill, renderAt]
    exact (hbody.trans (List.suffix_append ..).isInfix).trans (List.prefix_append ..).isInfix

/-! ## Sums of indents -/

/-- Inside a frame, the gap stands under a word. -/
theorem Frame.fitsAt_fill_congr (f : Frame)
    (h : ∀ outer < indentLimit, fitAllAt outer ds = fitAllAt outer es) (outer : Nat) :
    (f.fill ds).fitsAt outer = (f.fill es).fitsAt outer := by
  by_cases hword : outer + f.layout.indent < indentLimit
  · simp only [fill, fitsAt, fitAllAt_append, h _ hword]
  · simp [fill, fitsAt, hword]

theorem fitsAt_within_congr (fs : List Frame) (h : ∀ outer, d.fitsAt outer = e.fitsAt outer)
    (outer : Nat) : (within fs d).fitsAt outer = (within fs e).fitsAt outer := by
  induction fs generalizing outer with
  | nil => exact h outer
  | cons f fs ih =>
    rw [within, within]
    refine f.fitsAt_fill_congr (fun inner _ => ?_) outer
    rw [fitAllAt_singleton, fitAllAt_singleton, ih inner]

/-- A gap that is left open asks for no more words. -/
theorem fitsAt_within_fill_nil (fs : List Frame) (f : Frame) (outer : Nat)
    (h : (within fs (f.fill ds)).fitsAt outer = true) :
    (within fs (f.fill [])).fitsAt outer = true := by
  induction fs generalizing outer with
  | nil =>
    simp only [within, Frame.fill, fitsAt, fitAllAt_append, fitAllAt, Bool.and_eq_true] at h ⊢
    exact ⟨h.1, ⟨h.2.1.1, trivial⟩, h.2.2⟩
  | cons g fs ih =>
    simp only [within, Frame.fill, fitsAt, fitAllAt_append, fitAllAt, Bool.and_eq_true] at h ih ⊢
    obtain ⟨hword, ⟨hbefore, hinner, -⟩, hafter⟩ := h
    exact ⟨hword, ⟨hbefore, ih _ hinner, trivial⟩, hafter⟩

end

/-! ## Empty documents -/

/-- What is empty alone is empty everywhere. -/
theorem renderAt_eq_nil {d : Doc} (h : d.render = []) (outer : Nat) : d.renderAt outer = [] := by
  have hglyphs : d.glyphs = [] := by
    rwa [render_eq_bottomUp, bottomUp, Glyph.chars_eq_nil_iff] at h
  rw [renderAt_eq_chars, hglyphs]
  rfl

/-! ## Documents without verbatim text -/

mutual

/-- Whether nothing in a document is verbatim. -/
def verbatimFree : Doc → Bool
  | ⟨_, children, _, _, verbatim⟩ => !verbatim && verbatimFreeAll children

/-- Whether nothing in documents is verbatim. -/
def verbatimFreeAll : List Doc → Bool
  | [] => true
  | d :: ds => d.verbatimFree && verbatimFreeAll ds

end

mutual

theorem allFree_glyphs (d : Doc) (h : d.verbatimFree = true) : Glyph.AllFree d.glyphs := by
  obtain ⟨lead, children, layout, unknown, verbatim⟩ := d
  rw [verbatimFree, Bool.and_eq_true, Bool.not_eq_true'] at h
  obtain ⟨rfl, hchildren⟩ := h
  have hbody := allFree_glyphsAll children hchildren
  have hbreak : Glyph.AllFree (if layout.newline then Glyph.free ['\n'] else []) := by
    split
    · exact Glyph.allFree_free _
    · exact Glyph.allFree_free []
  have hseparator : Glyph.AllFree (if Glyph.chars (glyphsAll children) = [] then []
      else Glyph.free (layout.separator?.getD [])) := by
    split
    · exact Glyph.allFree_free []
    · exact Glyph.allFree_free _
  rw [glyphs]
  exact (((((Glyph.allFree_free lead).append hbreak).append hseparator).append hbody).reindent
    layout.indent).append (Glyph.allFree_free _)

theorem allFree_glyphsAll (ds : List Doc) (h : verbatimFreeAll ds = true) :
    Glyph.AllFree (glyphsAll ds) := by
  match ds with
  | [] => exact Glyph.allFree_free []
  | d :: ds =>
    rw [verbatimFreeAll, Bool.and_eq_true] at h
    exact (allFree_glyphs d h.1).append (allFree_glyphsAll ds h.2)

end

/-- **Without verbatim text**, the text under other indents is the own text with these indents. -/
theorem renderAt_of_verbatimFree {d : Doc} (h : d.verbatimFree = true) (outer : Nat) :
    d.renderAt outer = indented outer d.render := by
  have hfree : Glyph.free d.bottomUp = d.glyphs := (allFree_glyphs d h).free_chars
  rw [renderAt_eq_chars, ← hfree, Glyph.chars_reindent_free, render_eq_bottomUp]

/-! ## Rewriting -/

/-- **Documents can be rewritten without a change of text**, at any place among the children of any
node in them: a child that is empty alone can be left out or put in; a child without leading text
and layout can give way to its own children; and of two children without verbatim text that have
the same text alone, one can take the place of the other.  In the second case both documents
overflow or neither does; in the others their indents are assumed to be words. -/
theorem render?_within_rewrite :
    (∀ (fs : List Frame) (f : Frame) (d : Doc), d.render = [] →
      (within fs (f.fill [d])).fitsAt 0 = true →
      ∃ text, (within fs (f.fill [d])).render? = .ok text ∧
        (within fs (f.fill [])).render? = .ok text) ∧
    (∀ (fs : List Frame) (f : Frame) (parts : List Doc) (unknown verbatim : Bool),
      (within fs (f.fill [⟨[], parts, .none, unknown, verbatim⟩])).render? =
        (within fs (f.fill parts)).render?) ∧
    ∀ (fs : List Frame) (f : Frame) (d e : Doc), d.verbatimFree = true → e.verbatimFree = true →
      d.render = e.render → (within fs (f.fill [d])).fitsAt 0 = true →
      (within fs (f.fill [e])).fitsAt 0 = true →
      ∃ text, (within fs (f.fill [d])).render? = .ok text ∧
        (within fs (f.fill [e])).render? = .ok text := by
  refine ⟨?_, ?_, ?_⟩
  · intro fs f d hempty hfits
    have htext : ∀ outer, renderAllAt outer [d] = renderAllAt outer [] := by
      intro outer
      rw [renderAllAt_singleton, renderAt_eq_nil hempty]
      rfl
    refine ⟨_, render?_of_fits hfits, ?_⟩
    rw [render?_of_fits (fitsAt_within_fill_nil fs f 0 hfits), render, render,
      renderAt_within_congr fs (f.renderAt_fill_congr htext)]
  · intro fs f parts unknown verbatim
    have htext : ∀ outer, renderAllAt outer [⟨[], parts, .none, unknown, verbatim⟩] =
        renderAllAt outer parts := by
      intro outer
      simp [renderAt, Layout.none, before, indented]
    have hword : ∀ outer < indentLimit, fitAllAt outer [⟨[], parts, .none, unknown, verbatim⟩] =
        fitAllAt outer parts := by
      intro outer houter
      simp [fitsAt, Layout.none, houter]
    rw [render?, render?, render, render, renderAt_within_congr fs (f.renderAt_fill_congr htext),
      fitsAt_within_congr fs (f.fitsAt_fill_congr hword)]
  · intro fs f d e hd he htext hfits hfits'
    have hsame : ∀ outer, renderAllAt outer [d] = renderAllAt outer [e] := by
      intro outer
      rw [renderAllAt_singleton, renderAllAt_singleton, renderAt_of_verbatimFree hd,
        renderAt_of_verbatimFree he, htext]
    refine ⟨_, render?_of_fits hfits, ?_⟩
    rw [render?_of_fits hfits', render, render,
      renderAt_within_congr fs (f.renderAt_fill_congr hsame)]

/-- A list in brackets with an indent, one item of which is open, inside another indent. -/
def openItem : List Frame × Frame :=
  ([⟨[], [text ['a']], [], ⟨false, 3, none, none⟩, true, true⟩],
    ⟨['['], [], [text "\nz".toList], ⟨true, 2, some ['-'], some ['\n', ']']⟩, false, false⟩)

/-- The open item can be an empty document with an indent and a separator, or nothing; a document
without a layout, or its two children; a text of two lines, or the same lines by other means. -/
theorem render?_within_rewrite_openItem :
    let fs := openItem.1
    let f := openItem.2
    let blank := ((concat [empty, concat []]).withSeparator ['\n']).withIndent 5
    let parts := [text ['x', '\n'], verbatimText "y\ny".toList]
    let line := text "p\nq".toList
    let lines := (plain ['p'] [text ['q']]).withSeparator ['\n']
    blank.render = [] ∧ (within fs (f.fill [blank])).fitsAt 0 = true ∧
      line.verbatimFree = true ∧ lines.verbatimFree = true ∧ line.render = lines.render ∧
      (within fs (f.fill [line])).fitsAt 0 = true ∧ (within fs (f.fill [lines])).fitsAt 0 = true ∧
      (∃ text, (within fs (f.fill [blank])).render? = .ok text ∧
        (within fs (f.fill [])).render? = .ok text) ∧
      (within fs (f.fill [concat parts])).render? = (within fs (f.fill parts)).render? ∧
      (∃ text, (within fs (f.fill [line])).render? = .ok text ∧
        (within fs (f.fill [lines])).render? = .ok text) ∧
      (within fs (f.fill [concat parts])).render? =
        .ok "a[\n     -x\n     y\ny\n     z\n   ]".toList := by
  intro fs f blank parts line lines
  obtain ⟨hempty, hparts, hsame⟩ := render?_within_rewrite
  have hblank : blank.render = [] := by decide
  have hfits : (within fs (f.fill [blank])).fitsAt 0 = true := by decide
  have hline : (within fs (f.fill [line])).fitsAt 0 = true := by decide
  have hlines : (within fs (f.fill [lines])).fitsAt 0 = true := by decide
  have htext : line.render = lines.render := by decide
  exact ⟨hblank, hfits, rfl, rfl, htext, hline, hlines, hempty fs f blank hblank hfits,
    hparts fs f parts false false, hsame fs f line lines rfl rfl htext hline hlines, rfl⟩

/-- With verbatim text, the same text alone is not enough. -/
example :
    (verbatimText ['\n']).render = (text ['\n']).render ∧
      ((concat [verbatimText ['\n']]).withIndent 1).render ≠
        ((concat [text ['\n']]).withIndent 1).render := by
  decide

end Doc

end TreeScribe
