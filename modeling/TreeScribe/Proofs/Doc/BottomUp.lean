import TreeScribe.Doc.Render

/-!
# Rendering from the leaves up

The rule for the layout of a document speaks of one node at a time: its leading text, its line
break, its separator and the texts of its children are put together, every line break of the whole
is followed by the node's own indent, and the tail comes last.  So a line break deep in a document
is rewritten once by each node above it.  Verbatim text is exempt, and stays exempt in the texts of
all nodes above, which is why the texts here are made of glyphs that remember where they come from.

`Doc.render` writes each character once and never looks back.  Main statements: rendering under
indents that add up to `outer` is rewriting the text of the bottom-up rule by `outer`
(`renderAt_eq_chars`), and so the two agree on every document (`render?_eq_bottomUp`).
-/

namespace TreeScribe

/-- A character of a text under construction; `fixed` characters stem from verbatim text. -/
structure Glyph where
  char : Char
  fixed : Bool
deriving DecidableEq, Repr

namespace Glyph

/-- A text whose line breaks can be indented. -/
def free (s : List Char) : List Glyph := s.map (⟨·, false⟩)

/-- A text whose line breaks cannot be indented. -/
def verbatim (s : List Char) : List Glyph := s.map (⟨·, true⟩)

/-- The characters of glyphs. -/
def chars (gs : List Glyph) : List Char := gs.map char

/-- What becomes of a glyph when `indent` spaces are put behind every line break. -/
def spaced (indent : Nat) (g : Glyph) : List Glyph :=
  if g = ⟨'\n', false⟩ then g :: free (List.replicate indent ' ') else [g]

/-- Puts `indent` spaces behind every line break that can be indented. -/
def reindent (indent : Nat) (gs : List Glyph) : List Glyph := gs.flatMap (spaced indent)

/-! ## Texts of glyphs -/

@[simp] theorem chars_nil : chars [] = [] := rfl

@[simp] theorem chars_append (gs hs : List Glyph) : chars (gs ++ hs) = chars gs ++ chars hs :=
  List.map_append

@[simp] theorem chars_eq_nil_iff {gs : List Glyph} : chars gs = [] ↔ gs = [] := List.map_eq_nil_iff

theorem free_append (s t : List Char) : free (s ++ t) = free s ++ free t := List.map_append

/-! ## Reindenting -/

@[simp] theorem reindent_nil (n : Nat) : reindent n [] = [] := rfl

theorem reindent_cons (n : Nat) (g : Glyph) (gs : List Glyph) :
    reindent n (g :: gs) = spaced n g ++ reindent n gs := List.flatMap_cons

@[simp] theorem reindent_append (n : Nat) (gs hs : List Glyph) :
    reindent n (gs ++ hs) = reindent n gs ++ reindent n hs := List.flatMap_append

/-- Spaces are not line breaks. -/
theorem reindent_free_replicate (m n : Nat) :
    reindent m (free (List.replicate n ' ')) = free (List.replicate n ' ') := by
  induction n with
  | zero => rfl
  | succ n ih =>
    rw [List.replicate_succ, show free (' ' :: List.replicate n ' ')
      = ⟨' ', false⟩ :: free (List.replicate n ' ') from rfl, reindent_cons, ih]
    rfl

/-- Indents add up, glyph by glyph. -/
theorem reindent_spaced (m n : Nat) (g : Glyph) :
    reindent m (spaced n g) = spaced (m + n) g := by
  by_cases h : g = ⟨'\n', false⟩
  · have hsum : List.replicate m ' ' ++ List.replicate n ' ' = List.replicate (m + n) ' ' :=
      List.replicate_append_replicate
    rw [spaced, if_pos h, reindent_cons, reindent_free_replicate, spaced, spaced, if_pos h, if_pos h,
      List.cons_append, ← free_append, hsum]
  · simp [spaced, h, reindent]

/-- **Indents add up**: rewriting a text level by level is rewriting it once by the sum. -/
theorem reindent_reindent (m n : Nat) (gs : List Glyph) :
    reindent m (reindent n gs) = reindent (m + n) gs := by
  induction gs with
  | nil => rfl
  | cons g gs ih =>
    rw [reindent_cons, reindent_append, reindent_spaced, ih, reindent_cons]

theorem reindent_eq_nil_iff {n : Nat} {gs : List Glyph} : reindent n gs = [] ↔ gs = [] := by
  constructor
  · intro h
    cases gs with
    | nil => rfl
    | cons g gs =>
      rw [reindent_cons, List.append_eq_nil_iff, spaced] at h
      split at h <;> simp at h
  · rintro rfl
    rfl

theorem reindent_zero (gs : List Glyph) : reindent 0 gs = gs := by
  induction gs with
  | nil => rfl
  | cons g gs ih =>
    rw [reindent_cons, ih, spaced]
    split <;> rfl

/-- Free text is indented as the renderer indents it. -/
theorem chars_reindent_free (n : Nat) (s : List Char) :
    chars (reindent n (free s)) = Doc.indented n s := by
  induction s with
  | nil => rfl
  | cons c cs ih =>
    rw [show free (c :: cs) = ⟨c, false⟩ :: free cs from rfl, reindent_cons, chars_append, ih,
      Doc.indented]
    by_cases h : c = '\n'
    · subst h
      simp [spaced, chars, free]
    · simp [spaced, chars, h]

/-- Verbatim text stays as it is. -/
theorem chars_reindent_verbatim (n : Nat) (s : List Char) : chars (reindent n (verbatim s)) = s := by
  induction s with
  | nil => rfl
  | cons c cs ih =>
    rw [show verbatim (c :: cs) = ⟨c, true⟩ :: verbatim cs from rfl, reindent_cons, chars_append, ih]
    simp [spaced, chars]

end Glyph

namespace Doc

open Glyph

/-! ## The bottom-up rule -/

mutual

/-- The text of a document by the bottom-up rule: every line break of leading text, separator and
children gets the document's own indent, and the tail comes behind all of it. -/
def glyphs : Doc → List Glyph
  | ⟨lead, children, layout, _, verbatim⟩ =>
    let head := if verbatim then Glyph.verbatim lead else free lead
    let break? := if layout.newline then free ['\n'] else []
    let body := glyphsAll children
    let separator := if chars body = [] then [] else free (layout.separator?.getD [])
    reindent layout.indent (head ++ break? ++ separator ++ body) ++ free (layout.tail?.getD [])

/-- The texts of documents by the bottom-up rule, one behind the other. -/
def glyphsAll : List Doc → List Glyph
  | [] => []
  | d :: ds => d.glyphs ++ glyphsAll ds

end

/-- The text of a document by the bottom-up rule. -/
def bottomUp (d : Doc) : List Char := chars d.glyphs

/-! ## One pass does the same -/

/-- The separator is indented like everything else, and stands under the same condition. -/
theorem chars_reindent_separator (n : Nat) (s : List Char) (body : List Glyph) :
    chars (reindent n (if chars body = [] then [] else free s)) =
      before (indented n s) (chars (reindent n body)) := by
  by_cases h : body = []
  · subst h
    rfl
  · rw [if_neg (by rwa [chars_eq_nil_iff]), before,
      if_neg (by rwa [chars_eq_nil_iff, reindent_eq_nil_iff]), chars_reindent_free]

mutual

/-- **The step of the two algorithms.**  Under indents that add up to `outer`, the one pass writes
what rewriting the bottom-up text by `outer` gives. -/
theorem renderAt_eq_chars (outer : Nat) (d : Doc) :
    d.renderAt outer = chars (reindent outer d.glyphs) := by
  obtain ⟨lead, children, layout, _, verbatim⟩ := d
  have hbody := renderAllAt_eq_chars (outer + layout.indent) children
  simp only [renderAt, glyphs, reindent_append, reindent_reindent, chars_append, hbody,
    chars_reindent_separator, chars_reindent_free]
  have hlead : chars (reindent (outer + layout.indent)
      (if verbatim then Glyph.verbatim lead else free lead)) =
      if verbatim then lead else indented (outer + layout.indent) lead := by
    split
    · exact chars_reindent_verbatim _ _
    · exact chars_reindent_free _ _
  have hbreak : chars (reindent (outer + layout.indent)
      (if layout.newline then free ['\n'] else [])) =
      if layout.newline then indented (outer + layout.indent) ['\n'] else [] := by
    split
    · exact chars_reindent_free _ _
    · rfl
  rw [hlead, hbreak]

/-- The step for documents one behind the other. -/
theorem renderAllAt_eq_chars (outer : Nat) (ds : List Doc) :
    renderAllAt outer ds = chars (reindent outer (glyphsAll ds)) := by
  cases ds with
  | nil => rfl
  | cons d ds =>
    rw [renderAllAt, glyphsAll, reindent_append, chars_append, renderAt_eq_chars outer d,
      renderAllAt_eq_chars outer ds]

end

/-- Without indents around it, a document renders as the bottom-up rule says. -/
theorem render_eq_bottomUp (d : Doc) : d.render = d.bottomUp := by
  rw [render, renderAt_eq_chars, reindent_zero, bottomUp]

/-- **The one-pass renderer is the bottom-up rule**, on every document whose sums of indents are
words. -/
theorem render?_eq_bottomUp (d : Doc) (h : d.fitsAt 0 = true) : d.render? = .ok d.bottomUp := by
  rw [render?, if_pos h, render_eq_bottomUp]

/-- A verbatim text of two lines below two indents, the inner document with a tail. -/
def twoIndents : Doc :=
  let inner := (plain ['('] [verbatimText "a\n b".toList, text ")\nx".toList]).withIndent 2
  (plain [] [text ['\n'], inner.withTail "\ny".toList]).withIndent 4

/-- Both indents go behind the line break before `x`, the outer one alone behind those before the
bracket and before the tail, and none into the verbatim text. -/
theorem render?_twoIndents :
    twoIndents.fitsAt 0 = true ∧ twoIndents.render? = .ok twoIndents.bottomUp ∧
      twoIndents.bottomUp = "\n    (a\n b)\n      x\n    y".toList :=
  ⟨by decide, render?_eq_bottomUp twoIndents (by decide), by decide⟩

end Doc

end TreeScribe
