import Mathlib.Data.List.Forall2
import TreeScribe.Doc.Render
import TreeScribe.Proofs.Text.Unbroken
import TreeScribe.Translate

/-!
# Documents that write lines

A document in a notation of blocks writes the rest of a line, its header, and then whole lines, each
with four spaces for every block around it.  `Doc.Writes` says so of a document in blocks of any
number, and that its indents stay words as long as four times the depth of all blocks does.

Main statements: a suite writes a colon and then its statements one block deeper (`Writes.suite`),
and statements that are separated by line breaks write their lines one below the other
(`WritesLines.cons`).
-/

namespace TreeScribe

/-- A line in `depth` blocks. -/
def lineAt (depth : Nat) (s : List Char) : List Char := List.replicate (4 * depth) ' ' ++ s

@[simp] theorem lineAt_zero (s : List Char) : lineAt 0 s = s := rfl

/-- Lines, each behind a line break. -/
def breaks (lines : List (List Char)) : List Char := lines.flatMap ('\n' :: ·)

@[simp] theorem breaks_nil : breaks [] = [] := rfl

@[simp] theorem breaks_cons (line : List Char) (lines : List (List Char)) :
    breaks (line :: lines) = '\n' :: line ++ breaks lines := List.flatMap_cons

@[simp] theorem breaks_append (lines more : List (List Char)) :
    breaks (lines ++ more) = breaks lines ++ breaks more := List.flatMap_append

/-- Lines are joined by writing the first one, and the others behind line breaks. -/
theorem intercalate_lineBreak (line : List Char) (lines : List (List Char)) :
    ['\n'].intercalate (line :: lines) = line ++ breaks lines := by
  induction lines generalizing line with
  | nil => simp
  | cons next lines ih => rw [List.intercalate_cons_cons, ih, breaks_cons]; simp

namespace Doc

theorem indented_of_unbroken (indent : Nat) {s : List Char} (h : Unbroken s) :
    indented indent s = s := by
  induction s with
  | nil => rfl
  | cons c s ih =>
    obtain ⟨hc, hs⟩ := unbroken_cons.1 h
    rw [indented, if_neg hc, ih hs]

/-! ## Documents without layout and suites -/

theorem renderAt_plain (outer : Nat) (lead : List Char) (ds : List Doc) :
    (plain lead ds).renderAt outer = indented outer lead ++ renderAllAt outer ds := by
  simp [plain, renderAt, Layout.none, before, indented]

theorem fitsAt_plain (outer : Nat) (lead : List Char) (ds : List Doc) :
    (plain lead ds).fitsAt outer = (decide (outer < indentLimit) && fitAllAt outer ds) := by
  simp [plain, fitsAt, Layout.none]

theorem renderAt_suite (outer : Nat) (d : Doc) :
    (suite d).renderAt outer =
      ':' :: '\n' :: (List.replicate (outer + 4) ' ' ++ d.renderAt (outer + 4)) := by
  simp [suite, plain, withNewline, withIndent, renderAt, renderAllAt, Layout.none, before, indented]

theorem fitsAt_suite (outer : Nat) (d : Doc) :
    (suite d).fitsAt outer = (decide (outer + 4 < indentLimit) && d.fitsAt (outer + 4)) := by
  simp [suite, plain, withNewline, withIndent, fitsAt, fitAllAt, Layout.none]

/-! ## What a document writes -/

/-- In `k` blocks, the document writes a header and lines behind it.  It marks nothing, and reaches
at most `depth` blocks deep. -/
structure Writes (d : Doc) (header : List Char) (inner : Nat → List (List Char)) (depth : Nat) :
    Prop where
  unmarked : d.unknownCount = 0
  rendered : ∀ k, d.renderAt (4 * k) = header ++ breaks (inner k)
  fits : ∀ k, 4 * (k + depth) < indentLimit → d.fitsAt (4 * k) = true

/-- As `Writes`, of documents one behind the other. -/
structure WritesAll (ds : List Doc) (header : List Char) (inner : Nat → List (List Char))
    (depth : Nat) : Prop where
  unmarked : unknownCountAll ds = 0
  rendered : ∀ k, renderAllAt (4 * k) ds = header ++ breaks (inner k)
  fits : ∀ k, 4 * (k + depth) < indentLimit → fitAllAt (4 * k) ds = true

/-- The document writes a text and nothing behind it. -/
abbrev WritesText (d : Doc) (s : List Char) : Prop := d.Writes s (fun _ => []) 0

section

variable {d : Doc} {ds : List Doc} {header s : List Char} {inner : Nat → List (List Char)}
  {depth : Nat}

/-- A document that reaches less deep reaches at most that deep. -/
theorem Writes.mono {more : Nat} (hd : d.Writes header inner depth) (hle : depth ≤ more) :
    d.Writes header inner more :=
  ⟨hd.unmarked, hd.rendered, fun k hk => hd.fits k (by omega)⟩

/-! ## Documents one behind the other -/

theorem WritesAll.nil : WritesAll [] [] (fun _ => []) 0 :=
  ⟨rfl, fun _ => rfl, fun _ _ => rfl⟩

/-- A text in front lengthens the header. -/
theorem WritesAll.cons_text (hd : d.WritesText s) (hds : WritesAll ds header inner depth) :
    WritesAll (d :: ds) (s ++ header) inner depth where
  unmarked := by rw [unknownCountAll, hd.unmarked, hds.unmarked]
  rendered k := by rw [renderAllAt, hd.rendered, hds.rendered, breaks_nil, List.append_nil,
    List.append_assoc]
  fits k hk := by rw [fitAllAt, hd.fits k (by omega), hds.fits k hk, Bool.true_and]

/-- Whole lines behind a document come behind its own. -/
theorem WritesAll.cons_lines {lines : Nat → List (List Char)} {more : Nat}
    (hd : d.Writes header inner depth) (hds : WritesAll ds [] lines more) :
    WritesAll (d :: ds) header (fun k => inner k ++ lines k) (max depth more) where
  unmarked := by rw [unknownCountAll, hd.unmarked, hds.unmarked]
  rendered k := by rw [renderAllAt, hd.rendered, hds.rendered, breaks_append, List.nil_append,
    List.append_assoc]
  fits k hk := by
    rw [fitAllAt, hd.fits k (by omega), hds.fits k (by omega), Bool.true_and]

theorem WritesAll.singleton (hd : d.Writes header inner depth) :
    WritesAll [d] header inner depth := by
  simpa using WritesAll.cons_lines hd WritesAll.nil

/-! ## Texts -/

theorem writesText_text (h : Unbroken s) : (Doc.text s).WritesText s where
  unmarked := rfl
  rendered k := by
    rw [text, renderAt_plain, indented_of_unbroken _ h, renderAllAt, breaks_nil]
  fits k hk := by
    rw [text, fitsAt_plain, fitAllAt, Bool.and_true, decide_eq_true_iff]
    omega

theorem unknownCount_plain (lead : List Char) (ds : List Doc) :
    (plain lead ds).unknownCount = unknownCountAll ds := by
  rw [plain, unknownCount, Bool.toNat_false, Nat.zero_add]

/-- A leading text lengthens the header. -/
theorem WritesAll.plain (hs : Unbroken s) (hds : WritesAll ds header inner depth) :
    (Doc.plain s ds).Writes (s ++ header) inner depth where
  unmarked := by rw [unknownCount_plain, hds.unmarked]
  rendered k := by
    rw [renderAt_plain, indented_of_unbroken _ hs, hds.rendered, List.append_assoc]
  fits k hk := by
    rw [fitsAt_plain, hds.fits k hk, Bool.and_true, decide_eq_true_iff]
    omega

theorem WritesAll.concat (hds : WritesAll ds header inner depth) :
    (Doc.concat ds).Writes header inner depth :=
  hds.plain unbroken_nil

/-- A leading text behind a line break begins a line of its own. -/
theorem WritesAll.plain_lineBreak (hs : Unbroken s) (hds : WritesAll ds header inner depth) :
    (Doc.plain ('\n' :: s) ds).Writes [] (fun k => lineAt k (s ++ header) :: inner k) depth where
  unmarked := by rw [unknownCount_plain, hds.unmarked]
  rendered k := by
    rw [renderAt_plain, indented, if_pos rfl, indented_of_unbroken _ hs, hds.rendered, breaks_cons,
      lineAt]
    simp
  fits k hk := by
    rw [fitsAt_plain, hds.fits k hk, Bool.and_true, decide_eq_true_iff]
    omega

/-- **A suite** writes a colon, and what it holds on lines one block deeper. -/
theorem Writes.suite (hd : d.Writes header inner depth) :
    (Doc.suite d).Writes [':'] (fun k => lineAt (k + 1) header :: inner (k + 1)) (depth + 1) where
  unmarked := by
    have hmarks : (Doc.suite d).unknownCount = d.unknownCount := by
      simp [Doc.suite, Doc.plain, withNewline, withIndent, unknownCount, unknownCountAll]
    rw [hmarks, hd.unmarked]
  rendered k := by
    have hrest := hd.rendered (k + 1)
    rw [Nat.mul_add, Nat.mul_one] at hrest
    rw [renderAt_suite, hrest, breaks_cons, lineAt, Nat.mul_add, Nat.mul_one]
    simp
  fits k hk := by
    have hrest := hd.fits (k + 1) (by omega)
    rw [Nat.mul_add, Nat.mul_one] at hrest
    rw [fitsAt_suite, hrest, Bool.and_true, decide_eq_true_iff]
    omega

/-! ## Separated documents -/

/-- Texts with an unbroken text between them. -/
theorem writesAll_intersperse {between : List Char} {texts : List (List Char)}
    (hbetween : Unbroken between) (h : List.Forall₂ WritesText ds texts) :
    WritesAll (ds.intersperse (.text between)) (between.intercalate texts) (fun _ => []) 0 := by
  induction h with
  | nil => exact WritesAll.nil
  | @cons d s ds texts hd hds ih =>
    cases hds with
    | nil => simpa using WritesAll.singleton hd
    | cons hnext hrest =>
      rw [List.intersperse_cons_cons, List.intercalate_cons_cons, List.append_assoc]
      exact WritesAll.cons_text hd (WritesAll.cons_text (writesText_text hbetween) ih)

/-- A text with texts in parentheses behind it. -/
theorem writesAll_application {args : List Doc} {texts : List (List Char)} (hd : d.WritesText s)
    (hargs : List.Forall₂ WritesText args texts) :
    WritesAll [d, .text ['('], .concat (args.intersperse (.text [',', ' '])), .text [')']]
      (s ++ '(' :: ([',', ' '].intercalate texts ++ [')'])) (fun _ => []) 0 := by
  have hopen : (Doc.text ['(']).WritesText ['('] := writesText_text (by decide)
  have hclose : (Doc.text [')']).WritesText [')'] := writesText_text (by decide)
  have hcomma : Unbroken [',', ' '] := by decide
  have hlist := (writesAll_intersperse hcomma hargs).concat
  exact WritesAll.cons_text hd (.cons_text hopen (.cons_text hlist (.singleton hclose)))

/-- Behind a line break, the header of what follows is a line of its own. -/
theorem WritesAll.lineBreak (hds : WritesAll ds header inner depth) :
    WritesAll (.text ['\n'] :: ds) [] (fun k => lineAt k header :: inner k) depth where
  unmarked := by rw [unknownCountAll, hds.unmarked, text, unknownCount_plain, unknownCountAll]
  rendered k := by
    rw [renderAllAt, hds.rendered, text, renderAt_plain, indented, if_pos rfl, indented, renderAllAt,
      breaks_cons, lineAt]
    simp
  fits k hk := by
    rw [fitAllAt, hds.fits k hk, Bool.and_true, text, fitsAt_plain, fitAllAt, Bool.and_true,
      decide_eq_true_iff]
    omega

/-- Documents on lines of their own write these lines: none at all, or the header of the first line
and whole lines behind it. -/
def WritesLines (ds : List Doc) (lines : Nat → List (List Char)) (depth : Nat) : Prop :=
  (ds = [] ∧ lines = fun _ => []) ∨
    (ds ≠ [] ∧ ∃ header inner, WritesAll (ds.intersperse (.text ['\n'])) header inner depth ∧
      lines = fun k => lineAt k header :: inner k)

/-- **A document in front** writes its lines first. -/
theorem WritesLines.cons {lines : Nat → List (List Char)} {more : Nat}
    (hd : d.Writes header inner depth) (hds : WritesLines ds lines more) :
    WritesLines (d :: ds) (fun k => lineAt k header :: inner k ++ lines k) (max depth more) := by
  refine .inr ⟨List.cons_ne_nil _ _, header, fun k => inner k ++ lines k, ?_, rfl⟩
  rcases hds with ⟨rfl, rfl⟩ | ⟨hne, nextHeader, rest, hrest, rfl⟩
  · exact WritesAll.cons_lines hd ⟨rfl, fun _ => rfl, fun _ _ => rfl⟩
  · obtain ⟨next, ds, rfl⟩ := List.exists_cons_of_ne_nil hne
    rw [List.intersperse_cons_cons]
    exact WritesAll.cons_lines hd hrest.lineBreak

/-- Documents on lines of their own, outside of all blocks: the text is that of the lines. -/
theorem WritesLines.render_concat {lines : Nat → List (List Char)} (h : WritesLines ds lines depth) :
    let file := Doc.concat [.concat (ds.intersperse (.text ['\n']))]
    file.unknownCount = 0 ∧ file.render = ['\n'].intercalate (lines 0) ∧
      (4 * depth < indentLimit → file.render? = .ok (['\n'].intercalate (lines 0))) := by
  rcases h with ⟨rfl, rfl⟩ | ⟨-, header, inner, hwrites, rfl⟩
  · exact ⟨rfl, rfl, fun _ => rfl⟩
  · have hfile := (WritesAll.singleton hwrites.concat).concat
    have hrender : (Doc.concat [.concat (ds.intersperse (.text ['\n']))]).render = _ :=
      hfile.rendered 0
    rw [← intercalate_lineBreak, ← lineAt_zero header] at hrender
    refine ⟨hfile.unmarked, hrender, fun hdepth => ?_⟩
    rw [render?, if_pos (hfile.fits 0 (by omega)), hrender]

end

end Doc

end TreeScribe
