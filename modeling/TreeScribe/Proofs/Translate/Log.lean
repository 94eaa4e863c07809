import Mathlib.Data.List.Forall2
import TreeScribe.Proofs.Translate.Assembly
import TreeScribe.Target

/-!
# The log of a translation

Marks are reported while a tree is translated, and they are counted once its document is finished.
No rendering drops, repeats or exchanges the documents of the nodes that it visits, so the two agree.

Main statement: the events of a translation announce the marked documents of its result one by one,
and the log of a file gives their number on success and ends without one on failure
(`events_announce_markedDocs`).
-/

namespace TreeScribe

open Traced

/-! ## Marked documents -/

namespace Doc

mutual

/-- The marked documents in `d`, itself included, each before those inside it. -/
def markedDocs : Doc → List Doc
  | ⟨lead, children, layout, unknown, verbatim⟩ =>
    (if unknown then [⟨lead, children, layout, unknown, verbatim⟩] else []) ++
      markedDocsAll children

/-- The marked documents in a list of documents. -/
def markedDocsAll : List Doc → List Doc
  | [] => []
  | d :: ds => d.markedDocs ++ markedDocsAll ds

end

mutual

theorem length_markedDocs (d : Doc) : d.markedDocs.length = d.unknownCount := by
  obtain ⟨lead, children, layout, unknown, verbatim⟩ := d
  rw [markedDocs, unknownCount, List.length_append, length_markedDocsAll children]
  cases unknown <;> rfl

theorem length_markedDocsAll (ds : List Doc) :
    (markedDocsAll ds).length = unknownCountAll ds := by
  match ds with
  | [] => rfl
  | d :: ds =>
    rw [markedDocsAll, unknownCountAll, List.length_append, length_markedDocs d,
      length_markedDocsAll ds]

end

end Doc

/-- The event announces the document: it reports a mark, and the leading text of the document opens
with the name of the reported kind. -/
def Event.Announces (e : Event) (d : Doc) : Prop :=
  ∃ kind span, e = .unknownSyntax kind span ∧ d.lead = '(' :: (kind.name.toList ++ [' '])

theorem Node.announces_markDoc (n : Node) (source : List Char) (ds : List Doc) :
    n.markEvent.Announces (n.markDoc source ds) :=
  ⟨n.kind, n.span, rfl, rfl⟩

namespace Doc

variable {source : List Char} {own : Prop}

mutual

/-- If nothing else is marked in a document, the marks of the nodes whose documents stand in it
announce its marked documents. -/
theorem Holds.announces {ns : List Node} {d : Doc} (h : Holds source own ns d) (hown : ¬ own) :
    List.Forall₂ Event.Announces (ns.map Node.markEvent) d.markedDocs := by
  match h with
  | @Holds.doc _ _ _ _ lead layout unknown verbatim hunknown hall =>
    have hunmarked : unknown = false := by
      cases unknown with
      | false => rfl
      | true => exact absurd (hunknown rfl) hown
    subst hunmarked
    exact hall.announces hown
  | .mark n hall =>
    have hparts : ∀ ds : List Doc, (n.markDoc source ds).markedDocs =
        n.markDoc source ds :: markedDocsAll ds := fun _ => rfl
    rw [hparts]
    exact .cons (n.announces_markDoc source _) (hall.announces hown)

theorem HoldAll.announces {ns : List Node} {ds : List Doc} (h : HoldAll source own ns ds)
    (hown : ¬ own) : List.Forall₂ Event.Announces (ns.map Node.markEvent) (markedDocsAll ds) := by
  match h with
  | .nil => exact .nil
  | .cons hd hds =>
    rw [List.map_append]
    exact List.rel_append (hd.announces hown) (hds.announces hown)

end

end Doc

/-! ## Trees -/

/-- The log of a tree announces the marked documents of its document. -/
theorem Node.announces_of_outcome {file : SourceFile} {scheme : Scheme} (hs : ¬ scheme.MarksByRecipe)
    {n : Node} {doc : Doc} (hdoc : (n.translate file scheme).outcome = .ok doc) :
    List.Forall₂ Event.Announces (n.translate file scheme).events doc.markedDocs ∧
      doc.unknownCount = (n.translate file scheme).events.length := by
  obtain ⟨ns, hevents, hholds⟩ := n.translate_records file scheme
  obtain ⟨rfl, hdoc⟩ := hholds doc hdoc
  have hall := hdoc.announces hs
  rw [← hevents] at hall
  refine ⟨hall, ?_⟩
  rw [← Doc.length_markedDocs, hall.length_eq]

/-- Whatever its end, the translation of a tree reports nothing but marks. -/
theorem Node.translated_notMem_events (file : SourceFile) (scheme : Scheme) (n : Node)
    (path : String) (k : Nat) : .translated path k ∉ (n.translate file scheme).events := by
  obtain ⟨ns, hevents, -⟩ := n.translate_records file scheme
  intro hmem
  rw [hevents] at hmem
  obtain ⟨m, -, hm⟩ := List.mem_map.1 hmem
  cases hm

/-! ## Schemes that mark nothing by a recipe -/

/-- The targets have no recipes. -/
theorem Target.not_marksByRecipe (t : Target) : ¬ t.scheme.MarksByRecipe := by
  rintro ⟨role, recipe, hrole, -⟩
  cases t <;> cases role <;>
    simp [Target.scheme, Scheme.outline, Scheme.plain, Scheme.python] at hrole

/-- Recipes that mark nothing may replace renderings. -/
theorem Scheme.not_marksByRecipe_override {base : Scheme} {changes : List (Role × Rendering)}
    (hbase : ¬ base.MarksByRecipe)
    (hchanges : ∀ c ∈ changes, ∀ recipe, c.2 = .recipe recipe → recipe.unknown = false) :
    ¬ (base.override changes).MarksByRecipe := by
  rintro ⟨role, recipe, hrole, hunknown⟩
  rw [override] at hrole
  cases hlookup : changes.lookup role with
  | none =>
    rw [hlookup] at hrole
    exact hbase ⟨role, recipe, hrole, hunknown⟩
  | some rendering =>
    rw [hlookup] at hrole
    obtain ⟨front, behind, hsplit, -⟩ := List.lookup_eq_some_iff.1 hlookup
    have hmem : (role, rendering) ∈ changes := by
      rw [hsplit]
      exact List.mem_append_right _ (List.mem_cons_self ..)
    have hclear := hchanges _ hmem recipe hrole
    rw [hclear] at hunknown
    cases hunknown

/-! ## Files -/

section Files

variable (file : SourceFile) (parser : Parser) (scheme : Scheme)

/-- **How the translation of a file ends**, and what it has reported by then. -/
theorem SourceFile.translate_eq :
    file.translate parser scheme =
      match parser.parse file.text with
      | .error e => ⟨[.translating file.path parser.name], .error (.parse e)⟩
      | .ok root =>
        if root.kind = .sourceFile then
          match (root.translate file scheme).outcome with
          | .error e =>
            ⟨.translating file.path parser.name :: (root.translate file scheme).events, .error e⟩
          | .ok doc =>
            ⟨.translating file.path parser.name :: ((root.translate file scheme).events ++
              [.translated file.path doc.unknownCount]), .ok doc⟩
        else ⟨[.translating file.path parser.name], .error (.rootNotFound file.path)⟩ := by
  unfold SourceFile.translate
  rw [bind_of_ok (outcome_report _)]
  cases parser.parse file.text with
  | error e => rfl
  | ok root =>
    rw [Except.mapError, bind_of_ok (outcome_ofExcept _)]
    by_cases hkind : root.kind = .sourceFile
    · simp only [if_pos hkind]
      cases houtcome : (root.translate file scheme).outcome with
      | error e =>
        rw [bind_of_error houtcome]
        rfl
      | ok doc =>
        rw [bind_of_ok houtcome]
        rfl
    · simp only [if_neg hkind]
      rfl

variable {file parser scheme}

/-- The log of a file that translates: its first line, the events of its tree, and their number. -/
theorem SourceFile.events_of_outcome_eq_ok {doc : Doc}
    (h : (file.translate parser scheme).outcome = .ok doc) :
    ∃ root, parser.parse file.text = .ok root ∧ (root.translate file scheme).outcome = .ok doc ∧
      (file.translate parser scheme).events =
        .translating file.path parser.name ::
          ((root.translate file scheme).events ++ [.translated file.path doc.unknownCount]) := by
  rw [translate_eq] at h ⊢
  cases hparse : parser.parse file.text with
  | error e => simp [hparse] at h
  | ok root =>
    by_cases hkind : root.kind = .sourceFile
    · cases houtcome : (root.translate file scheme).outcome with
      | error e => simp [hparse, hkind, houtcome] at h
      | ok result =>
        simp only [hparse, hkind, houtcome, if_true, Except.ok.injEq] at h
        subst h
        exact ⟨root, rfl, houtcome, by simp only [hkind, houtcome, if_true]⟩
    · simp [hparse, hkind] at h

/-- The log of a file that does not translate has no last line. -/
theorem SourceFile.translated_notMem_events {e : TranslateError}
    (h : (file.translate parser scheme).outcome = .error e) (path : String) (k : Nat) :
    .translated path k ∉ (file.translate parser scheme).events := by
  intro hmem
  rw [translate_eq] at h hmem
  cases hparse : parser.parse file.text with
  | error e => simp [hparse] at hmem
  | ok root =>
    by_cases hkind : root.kind = .sourceFile
    · cases houtcome : (root.translate file scheme).outcome with
      | error e =>
        simp only [hparse, hkind, houtcome, if_true, List.mem_cons, reduceCtorEq,
          false_or] at hmem
        exact root.translated_notMem_events file scheme path k hmem
      | ok result => simp [hparse, hkind, houtcome] at h
    · simp [hparse, hkind] at hmem

end Files

/-- **The log agrees with the document.**  Under a scheme whose recipes mark nothing, the events of a
translation announce the marked documents of its result one by one, so their number is the count of
marks.  The log of a file consists of its first line, these events and a last line with that number
if the file translates, and lacks the last line if it does not. -/
theorem events_announce_markedDocs (file : SourceFile) (scheme : Scheme)
    (hs : ¬ scheme.MarksByRecipe) :
    (∀ (n : Node) (doc : Doc), (n.translate file scheme).outcome = .ok doc →
      List.Forall₂ Event.Announces (n.translate file scheme).events doc.markedDocs ∧
        doc.unknownCount = (n.translate file scheme).events.length) ∧
    (∀ (parser : Parser) (doc : Doc), (file.translate parser scheme).outcome = .ok doc →
      ∃ root, parser.parse file.text = .ok root ∧ (root.translate file scheme).outcome = .ok doc ∧
        (file.translate parser scheme).events =
          .translating file.path parser.name :: ((root.translate file scheme).events ++
            [.translated file.path (root.translate file scheme).events.length])) ∧
    ∀ (parser : Parser) (e : TranslateError), (file.translate parser scheme).outcome = .error e →
      ∀ path k, .translated path k ∉ (file.translate parser scheme).events := by
  refine ⟨fun n doc hdoc => Node.announces_of_outcome hs hdoc, ?_, ?_⟩
  · intro parser doc hdoc
    obtain ⟨root, hparse, hroot, hevents⟩ := SourceFile.events_of_outcome_eq_ok hdoc
    obtain ⟨-, hcount⟩ := Node.announces_of_outcome hs hroot
    rw [hcount] at hevents
    exact ⟨root, hparse, hroot, hevents⟩
  · intro parser e he path k
    exact SourceFile.translated_notMem_events he path k

/-- A list with a statement that holds a node which another one fills, and a further node. -/
def scatteredMarks : Node :=
  let inner : Node := .plain (.other "inner") ⟨0, 1⟩ []
  let statement : Node :=
    .plain (.role .expressionStatement) ⟨0, 2⟩ [.plain (.other "outer") ⟨0, 1⟩ [inner]]
  .plain .sourceFile ⟨0, 3⟩
    [.plain (.role .syntaxList) ⟨0, 3⟩ [statement, .plain (.other "last") ⟨2, 3⟩ []]]

/-- Three marks, two of them in a statement that a recipe lays out; and a source without a tree. -/
theorem events_announce_markedDocs_scatteredMarks :
    let file : SourceFile := ⟨"input.ts", "a;b".toList⟩
    let scheme : Scheme := Target.python.scheme.override
      [(.expressionStatement, .recipe ⟨.nodes, ['\n'], false, ⟨false, 2, none, some [';']⟩⟩)]
    let marks : List Event := [.unknownSyntax (.other "outer") ⟨0, 1⟩,
      .unknownSyntax (.other "inner") ⟨0, 1⟩, .unknownSyntax (.other "last") ⟨2, 3⟩]
    ¬ scheme.MarksByRecipe ∧
      (∃ doc, (scatteredMarks.translate file scheme).outcome = .ok doc ∧
        List.Forall₂ Event.Announces marks doc.markedDocs ∧ doc.unknownCount = marks.length) ∧
      (file.translate (.fixed "fixed" (.ok scatteredMarks)) scheme).events =
        .translating "input.ts" "fixed" :: (marks ++ [.translated "input.ts" 3]) ∧
      ∀ path k, .translated path k ∉
        (file.translate (.fixed "fixed" (.error (.internal "no tree"))) scheme).events := by
  intro file scheme marks
  have hs : ¬ scheme.MarksByRecipe :=
    Scheme.not_marksByRecipe_override (Target.not_marksByRecipe .python) (by simp)
  have hevents : (scatteredMarks.translate file scheme).events = marks := by rfl
  obtain ⟨doc, hdoc⟩ : ∃ doc, (scatteredMarks.translate file scheme).outcome = .ok doc := by
    exact ⟨_, rfl⟩
  have hfileDoc : (file.translate (.fixed "fixed" (.ok scatteredMarks)) scheme).outcome = .ok doc := by
    rw [SourceFile.translate_eq]
    simp only [Parser.fixed, hdoc]
    rfl
  obtain ⟨htree, hfile, hfailed⟩ := events_announce_markedDocs file scheme hs
  obtain ⟨hannounced, hcount⟩ := htree scatteredMarks doc hdoc
  rw [hevents] at hannounced hcount
  refine ⟨hs, ⟨doc, hdoc, hannounced, hcount⟩, ?_, hfailed _ (.parse (.internal "no tree")) rfl⟩
  obtain ⟨root, hroot, -, hlog⟩ := hfile (.fixed "fixed" (.ok scatteredMarks)) doc hfileDoc
  cases hroot
  rw [hlog, hevents]
  rfl

end TreeScribe
