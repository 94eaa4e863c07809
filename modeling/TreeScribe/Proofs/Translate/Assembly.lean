import TreeScribe.Proofs.Translate.Marked

/-!
# How documents are put together

Every rendering puts the documents of the nodes that it visits into its own, each of them once and
in the order of the visits.  So the documents of marked nodes stand in the document of a tree in the
order in which their marks are reported.

Main statement: a tree that translates reports the marks of its marked nodes, in order, and its
document holds their documents in the same order (`translate_records`).
-/

namespace TreeScribe

open Traced

/-- The document of a marked node whose children have the documents `parts`. -/
def Node.markDoc (n : Node) (source : List Char) (parts : List Doc) : Doc :=
  (Doc.marked ('(' :: (n.kind.name.toList ++ [' ']))
    (.verbatimText (n.text source) :: .text [')', '\n'] :: parts)).withIndent 2

section Holding

variable (source : List Char) (own : Prop)

mutual

/-- The documents of the marked nodes `ns` stand in a document, in order.  Other documents in it are
marked only if `own` holds. -/
inductive Doc.Holds : List Node → Doc → Prop
  | doc {ns : List Node} {ds : List Doc} (lead : List Char) (layout : Layout) {unknown : Bool}
      (verbatim : Bool) (hunknown : unknown = true → own) (h : Doc.HoldAll ns ds) :
      Doc.Holds ns ⟨lead, ds, layout, unknown, verbatim⟩
  | mark (n : Node) {ns : List Node} {ds : List Doc} (h : Doc.HoldAll ns ds) :
      Doc.Holds (n :: ns) (n.markDoc source ds)

/-- As `Doc.Holds`, of documents one behind the other. -/
inductive Doc.HoldAll : List Node → List Doc → Prop
  | nil : Doc.HoldAll [] []
  | cons {ns ms : List Node} {d : Doc} {ds : List Doc} (hd : Doc.Holds ns d)
      (hds : Doc.HoldAll ms ds) : Doc.HoldAll (ns ++ ms) (d :: ds)

end

end Holding

namespace Doc

section

variable {source : List Char} {own : Prop} {ns ms : List Node} {d e : Doc} {ds : List Doc}

/-- A document that is not marked holds what its children hold. -/
theorem HoldAll.unmarked (lead : List Char) (layout : Layout) (verbatim : Bool)
    (h : HoldAll source own ns ds) : Holds source own ns ⟨lead, ds, layout, false, verbatim⟩ :=
  .doc lead layout verbatim (fun hmarked => absurd hmarked Bool.false_ne_true) h

theorem HoldAll.plain (lead : List Char) (h : HoldAll source own ns ds) :
    Holds source own ns (Doc.plain lead ds) :=
  h.unmarked lead .none false

theorem HoldAll.concat (h : HoldAll source own ns ds) : Holds source own ns (Doc.concat ds) :=
  h.plain []

theorem Holds.text (s : List Char) : Holds source own [] (Doc.text s) := HoldAll.nil.plain s

theorem Holds.verbatimText (s : List Char) : Holds source own [] (Doc.verbatimText s) :=
  HoldAll.nil.unmarked s .none true

theorem Holds.empty : Holds source own [] Doc.empty := .text []

/-- A text in front holds nothing. -/
theorem HoldAll.cons_text (s : List Char) (h : HoldAll source own ns ds) :
    HoldAll source own ns (Doc.text s :: ds) :=
  .cons (.text s) h

theorem HoldAll.singleton (h : Holds source own ns d) : HoldAll source own ns [d] := by
  have hlist : HoldAll source own (ns ++ []) [d] := .cons h .nil
  rwa [List.append_nil] at hlist

theorem HoldAll.pair (hd : Holds source own ns d) (he : Holds source own ms e) :
    HoldAll source own (ns ++ ms) [d, e] :=
  .cons hd (.singleton he)

theorem Holds.suite (h : Holds source own ns d) : Holds source own ns (Doc.suite d) :=
  (HoldAll.singleton h).unmarked [':'] _ false

/-- A text between documents holds nothing. -/
theorem HoldAll.intersperse (between : List Char) :
    ∀ {ns : List Node} {ds : List Doc}, HoldAll source own ns ds →
      HoldAll source own ns (ds.intersperse (Doc.text between)) := by
  intro ns ds
  induction ds generalizing ns with
  | nil =>
    intro h
    exact h
  | cons d ds ih =>
    intro h
    cases h with
    | @cons ns ms _ _ hd hds =>
      cases ds with
      | nil => exact .cons hd hds
      | cons e ds => exact .cons hd (.cons_text between (ih hds))

end

end Doc

/-! ## Renderings -/

section Renderings

variable {file : SourceFile} {own : Prop} {visit : Node → Traced Doc} {f : Node → List Node}

/-- The computation reports the marks of `ns`, and its document holds their documents. -/
def Traced.Records (x : Traced Doc) (source : List Char) (own : Prop) (ns : List Node) : Prop :=
  x.Marks fun ms d => ms = ns ∧ d.Holds source own ns

/-- As `Records`, of documents one behind the other. -/
def Traced.RecordsAll (x : Traced (List Doc)) (source : List Char) (own : Prop) (ns : List Node) :
    Prop :=
  x.Marks fun ms ds => ms = ns ∧ Doc.HoldAll source own ns ds

theorem records_pure {d : Doc} (h : d.Holds file.text own []) :
    (pure d : Traced Doc).Records file.text own [] :=
  marks_pure ⟨rfl, h⟩

/-- Goes on with the document of a computation. -/
theorem Traced.Records.bind {α : Type} {x : Traced Doc} {g : Doc → Traced α} {ns : List Node}
    {Q : List Node → α → Prop} (hx : x.Records file.text own ns)
    (hg : ∀ d, d.Holds file.text own ns → (g d).Marks fun ms b => Q (ns ++ ms) b) :
    (x >>= g).Marks Q := by
  refine Marks.bind hx ?_
  rintro _ d ⟨rfl, hd⟩
  exact hg d hd

theorem Traced.RecordsAll.bind {α : Type} {x : Traced (List Doc)} {g : List Doc → Traced α}
    {ns : List Node} {Q : List Node → α → Prop} (hx : x.RecordsAll file.text own ns)
    (hg : ∀ ds, Doc.HoldAll file.text own ns ds → (g ds).Marks fun ms b => Q (ns ++ ms) b) :
    (x >>= g).Marks Q := by
  refine Marks.bind hx ?_
  rintro _ ds ⟨rfl, hds⟩
  exact hg ds hds

/-- A document that is only put into another one. -/
theorem Traced.Records.map {x : Traced Doc} {g : Doc → Doc} {ns : List Node}
    (hx : x.Records file.text own ns)
    (hg : ∀ d, d.Holds file.text own ns → (g d).Holds file.text own ns) :
    (x >>= fun d => pure (g d)).Records file.text own ns := by
  refine hx.bind fun d hd => marks_pure ?_
  exact ⟨List.append_nil ns, hg d hd⟩

/-! ### Several nodes -/

theorem visitAll_records :
    ∀ {ns : List Node}, (∀ m ∈ ns, (visit m).Records file.text own (f m)) →
      (visitAll visit ns).RecordsAll file.text own (ns.flatMap f) := by
  intro ns
  induction ns with
  | nil =>
    intro _
    exact marks_pure ⟨rfl, .nil⟩
  | cons n ns ih =>
    intro h
    have hn : (visit n).Records file.text own (f n) := h n (List.mem_cons_self ..)
    have hns : (visitAll visit ns).RecordsAll file.text own (ns.flatMap f) :=
      ih fun m hm => h m (List.mem_cons_of_mem _ hm)
    refine hn.bind fun d hd => hns.bind fun ds hds => marks_pure ?_
    rw [List.append_nil, List.flatMap_cons]
    exact ⟨rfl, .cons hd hds⟩

theorem visitConcat_records {ns : List Node}
    (h : ∀ m ∈ ns, (visit m).Records file.text own (f m)) :
    (visitConcat visit ns).Records file.text own (ns.flatMap f) := by
  refine (visitAll_records h).bind fun ds hds => marks_pure ?_
  exact ⟨List.append_nil _, hds.concat⟩

theorem visitSeparated_records {ns : List Node} (between : List Char)
    (h : ∀ m ∈ ns, (visit m).Records file.text own (f m)) :
    (visitSeparated visit ns between).Records file.text own (ns.flatMap f) := by
  refine (visitAll_records h).bind fun ds hds => marks_pure ?_
  exact ⟨List.append_nil _, (hds.intersperse between).concat⟩

theorem visitOptional_records {o : Option Node}
    (h : ∀ m ∈ o.toList, (visit m).Records file.text own (f m)) :
    (visitOptional visit o).Records file.text own (o.toList.flatMap f) := by
  cases o with
  | none => exact records_pure .empty
  | some n =>
    have hn : (visit n).Records file.text own (f n) := h n (List.mem_singleton_self n)
    simpa [visitOptional] using hn

/-- A marked node reports its mark before those of its children. -/
theorem renderMarker_records {n : Node}
    (h : ∀ m ∈ n.children, (visit m).Records file.text own (f m)) :
    (renderMarker file visit n).Records file.text own (n :: n.children.flatMap f) := by
  have hreport : (report n.markEvent).Marks fun ns _ => ns = [n] := marks_report n
  refine hreport.bind ?_
  rintro _ ⟨⟩ rfl
  refine (visitAll_records h).bind fun ds hds => marks_pure ?_
  rw [List.append_nil]
  exact ⟨rfl, .mark n hds⟩

/-! ### Branches -/

theorem visitBranch_records {n : Node} (h : (visit n).Records file.text own (f n)) :
    (visitBranch visit n).Records file.text own (f n) := by
  unfold visitBranch
  split
  · exact h
  · exact h.map fun _ hd => hd.suite

theorem visitElse_records {n : Node} (h : (visit n).Records file.text own (f n)) :
    (visitElse visit n).Records file.text own (f n) := by
  unfold visitElse
  split
  · exact h.map fun _ hd => (Doc.HoldAll.singleton hd).plain _
  · exact (visitBranch_records h).map fun _ hd => (Doc.HoldAll.singleton hd).plain _

/-- The module of an import is looked up, and nothing is marked for it. -/
theorem Node.importedModule_marks (n : Node) (source : List Char) :
    (n.importedModule source).Marks fun ns _ => ns = [] := by
  unfold Node.importedModule
  cases n.child? "source" with
  | some s => exact marks_pure rfl
  | none =>
    cases n.childOfKind? requireClause with
    | some clause => exact marks_demand_bind fun s _ => marks_pure rfl
    | none => exact marks_demand_bind fun entity _ => marks_pure rfl

/-! ### Recipes -/

theorem Filling.parts_records {n : Node} (filling : Filling)
    (h : ∀ m ∈ filling.visited n, (visit m).Records file.text own (f m)) :
    (filling.parts file visit n).RecordsAll file.text own ((filling.visited n).flatMap f) := by
  have hone : ∀ {x : Traced Doc} {ns : List Node}, x.Records file.text own ns →
      (x >>= fun d => pure [d]).RecordsAll file.text own ns := by
    intro x ns hx
    exact hx.bind fun d hd => marks_pure ⟨List.append_nil ns, .singleton hd⟩
  cases filling <;> simp only [Filling.parts, Filling.visited] at h ⊢
  case all => exact visitAll_records h
  case nodes | named => exact hone (visitConcat_records h)
  case first | field => exact hone (visitOptional_records h)
  case separated between | separatedAll between => exact hone (visitSeparated_records between h)
  case required name =>
    refine marks_require_bind fun c hc => ?_
    rw [hc] at h ⊢
    have hchild : (visit c).Records file.text own (f c) := h c (List.mem_singleton_self c)
    rw [Option.toList_some, List.flatMap_singleton]
    exact hone hchild
  case text | kind | path => exact marks_pure ⟨rfl, .singleton (.text _)⟩
  case verbatim => exact marks_pure ⟨rfl, .singleton (.verbatimText _)⟩
  case nothing => exact marks_pure ⟨rfl, .nil⟩

/-! ### All renderings -/

/-- **The step of a rendering.**  If the nodes that a rendering visits record their marked nodes,
the rendering records them in the order of the visits, behind its own node if it is a marker. -/
theorem Rendering.apply_records {n : Node} (r : Rendering)
    (hr : ∀ recipe, r = .recipe recipe → recipe.unknown = true → own)
    (h : ∀ m ∈ r.visited n, (visit m).Records file.text own (f m)) :
    (r.apply file visit n).Records file.text own
      ((if r = .marker then [n] else []) ++ (r.visited n).flatMap f) := by
  cases r <;>
    simp only [Rendering.apply, Rendering.visited, reduceCtorEq, if_true, if_false,
      List.nil_append, List.mem_append] at h ⊢
  case marker => exact renderMarker_records h
  case rawText | quotedValue | snakeName => exact records_pure (.text _)
  case lines => exact visitSeparated_records _ h
  case braces =>
    cases hlist : n.statements? with
    | none => exact records_pure (.text _)
    | some list =>
      have hvisit : (visit list).Records file.text own (f list) := h list (by simp [hlist])
      have hdoc : ((visit list) >>= fun inner => pure
          ((((Doc.plain ['{'] [inner]).withNewline).withIndent 4).withTail ['\n', '}'])).Records
            file.text own (f list) :=
        hvisit.map fun d hd => (Doc.HoldAll.singleton hd).unmarked _ _ false
      simpa using hdoc
  case suite =>
    cases hlist : n.statements? with
    | none => exact records_pure (.suite (.text _))
    | some list =>
      have hvisit : (visit list).Records file.text own (f list) := h list (by simp [hlist])
      simpa using hvisit.map fun d hd => hd.suite
  case returned =>
    cases hfirst : n.firstNamed? with
    | none => exact records_pure (.text _)
    | some expression =>
      have hvisit : (visit expression).Records file.text own (f expression) :=
        h expression (by simp [hfirst])
      have hdoc : (visit expression >>= fun d => pure (Doc.plain "return ".toList [d])).Records
          file.text own (f expression) :=
        hvisit.map fun d hd => (Doc.HoldAll.singleton hd).plain _
      simpa using hdoc
  case operation =>
    refine marks_require_bind fun left hleft => marks_demand_bind fun operator _ =>
      marks_require_bind fun right hright => ?_
    rw [hleft, hright] at h ⊢
    have hl : (visit left).Records file.text own (f left) := h left (by simp)
    have hr : (visit right).Records file.text own (f right) := h right (by simp)
    refine hl.bind fun l hl => hr.bind fun r hr => marks_pure ⟨by simp, ?_⟩
    have hall := Doc.HoldAll.cons hl (.cons_text (' ' :: (textOf file operator ++ [' ']))
      (.singleton hr))
    simpa using hall.concat
  case access =>
    refine marks_require_bind fun object hobject => marks_require_bind fun property hproperty => ?_
    rw [hobject, hproperty] at h ⊢
    have ho : (visit object).Records file.text own (f object) := h object (by simp)
    have hp : (visit property).Records file.text own (f property) := h property (by simp)
    refine ho.bind fun o ho => hp.bind fun p hp => marks_pure ⟨by simp, ?_⟩
    have hall := Doc.HoldAll.cons ho (.cons_text ['.'] (.singleton hp))
    simpa using hall.concat
  case call =>
    refine marks_require_bind fun callee hcallee => marks_require_bind fun arguments harguments => ?_
    rw [hcallee, harguments] at h ⊢
    have hc : (visit callee).Records file.text own (f callee) := h callee (by simp)
    have hargs : (visitSeparated visit arguments.namedChildren [',', ' ']).Records file.text own
        (arguments.namedChildren.flatMap f) :=
      visitSeparated_records _ fun m hm => h m (by simp [hm])
    refine hc.bind fun c hc => hargs.bind fun args hargs => marks_pure ⟨by simp, ?_⟩
    have hall := Doc.HoldAll.cons hc (.cons_text ['('] (.cons hargs (.cons_text [')'] .nil)))
    simpa using hall.concat
  case firstNamed => exact visitOptional_records h
  case importedModule =>
    refine (n.importedModule_marks file.text).bind ?_
    rintro _ module rfl
    exact records_pure (.text _)
  case definition =>
    refine marks_require_bind fun name hname => marks_require_bind fun parameters hparameters =>
      marks_require_bind fun body hbody => ?_
    rw [hname, hparameters, hbody] at h ⊢
    have hn : (visit name).Records file.text own (f name) := h name (by simp)
    have hps : (visitSeparated visit parameters.namedChildren [',', ' ']).Records file.text own
        (parameters.namedChildren.flatMap f) :=
      visitSeparated_records _ fun m hm => h m (by simp [hm])
    have hb : (visit body).Records file.text own (f body) := h body (by simp)
    refine hn.bind fun name hn => hps.bind fun parameters hps => hb.bind fun body hb =>
      marks_pure ⟨by simp, ?_⟩
    have hheader := (Doc.HoldAll.cons hn
      (.cons_text ['('] (.cons hps (.cons_text [')'] .nil)))).plain "def ".toList
    have hall := Doc.HoldAll.pair hheader hb
    simpa using hall.concat
  case pattern =>
    refine marks_require_bind fun pattern hpattern => ?_
    rw [hpattern] at h ⊢
    rw [Option.toList_some, List.flatMap_singleton]
    exact h pattern (List.mem_singleton_self pattern)
  case branches =>
    refine marks_require_bind fun condition hcondition =>
      marks_require_bind fun consequence hconsequence => ?_
    rw [hcondition, hconsequence] at h ⊢
    have hc : (visit condition).Records file.text own (f condition) := h condition (by simp)
    have hb : (visitBranch visit consequence).Records file.text own (f consequence) :=
      visitBranch_records (h consequence (by simp))
    refine hc.bind fun condition hc => hb.bind fun consequence hb => ?_
    have hfirst := (Doc.HoldAll.pair hc hb).plain "if ".toList
    cases halternative : n.child? "alternative" with
    | none => exact marks_pure ⟨by simp, by simpa using (Doc.HoldAll.singleton hfirst).concat⟩
    | some alternative =>
      refine marks_demand_bind fun statement hstatement => ?_
      have he : (visitElse visit statement).Records file.text own (f statement) :=
        visitElse_records (h statement (by simp [halternative, hstatement]))
      refine he.bind fun second he => marks_pure ⟨by simp [hstatement], ?_⟩
      simpa [hstatement] using (Doc.HoldAll.pair hfirst he).concat
  case recipe recipe =>
    refine (recipe.filling.parts_records h).bind fun parts hparts => marks_pure ?_
    exact ⟨List.append_nil _, .doc _ _ false (hr recipe rfl) hparts⟩
  case refusal message => exact marks_fail _

/-! ### Nodes -/

/-- Some role has a recipe that marks its document, whether or not the node is marked. -/
def Scheme.MarksByRecipe (scheme : Scheme) : Prop :=
  ∃ role recipe, scheme role = .recipe recipe ∧ recipe.unknown = true

/-- **The step of a translation.**  If the nodes visited for a node record their marked nodes, the
node records itself, if it is marked, and then these. -/
theorem renderNode_records (scheme : Scheme) (n : Node)
    (h : ∀ m ∈ scheme.visited n, (visit m).Records file.text scheme.MarksByRecipe (f m)) :
    (renderNode file visit scheme n).Records file.text scheme.MarksByRecipe
      (scheme.marks n ++ (scheme.visited n).flatMap f) := by
  unfold renderNode Scheme.marks
  unfold Scheme.visited at h ⊢
  cases hkind : n.kind with
  | sourceFile | punctuation =>
    have hrendering : scheme.rendering? n = none := by simp [Scheme.rendering?, hkind]
    rw [hrendering] at h ⊢
    simpa using visitConcat_records h
  | role role =>
    have hrendering : scheme.rendering? n = some (scheme role) := by
      simp [Scheme.rendering?, hkind]
    have hrecipe : ∀ recipe, scheme role = .recipe recipe → recipe.unknown = true →
        scheme.MarksByRecipe := fun recipe hrole hunknown => ⟨role, recipe, hrole, hunknown⟩
    rw [hrendering] at h ⊢
    simpa using (scheme role).apply_records hrecipe h
  | other name =>
    have hrendering : scheme.rendering? n = some .marker := by simp [Scheme.rendering?, hkind]
    rw [hrendering] at h ⊢
    simpa [Rendering.visited] using renderMarker_records h

end Renderings

/-- **A translation records the marked nodes of its tree**: it reports the marks of these nodes, in
order, and its document holds their documents in the same order. -/
theorem Node.translate_records (file : SourceFile) (scheme : Scheme) (n : Node) :
    (n.translate file scheme).Records file.text scheme.MarksByRecipe (n.marked scheme) := by
  rw [translate_eq, marked_eq]
  refine renderNode_records scheme n fun m hm => ?_
  have hlower := height_lt_of_mem_descendants (scheme.mem_descendants_of_mem_visited hm)
  exact translate_records file scheme m
termination_by n.height

end TreeScribe
