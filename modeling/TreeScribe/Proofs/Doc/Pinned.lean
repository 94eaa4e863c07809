import TreeScribe.Proofs.Doc.Lines

/-!
# Pinned texts

A text in a document is pinned by making it verbatim: no indent around it goes into it any longer.

Main statements: an indent changes a text unless the text is unbroken or the indent is zero
(`indented_eq_self_iff`); and if texts of a document are pinned, its marks and its sums of indents
stay as they are, while its text stays the same exactly if no indent changed any of these texts
(`Pins`, which `pins_text` shows of a text, and `PinAll.doc` of the documents around it).
-/

namespace TreeScribe.Doc

/-! ## What an indent adds -/

theorem length_indented (indent : Nat) (s : List Char) :
    (indented indent s).length = s.length + indent * s.count '\n' := by
  induction s with
  | nil => rfl
  | cons c s ih =>
    by_cases hc : c = '\n'
    · subst hc
      rw [indented, if_pos rfl, List.count_cons_self, Nat.mul_add]
      simp only [List.length_cons, List.length_append, List.length_replicate, ih]
      omega
    · rw [indented, if_neg hc, List.count_cons_of_ne hc, List.length_cons, List.length_cons, ih]
      omega

theorem indented_zero (s : List Char) : indented 0 s = s := by
  induction s with
  | nil => rfl
  | cons c s ih =>
    rw [indented, List.replicate_zero, List.nil_append, ih, ite_eq_right_iff]
    rintro rfl
    rfl

/-- Only under an indent, and only with a line break, does a text change. -/
theorem indented_eq_self_iff {indent : Nat} {s : List Char} :
    indented indent s = s ↔ indent = 0 ∨ Unbroken s := by
  constructor
  · intro h
    have hlength := length_indented indent s
    rw [h, Nat.left_eq_add, Nat.mul_eq_zero, List.count_eq_zero] at hlength
    exact hlength
  · rintro (rfl | h)
    · exact indented_zero s
    · exact indented_of_unbroken indent h

theorem indented_eq_nil_iff {indent : Nat} {s : List Char} : indented indent s = [] ↔ s = [] := by
  cases s with
  | nil => simp [indented]
  | cons c s =>
    rw [indented]
    split <;> simp

/-! ## Documents with pinned texts -/

section

variable {α : Type}

/-- The same places under `k` more spaces. -/
def deeper (k : Nat) (ps : List (Nat × α)) : List (Nat × α) := ps.map fun p => (k + p.1, p.2)

@[simp] theorem deeper_zero (ps : List (Nat × α)) : deeper 0 ps = ps := by
  simp [deeper]

/-- The places that `f` finds in what stands at the places `ps`. -/
def nested {β : Type} (f : β → List (Nat × α)) (ps : List (Nat × β)) : List (Nat × α) :=
  ps.flatMap fun p => deeper p.1 (f p.2)

section

variable {β : Type} (f : β → List (Nat × α))

@[simp] theorem nested_nil : nested f [] = [] := rfl

@[simp] theorem nested_cons (p : Nat × β) (ps : List (Nat × β)) :
    nested f (p :: ps) = deeper p.1 (f p.2) ++ nested f ps := List.flatMap_cons

@[simp] theorem nested_append (ps qs : List (Nat × β)) :
    nested f (ps ++ qs) = nested f ps ++ nested f qs := List.flatMap_append

/-- Places side by side under the same spaces. -/
theorem nested_map (k : Nat) (l : List β) : nested f (l.map (k, ·)) = deeper k (l.flatMap f) := by
  rw [nested, List.flatMap_map, deeper, List.map_flatMap]
  rfl

end

variable (content : α → List Char)

/-- No indent changes a text at these places, given `outer` spaces around all of them. -/
def Settled (outer : Nat) (ps : List (Nat × α)) : Prop :=
  ∀ p ∈ ps, outer + p.1 = 0 ∨ Unbroken (content p.2)

variable {content} {outer : Nat} {ps qs : List (Nat × α)}

@[simp] theorem settled_nil : Settled content outer [] := by simp [Settled]

theorem settled_append :
    Settled content outer (ps ++ qs) ↔ Settled content outer ps ∧ Settled content outer qs :=
  List.forall_mem_append

theorem settled_deeper (k : Nat) :
    Settled content outer (deeper k ps) ↔ Settled content (outer + k) ps := by
  simp only [Settled, deeper, List.forall_mem_map, Nat.add_assoc]

variable (content)

/-- `e` has the marks and the sums of indents of `d`.  Its text has lost indents at the places `ps`:
it is that of `d` exactly if there are none to lose. -/
structure Pins (ps : List (Nat × α)) (d e : Doc) : Prop where
  marks : d.unknownCount = e.unknownCount
  fits (outer : Nat) : d.fitsAt outer = e.fitsAt outer
  empty (outer : Nat) : d.renderAt outer = [] ↔ e.renderAt outer = []
  length (outer : Nat) : (e.renderAt outer).length ≤ (d.renderAt outer).length
  same (outer : Nat) : d.renderAt outer = e.renderAt outer ↔ Settled content outer ps

/-- As `Pins`, of documents one behind the other. -/
inductive PinAll : List (Nat × α) → List Doc → List Doc → Prop
  | nil : PinAll [] [] []
  | cons {ps qs : List (Nat × α)} {d e : Doc} {ds es : List Doc} (hd : Pins content ps d e)
      (hds : PinAll qs ds es) : PinAll (ps ++ qs) (d :: ds) (e :: es)

/-- **A text is pinned** by making it verbatim. -/
theorem pins_text (a : α) :
    Pins content [(0, a)] (.text (content a)) (.concat [.verbatimText (content a)]) := by
  have hbefore (outer : Nat) :
      (Doc.text (content a)).renderAt outer = indented outer (content a) := by
    rw [text, renderAt_plain, renderAllAt, List.append_nil]
  have hafter (outer : Nat) :
      (Doc.concat [.verbatimText (content a)]).renderAt outer = content a := by
    simp [concat, verbatimText, text, plain, renderAt, renderAllAt, Layout.none, before, indented]
  constructor
  case marks => rfl
  case fits =>
    intro outer
    simp [concat, verbatimText, text, plain, fitsAt, fitAllAt, Layout.none]
  case empty =>
    intro outer
    rw [hbefore, hafter, indented_eq_nil_iff]
  case length =>
    intro outer
    rw [hbefore, hafter, length_indented]
    exact Nat.le_add_right _ _
  case same =>
    intro outer
    rw [hbefore, hafter, indented_eq_self_iff]
    simp [Settled]

variable {content} {d d' e e' : Doc} {ds es : List Doc}

/-! ### Documents one behind the other -/

theorem PinAll.marks (h : PinAll content ps ds es) : unknownCountAll ds = unknownCountAll es := by
  induction h with
  | nil => rfl
  | cons hd _ ih => rw [unknownCountAll, unknownCountAll, hd.marks, ih]

theorem PinAll.fits (h : PinAll content ps ds es) (outer : Nat) :
    fitAllAt outer ds = fitAllAt outer es := by
  induction h with
  | nil => rfl
  | cons hd _ ih => rw [fitAllAt, fitAllAt, hd.fits, ih]

theorem PinAll.empty (h : PinAll content ps ds es) (outer : Nat) :
    renderAllAt outer ds = [] ↔ renderAllAt outer es = [] := by
  induction h with
  | nil => rfl
  | cons hd _ ih =>
    rw [renderAllAt, renderAllAt, List.append_eq_nil_iff, List.append_eq_nil_iff, hd.empty, ih]

theorem PinAll.length (h : PinAll content ps ds es) (outer : Nat) :
    (renderAllAt outer es).length ≤ (renderAllAt outer ds).length := by
  induction h with
  | nil => exact Nat.le_refl _
  | cons hd _ ih =>
    rw [renderAllAt, renderAllAt, List.length_append, List.length_append]
    exact Nat.add_le_add (hd.length outer) ih

/-- If neither of two texts has become longer, neither makes up for what the other has lost. -/
theorem append_eq_append_iff_of_length_le {β : Type} {s t s' t' : List β}
    (h : s'.length ≤ s.length) (ht : t'.length ≤ t.length) :
    s ++ t = s' ++ t' ↔ s = s' ∧ t = t' := by
  constructor
  · intro heq
    have hlength := congrArg List.length heq
    rw [List.length_append, List.length_append] at hlength
    exact List.append_inj heq (by omega)
  · rintro ⟨rfl, rfl⟩
    rfl

/-- **Documents one behind the other** lose the indents that each of them loses. -/
theorem PinAll.same (h : PinAll content ps ds es) (outer : Nat) :
    renderAllAt outer ds = renderAllAt outer es ↔ Settled content outer ps := by
  induction h with
  | nil => simp [renderAllAt]
  | cons hd hds ih =>
    rw [renderAllAt, renderAllAt,
      append_eq_append_iff_of_length_le (hd.length outer) (hds.length outer), hd.same, ih,
      settled_append]

/-! ### Documents around others -/

/-- What stands around the children of a document hangs on them only in so far as the separator
wants some text behind it. -/
theorem exists_renderAt_mk (outer : Nat) (lead : List Char) (layout : Layout)
    (unknown verbatim : Bool) :
    ∃ front separator tail : List Char, ∀ ds : List Doc,
      renderAt outer ⟨lead, ds, layout, unknown, verbatim⟩ =
        front ++ before separator (renderAllAt (outer + layout.indent) ds) ++
          renderAllAt (outer + layout.indent) ds ++ tail :=
  ⟨_, indented (outer + layout.indent) (layout.separator?.getD []), _, fun _ => rfl⟩

/-- **A document around others** loses what these lose under its own indent. -/
theorem PinAll.doc (h : PinAll content ps ds es) (lead : List Char) (layout : Layout)
    (unknown verbatim : Bool) :
    Pins content (deeper layout.indent ps) ⟨lead, ds, layout, unknown, verbatim⟩
      ⟨lead, es, layout, unknown, verbatim⟩ := by
  have hbefore (outer : Nat) (separator : List Char) :
      before separator (renderAllAt (outer + layout.indent) ds) =
        before separator (renderAllAt (outer + layout.indent) es) := by
    simp only [before, h.empty]
  constructor
  case marks => rw [unknownCount, unknownCount, h.marks]
  case fits =>
    intro outer
    rw [fitsAt, fitsAt, h.fits]
  case empty =>
    intro outer
    obtain ⟨front, separator, tail, hrender⟩ :=
      exists_renderAt_mk outer lead layout unknown verbatim
    rw [hrender, hrender, hbefore]
    simp only [List.append_eq_nil_iff, h.empty]
  case length =>
    intro outer
    obtain ⟨front, separator, tail, hrender⟩ :=
      exists_renderAt_mk outer lead layout unknown verbatim
    have hbody := h.length (outer + layout.indent)
    rw [hrender, hrender, hbefore]
    simp only [List.length_append]
    omega
  case same =>
    intro outer
    obtain ⟨front, separator, tail, hrender⟩ :=
      exists_renderAt_mk outer lead layout unknown verbatim
    rw [hrender, hrender, hbefore, List.append_left_inj, List.append_right_inj, h.same,
      settled_deeper]

/-! ### Other ways to build documents -/

theorem PinAll.plain (h : PinAll content ps ds es) (lead : List Char) :
    Pins content ps (Doc.plain lead ds) (Doc.plain lead es) := by
  have hdoc := h.doc lead .none false false
  rwa [Layout.none, deeper_zero] at hdoc

theorem PinAll.concat (h : PinAll content ps ds es) :
    Pins content ps (Doc.concat ds) (Doc.concat es) :=
  h.plain []

/-- A text that is not pinned has nothing to lose. -/
theorem Pins.refl_text (s : List Char) : Pins content [] (Doc.text s) (Doc.text s) :=
  PinAll.nil.plain s

theorem Pins.refl_verbatimText (s : List Char) :
    Pins content [] (Doc.verbatimText s) (Doc.verbatimText s) :=
  PinAll.nil.doc s .none false true

theorem PinAll.cons_text (s : List Char) (h : PinAll content ps ds es) :
    PinAll content ps (Doc.text s :: ds) (Doc.text s :: es) :=
  .cons (.refl_text s) h

theorem PinAll.singleton (h : Pins content ps d e) : PinAll content ps [d] [e] := by
  have hlist : PinAll content (ps ++ []) [d] [e] := .cons h .nil
  rwa [List.append_nil] at hlist

/-- A text between documents has nothing to lose. -/
theorem PinAll.intersperse (between : List Char) (h : PinAll content ps ds es) :
    PinAll content ps (ds.intersperse (Doc.text between)) (es.intersperse (Doc.text between)) := by
  induction h with
  | nil => exact .nil
  | cons hd hds ih =>
    cases hds with
    | nil => exact .cons hd .nil
    | cons hnext hrest => exact .cons hd (.cons_text between ih)

theorem PinAll.pair (hd : Pins content ps d e) (hd' : Pins content qs d' e') :
    PinAll content (ps ++ qs) [d, d'] [e, e'] :=
  .cons hd (.singleton hd')

theorem Pins.suite (h : Pins content ps d e) :
    Pins content (deeper 4 ps) (Doc.suite d) (Doc.suite e) :=
  (PinAll.singleton h).doc [':'] ⟨true, 4, none, none⟩ false false

end

end TreeScribe.Doc
