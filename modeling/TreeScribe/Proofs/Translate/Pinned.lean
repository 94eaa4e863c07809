import TreeScribe.Proofs.Translate.Tokens

/-!
# Pinned tokens

A scheme that renders tokens as raw text lets the indents around them into their line breaks.  The
same scheme with pinned tokens renders them as verbatim text.

Main statements: translating with the one and with the other reports the same events and ends alike
(`Alike`, with a rule for each way to go on), and the two documents lose no indents to each other
but those of the tokens (`apply_pinned` for one rendering, `translate_pins` for a tree).  So tokens
keep their raw text exactly if each token with a line break stands under no indent
(`translate_pinned_iff`).
-/

namespace TreeScribe

open Traced

namespace Traced

variable {α β γ δ : Type} {R : α → β → Prop} {Q : γ → δ → Prop}

/-- Two computations report the same events.  Then both fail with the same error, or both have
values that `R` relates. -/
inductive Alike (R : α → β → Prop) : Traced α → Traced β → Prop
  | failed (events : List Event) (e : TranslateError) :
    Alike R ⟨events, .error e⟩ ⟨events, .error e⟩
  | finished (events : List Event) {a : α} {b : β} (h : R a b) :
    Alike R ⟨events, .ok a⟩ ⟨events, .ok b⟩

theorem alike_pure {a : α} {b : β} (h : R a b) : Alike R (pure a) (pure b) := .finished [] h

theorem alike_fail (e : TranslateError) : Alike R (fail e) (fail e) := .failed [] e

theorem Alike.mono {R' : α → β → Prop} {x : Traced α} {y : Traced β} (hx : Alike R x y)
    (h : ∀ a b, R a b → R' a b) : Alike R' x y := by
  cases hx with
  | failed events e => exact .failed events e
  | finished events hab => exact .finished events (h _ _ hab)

/-- Both report some more events before. -/
theorem Alike.after {x : Traced α} {y : Traced β} (h : Alike R x y) (events : List Event) :
    Alike R ⟨events ++ x.events, x.outcome⟩ ⟨events ++ y.events, y.outcome⟩ := by
  cases h with
  | failed more e => exact .failed _ e
  | finished more h => exact .finished _ h

/-- **Two computations in a row**: related values are gone on with alike. -/
theorem Alike.bind {x : Traced α} {y : Traced β} {f : α → Traced γ} {g : β → Traced δ}
    (hx : Alike R x y) (hf : ∀ a b, R a b → Alike Q (f a) (g b)) :
    Alike Q (x >>= f) (y >>= g) := by
  cases hx with
  | failed events e => exact .failed events e
  | finished events h => exact (hf _ _ h).after events

/-- Both go on with the value of the same computation. -/
theorem alike_bind_same (x : Traced α) {f : α → Traced γ} {g : α → Traced δ}
    (h : ∀ a, x.outcome = .ok a → Alike Q (f a) (g a)) : Alike Q (x >>= f) (x >>= g) := by
  cases hx : x.outcome with
  | error e =>
    rw [bind_of_error hx, bind_of_error hx]
    exact .failed x.events e
  | ok a =>
    rw [bind_of_ok hx, bind_of_ok hx]
    exact (h a hx).after x.events

theorem alike_demand_bind {n : Node} {field : String} {found? : Option Node}
    {f : Node → Traced γ} {g : Node → Traced δ} (h : ∀ c, found? = some c → Alike Q (f c) (g c)) :
    Alike Q (n.demand field found? >>= f) (n.demand field found? >>= g) :=
  alike_bind_same _ fun c hc => h c (Node.outcome_demand_eq_ok_iff.1 hc)

theorem alike_require_bind {n : Node} {field : String} {f : Node → Traced γ} {g : Node → Traced δ}
    (h : ∀ c, n.child? field = some c → Alike Q (f c) (g c)) :
    Alike Q (n.require field >>= f) (n.require field >>= g) :=
  alike_demand_bind h

end Traced

/-! ## Renderings -/

section Renderings

variable {file : SourceFile} {visit visit' : Node → Traced Doc} {f : Node → List (Nat × Node)}

/-- Two computations are alike, but the document of the second has lost indents at `ps`. -/
def Traced.Pinned (source : List Char) (ps : List (Nat × Node)) (x y : Traced Doc) : Prop :=
  Alike (Doc.Pins (Node.text · source) ps) x y

/-- As `Pinned`, of documents one behind the other. -/
def Traced.PinnedAll (source : List Char) (ps : List (Nat × Node)) (x y : Traced (List Doc)) :
    Prop :=
  Alike (Doc.PinAll (Node.text · source) ps) x y

section

variable {source : List Char} {ps : List (Nat × Node)} {x y : Traced Doc}

theorem pinned_text (s : List Char) : Pinned source [] (pure (.text s)) (pure (.text s)) :=
  alike_pure (.refl_text s)

/-- A document that is only put into another one. -/
theorem Traced.Pinned.map {qs : List (Nat × Node)} {g : Doc → Doc} (hx : Pinned source ps x y)
    (hg : ∀ d e, Doc.Pins (Node.text · source) ps d e →
      Doc.Pins (Node.text · source) qs (g d) (g e)) :
    Pinned source qs (x >>= fun d => pure (g d)) (y >>= fun e => pure (g e)) :=
  Alike.bind hx fun d e h => alike_pure (hg d e h)

theorem Traced.Pinned.singleton (hx : Pinned source ps x y) :
    PinnedAll source ps (x >>= fun d => pure [d]) (y >>= fun e => pure [e]) :=
  Alike.bind hx fun _ _ h => alike_pure (.singleton h)

end

/-! ### Several nodes -/

theorem visitAll_pinned {ns : List Node}
    (h : ∀ m ∈ ns, Pinned file.text (f m) (visit m) (visit' m)) :
    PinnedAll file.text (ns.flatMap f) (visitAll visit ns) (visitAll visit' ns) := by
  induction ns with
  | nil => exact alike_pure .nil
  | cons n ns ih =>
    have hn : Pinned file.text (f n) (visit n) (visit' n) := h n (List.mem_cons_self ..)
    have hns := ih fun m hm => h m (List.mem_cons_of_mem _ hm)
    refine Alike.bind hn fun d e hd => Alike.bind hns fun ds es hds => alike_pure ?_
    rw [List.flatMap_cons]
    exact .cons hd hds

theorem visitConcat_pinned {ns : List Node}
    (h : ∀ m ∈ ns, Pinned file.text (f m) (visit m) (visit' m)) :
    Pinned file.text (ns.flatMap f) (visitConcat visit ns) (visitConcat visit' ns) :=
  Alike.bind (visitAll_pinned h) fun _ _ hds => alike_pure hds.concat

theorem visitSeparated_pinned {ns : List Node} (between : List Char)
    (h : ∀ m ∈ ns, Pinned file.text (f m) (visit m) (visit' m)) :
    Pinned file.text (ns.flatMap f) (visitSeparated visit ns between)
      (visitSeparated visit' ns between) :=
  Alike.bind (visitAll_pinned h) fun _ _ hds => alike_pure (hds.intersperse between).concat

theorem visitOptional_pinned {o : Option Node}
    (h : ∀ m ∈ o.toList, Pinned file.text (f m) (visit m) (visit' m)) :
    Pinned file.text (o.toList.flatMap f) (visitOptional visit o) (visitOptional visit' o) := by
  cases o with
  | none => exact pinned_text []
  | some n =>
    rw [Option.toList_some, List.flatMap_singleton]
    exact h n (List.mem_singleton_self n)

theorem renderMarker_pinned {n : Node}
    (h : ∀ m ∈ n.children, Pinned file.text (f m) (visit m) (visit' m)) :
    Pinned file.text (Doc.deeper 2 (n.children.flatMap f)) (renderMarker file visit n)
      (renderMarker file visit' n) := by
  refine alike_bind_same _ fun _ _ => Alike.bind (visitAll_pinned h) fun ds es hds => alike_pure ?_
  exact (Doc.PinAll.cons (.refl_verbatimText _) (hds.cons_text _)).doc _ ⟨false, 2, none, none⟩ true
    false

/-! ### Branches -/

theorem visitBranch_pinned {n : Node} (h : Pinned file.text (f n) (visit n) (visit' n)) :
    Pinned file.text (Doc.deeper (branchIndent n) (f n)) (visitBranch visit n)
      (visitBranch visit' n) := by
  unfold visitBranch branchIndent
  split
  · rwa [Doc.deeper_zero]
  · exact h.map fun _ _ hd => hd.suite

theorem visitElse_pinned {n : Node} (h : Pinned file.text (f n) (visit n) (visit' n)) :
    Pinned file.text (Doc.deeper (elseIndent n) (f n)) (visitElse visit n)
      (visitElse visit' n) := by
  unfold visitElse elseIndent
  split
  · rw [Doc.deeper_zero]
    exact h.map fun _ _ hd => (Doc.PinAll.singleton hd).plain _
  · exact (visitBranch_pinned h).map fun _ _ hd => (Doc.PinAll.singleton hd).plain _

/-! ### Recipes -/

theorem Filling.parts_pinned {n : Node} (filling : Filling)
    (h : ∀ m ∈ filling.visited n, Pinned file.text (f m) (visit m) (visit' m)) :
    PinnedAll file.text ((filling.visited n).flatMap f) (filling.parts file visit n)
      (filling.parts file visit' n) := by
  cases filling <;> simp only [Filling.parts, Filling.visited] at h ⊢
  case all => exact visitAll_pinned h
  case nodes | named => exact (visitConcat_pinned h).singleton
  case first | field => exact (visitOptional_pinned h).singleton
  case separated between | separatedAll between =>
    exact (visitSeparated_pinned between h).singleton
  case required name =>
    refine alike_require_bind fun c hc => ?_
    rw [hc] at h ⊢
    have hchild : Pinned file.text (f c) (visit c) (visit' c) := h c (List.mem_singleton_self c)
    rw [Option.toList_some, List.flatMap_singleton]
    exact hchild.singleton
  case text | kind | path => exact alike_pure (.singleton (.refl_text _))
  case verbatim => exact alike_pure (.singleton (.refl_verbatimText _))
  case nothing => exact alike_pure .nil

/-! ### All renderings -/

/-- **The step of a rendering.**  If the documents of the nodes that a rendering visits lose
indents, its own document loses these, deeper by the indents of their places, and no others. -/
theorem Rendering.apply_pinned {n : Node} (r : Rendering)
    (h : ∀ m ∈ r.visited n, Pinned file.text (f m) (visit m) (visit' m)) :
    Pinned file.text (Doc.nested f (r.places n)) (r.apply file visit n)
      (r.apply file visit' n) := by
  cases r <;>
    simp only [Rendering.apply, Rendering.places, Rendering.visited, List.map_nil, Doc.nested_nil,
      Doc.nested_append, Doc.nested_map, Doc.deeper_zero, List.flatMap_append, List.mem_append]
      at h ⊢
  case marker => exact renderMarker_pinned h
  case rawText | quotedValue | snakeName => exact pinned_text _
  case lines => exact visitSeparated_pinned _ h
  case braces =>
    cases hlist : n.statements? with
    | none => exact pinned_text _
    | some list =>
      have hvisit : Pinned file.text (f list) (visit list) (visit' list) := h list (by simp [hlist])
      rw [Option.toList_some, List.flatMap_singleton]
      exact hvisit.map fun _ _ hd => (Doc.PinAll.singleton hd).doc _ ⟨true, 4, none, _⟩ false false
  case suite =>
    cases hlist : n.statements? with
    | none => exact alike_pure (Doc.Pins.refl_text _).suite
    | some list =>
      have hvisit : Pinned file.text (f list) (visit list) (visit' list) := h list (by simp [hlist])
      rw [Option.toList_some, List.flatMap_singleton]
      exact hvisit.map fun _ _ hd => hd.suite
  case returned =>
    cases hfirst : n.firstNamed? with
    | none => exact pinned_text _
    | some expression =>
      have hvisit : Pinned file.text (f expression) (visit expression) (visit' expression) :=
        h expression (by simp [hfirst])
      rw [Option.toList_some, List.flatMap_singleton]
      exact hvisit.map fun _ _ hd => (Doc.PinAll.singleton hd).plain _
  case operation =>
    refine alike_require_bind fun left hleft => alike_demand_bind fun operator _ =>
      alike_require_bind fun right hright => ?_
    rw [hleft, hright] at h ⊢
    have hl : Pinned file.text (f left) (visit left) (visit' left) := h left (by simp)
    have hr : Pinned file.text (f right) (visit right) (visit' right) := h right (by simp)
    refine Alike.bind hl fun l l' hl => Alike.bind hr fun r r' hr => alike_pure ?_
    have hall := Doc.PinAll.cons hl (.cons_text (' ' :: (textOf file operator ++ [' ']))
      (.singleton hr))
    simpa using hall.concat
  case access =>
    refine alike_require_bind fun object hobject => alike_require_bind fun property hproperty => ?_
    rw [hobject, hproperty] at h ⊢
    have ho : Pinned file.text (f object) (visit object) (visit' object) := h object (by simp)
    have hp : Pinned file.text (f property) (visit property) (visit' property) :=
      h property (by simp)
    refine Alike.bind ho fun o o' ho => Alike.bind hp fun p p' hp => alike_pure ?_
    have hall := Doc.PinAll.cons ho (.cons_text ['.'] (.singleton hp))
    simpa using hall.concat
  case call =>
    refine alike_require_bind fun callee hcallee =>
      alike_require_bind fun arguments harguments => ?_
    rw [hcallee, harguments] at h ⊢
    have hc : Pinned file.text (f callee) (visit callee) (visit' callee) := h callee (by simp)
    have hargs : Pinned file.text (arguments.namedChildren.flatMap f)
        (visitSeparated visit arguments.namedChildren [',', ' '])
        (visitSeparated visit' arguments.namedChildren [',', ' ']) :=
      visitSeparated_pinned _ fun m hm => h m (by simp [hm])
    refine Alike.bind hc fun c c' hc => Alike.bind hargs fun args args' hargs => alike_pure ?_
    have hall := Doc.PinAll.cons hc (.cons_text ['('] (.cons hargs (.cons_text [')'] .nil)))
    simpa using hall.concat
  case firstNamed => exact visitOptional_pinned h
  case importedModule => exact alike_bind_same _ fun module _ => pinned_text _
  case definition =>
    refine alike_require_bind fun name hname => alike_require_bind fun parameters hparameters =>
      alike_require_bind fun body hbody => ?_
    rw [hname, hparameters, hbody] at h ⊢
    have hn : Pinned file.text (f name) (visit name) (visit' name) := h name (by simp)
    have hps : Pinned file.text (parameters.namedChildren.flatMap f)
        (visitSeparated visit parameters.namedChildren [',', ' '])
        (visitSeparated visit' parameters.namedChildren [',', ' ']) :=
      visitSeparated_pinned _ fun m hm => h m (by simp [hm])
    have hb : Pinned file.text (f body) (visit body) (visit' body) := h body (by simp)
    refine Alike.bind hn fun name name' hn => Alike.bind hps fun parameters parameters' hps =>
      Alike.bind hb fun body body' hb => alike_pure ?_
    have hheader := (Doc.PinAll.cons hn
      (.cons_text ['('] (.cons hps (.cons_text [')'] .nil)))).plain "def ".toList
    have hall := Doc.PinAll.pair hheader hb
    simpa using hall.concat
  case pattern =>
    refine alike_require_bind fun pattern hpattern => ?_
    rw [hpattern] at h ⊢
    rw [Option.toList_some, List.flatMap_singleton]
    exact h pattern (List.mem_singleton_self pattern)
  case branches =>
    refine alike_require_bind fun condition hcondition =>
      alike_require_bind fun consequence hconsequence => ?_
    rw [hcondition, hconsequence] at h ⊢
    have hc : Pinned file.text (f condition) (visit condition) (visit' condition) :=
      h condition (by simp)
    have hb := visitBranch_pinned (h consequence (by simp))
    refine Alike.bind hc fun condition condition' hc => Alike.bind hb fun branch branch' hb => ?_
    have hfirst := (Doc.PinAll.pair hc hb).plain "if ".toList
    cases halternative : n.child? "alternative" with
    | none => exact alike_pure (by simpa using (Doc.PinAll.singleton hfirst).concat)
    | some alternative =>
      refine alike_demand_bind fun statement hstatement => ?_
      have he := visitElse_pinned (h statement (by simp [halternative, hstatement]))
      refine Alike.bind he fun second second' he => alike_pure ?_
      simpa [hstatement] using (Doc.PinAll.pair hfirst he).concat
  case recipe recipe =>
    refine Alike.bind (recipe.filling.parts_pinned h) fun ds es hds => alike_pure ?_
    exact hds.doc _ recipe.layout _ false
  case refusal message => exact alike_fail _

/-! ## Schemes -/

/-- The scheme with pinned tokens: a token is its raw text, never indented.  The document around
that text has no layout and adds nothing to it. -/
def Scheme.pinned (scheme : Scheme) : Scheme :=
  scheme.override [(.token, .recipe ⟨.verbatim, [], false, .none⟩)]

theorem Scheme.pinned_token (scheme : Scheme) :
    scheme.pinned .token = .recipe ⟨.verbatim, [], false, .none⟩ := rfl

theorem Scheme.pinned_of_ne {scheme : Scheme} {role : Role} (h : role ≠ .token) :
    scheme.pinned role = scheme role := by
  have hlookup : (role == Role.token) = false := beq_false_of_ne h
  simp [pinned, override, List.lookup_cons, hlookup]

/-- **The step of a translation.**  A token loses all indents around it; any other node loses those
that the nodes visited for it lose. -/
theorem renderNode_pinned {scheme : Scheme} (htoken : scheme .token = .rawText) (n : Node)
    (h : ∀ m ∈ scheme.visited n, Pinned file.text (f m) (visit m) (visit' m)) :
    Pinned file.text
      (if n.kind = .role .token then [(0, n)] else Doc.nested f (scheme.places n))
      (renderNode file visit scheme n) (renderNode file visit' scheme.pinned n) := by
  unfold renderNode
  unfold Scheme.visited Scheme.rendering? at h
  unfold Scheme.places Scheme.rendering?
  cases hkind : n.kind with
  | sourceFile | punctuation =>
    rw [hkind] at h
    simpa [Doc.nested_map] using visitConcat_pinned h
  | role role =>
    rw [hkind] at h
    dsimp only
    by_cases hrole : role = .token
    · subst hrole
      rw [if_pos rfl, htoken, scheme.pinned_token]
      exact alike_pure (Doc.pins_text (Node.text · file.text) n)
    · rw [if_neg (by simpa using hrole), Scheme.pinned_of_ne hrole]
      exact (scheme role).apply_pinned h
  | other name =>
    rw [hkind] at h
    exact Rendering.apply_pinned .marker h

end Renderings

namespace Node

/-- **Pinning the tokens of a tree** takes from its document the indents of these tokens. -/
theorem translate_pins (file : SourceFile) {scheme : Scheme} (htoken : scheme .token = .rawText)
    (n : Node) :
    Pinned file.text (n.tokens scheme) (n.translate file scheme)
      (n.translate file scheme.pinned) := by
  rw [translate_eq file scheme, translate_eq file scheme.pinned, tokens_eq]
  refine renderNode_pinned htoken n fun m hm => ?_
  have hlower := height_lt_of_mem_descendants (scheme.mem_descendants_of_mem_visited hm)
  exact translate_pins file htoken m
termination_by n.height

/-- **Tokens keep their raw text exactly if none with a line break stands under an indent.**  With
pinned tokens, a tree is translated with the same events, and to the same error or to a document
with the same marks, whose indents are words in the same cases.  The two documents have the same
text exactly if every token is rendered under no indent or has no line break in its raw text. -/
theorem translate_pinned_iff (file : SourceFile) (scheme : Scheme)
    (htoken : scheme .token = .rawText) (n : Node) :
    Alike
      (fun d e => d.unknownCount = e.unknownCount ∧ d.fitsAt 0 = e.fitsAt 0 ∧
        (d.render = e.render ↔
          ∀ p ∈ n.tokens scheme, p.1 = 0 ∨ Unbroken (p.2.text file.text)))
      (n.translate file scheme) (n.translate file scheme.pinned) := by
  refine (translate_pins file htoken n).mono ?_
  intro d e h
  refine ⟨h.marks, h.fits 0, ?_⟩
  simpa [Doc.render, Doc.Settled] using h.same 0

/-- `if (x)` with a statement of a template literal that is broken into two lines. -/
def templateBranch : Node :=
  let template : Node := .plain (.other "template_string") ⟨7, 12⟩
    [(Node.plain (.role .token) ⟨7, 8⟩ []).anonymous, .plain (.role .token) ⟨8, 11⟩ [],
      (Node.plain (.role .token) ⟨11, 12⟩ []).anonymous]
  let statement : Node := .plain (.role .expressionStatement) ⟨7, 13⟩
    [template, (Node.plain .punctuation ⟨12, 13⟩ []).anonymous]
  .plain (.role .ifStatement) ⟨0, 13⟩
    [(Node.plain (.role .token) ⟨0, 2⟩ []).anonymous,
      (Node.plain .punctuation ⟨3, 4⟩ []).anonymous,
      (Node.plain (.role .identifier) ⟨4, 5⟩ []).withField "condition",
      (Node.plain .punctuation ⟨5, 6⟩ []).anonymous, statement.withField "consequence"]

/-- The plain scheme indents the template's tokens by both markers around them, the Python scheme by
the suite and one marker.  Either way the line break in the middle one is indented, and pinning
shows.  It does not show where a token of two lines stands in a statement list alone. -/
theorem translate_pinned_iff_templateBranch :
    let file : SourceFile := ⟨"input.ts", "if (x) `a\nb`;".toList⟩
    let list : Node := .plain (.role .syntaxList) ⟨8, 11⟩ [.plain (.role .token) ⟨8, 11⟩ []]
    Scheme.plain .token = .rawText ∧ Scheme.python .token = .rawText ∧
      (templateBranch.tokens .plain).map Prod.fst = [2, 4, 4, 4] ∧
      (templateBranch.tokens .python).map Prod.fst = [6, 6, 6] ∧
      (templateBranch.translate file .plain).Succeeds ∧
      (templateBranch.translate file .python).Succeeds ∧
      Alike (fun d e => d.unknownCount = e.unknownCount ∧ d.render ≠ e.render)
        (templateBranch.translate file .plain) (templateBranch.translate file Scheme.plain.pinned) ∧
      Alike (fun d e => d.unknownCount = e.unknownCount ∧ d.render ≠ e.render)
        (templateBranch.translate file .python)
        (templateBranch.translate file Scheme.python.pinned) ∧
      Alike (fun d e => d.render = e.render) (list.translate file .plain)
        (list.translate file Scheme.plain.pinned) := by
  intro file list
  refine ⟨rfl, rfl, by decide, by decide, ⟨_, rfl⟩, ⟨_, rfl⟩, ?_, ?_, ?_⟩
  · refine (translate_pinned_iff file .plain rfl templateBranch).mono ?_
    rintro d e ⟨hmarks, -, htext⟩
    exact ⟨hmarks, fun h => absurd (htext.1 h) (by decide)⟩
  · refine (translate_pinned_iff file .python rfl templateBranch).mono ?_
    rintro d e ⟨hmarks, -, htext⟩
    exact ⟨hmarks, fun h => absurd (htext.1 h) (by decide)⟩
  · refine (translate_pinned_iff file .plain rfl list).mono ?_
    rintro d e ⟨-, -, htext⟩
    exact htext.2 (by decide)

/-- The statement of a template literal that is broken into two lines, as a source file. -/
def templateLiteral : Node :=
  let template : Node := .plain (.other "template_string") ⟨0, 5⟩
    [(Node.plain (.role .token) ⟨0, 1⟩ []).anonymous, .plain (.role .token) ⟨1, 4⟩ [],
      (Node.plain (.role .token) ⟨4, 5⟩ []).anonymous]
  .plain .sourceFile ⟨0, 6⟩ [.plain (.role .syntaxList) ⟨0, 6⟩ [.plain (.role .expressionStatement)
    ⟨0, 6⟩ [template, (Node.plain .punctuation ⟨5, 6⟩ []).anonymous]]]

/-- Neither scheme keeps the second line of the literal as it is in the source. -/
theorem translate_templateLiteral_not_pinned :
    let file : SourceFile := ⟨"input.ts", "`a\nb`;".toList⟩
    ∀ scheme ∈ [Scheme.plain, Scheme.python], ∃ d e,
      (templateLiteral.translate file scheme).outcome = .ok d ∧
        (templateLiteral.translate file scheme.pinned).outcome = .ok e ∧
        d.render = "(template_string `a\nb`)\n  `a\n  b`".toList ∧
        e.render = "(template_string `a\nb`)\n  `a\nb`".toList ∧
        d.render ≠ e.render := by
  intro file scheme hscheme
  simp only [List.mem_cons, List.not_mem_nil, or_false] at hscheme
  rcases hscheme with rfl | rfl
  · exact ⟨_, _, rfl, rfl, by decide, by decide, by decide⟩
  · exact ⟨_, _, rfl, rfl, by decide, by decide, by decide⟩

end Node

end TreeScribe
