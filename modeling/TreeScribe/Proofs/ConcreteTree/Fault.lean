import TreeScribe.Parser
import TreeScribe.Proofs.ConcreteTree.Nested

/-!
# Syntax errors

The search for a syntax error enters only nodes that are marked as faulty, and stops at its first
hit.  Where the marks are right it finds what a search of all nodes finds (`firstFault?_eq_find?`),
and where spans are nested, nodes are listed in the order of their starts (`pairwise_start_nodes`),
so that no fault starts before the one that is reported (`parse_reports_first_fault`).
-/

namespace TreeScribe.ConcreteTree

open TreeScribe.Span

/-! ## Faults -/

/-- The node is an error, or the grammar assumed it. -/
def IsFault (t : ConcreteTree) : Prop := t.label.error = true ∨ t.label.missing = true

instance (t : ConcreteTree) : Decidable t.IsFault := inferInstanceAs (Decidable (_ ∨ _))

/-- The mark of the node is right: it is set if there is a fault at or below the node. -/
def IsMarked (t : ConcreteTree) : Prop := t.label.faulty = true ↔ ∃ s ∈ t.nodes, s.IsFault

instance (t : ConcreteTree) : Decidable t.IsMarked := inferInstanceAs (Decidable (_ ↔ _))

/-- The wording of a fault, by the source that it is in: the kind of an assumed node, and of an
error as much of its text as there is room for. -/
inductive Label.Reads (l : Label) (source : List Char) : String → Prop
  | missing (hmissing : l.missing = true) : l.Reads source ("missing `" ++ l.kind ++ "`")
  | error {text shown : List Char} (hmissing : l.missing = false)
      (htext : CutsOut source l.start l.stop text) (hshown : shown <+: text)
      (hlength : shown.length ≤ 20)
      (hlongest : ∀ other, other <+: text → other.length ≤ 20 → other <+: shown) :
      l.Reads source ("syntax error near `" ++ String.ofList shown ++ "`")

/-- The error that a fault stands for says what the fault reads, and where it starts. -/
theorem Label.exists_toError_eq (l : Label) (source : List Char) :
    ∃ message, l.toError source = .invalidSource message (some l.start) ∧
      l.Reads source message := by
  refine ⟨_, rfl, ?_⟩
  cases hmissing : l.missing with
  | true => exact .missing hmissing
  | false =>
    refine .error hmissing (cutsOut_slice ⟨l.start, l.stop⟩ source) (List.take_prefix _ _)
      (List.length_take_le _ _) ?_
    intro other hother hlength
    exact List.prefix_take_iff.2 ⟨hother, hlength⟩

/-! ## The search -/

/-- A fault is found where it is met first. -/
theorem IsFault.firstFault?_eq {t : ConcreteTree} (h : t.IsFault) :
    t.firstFault? = some t.label := by
  obtain ⟨l, children⟩ := t
  have hlabel : (l.error || l.missing) = true := by simpa [IsFault] using h
  rw [firstFault?, if_pos hlabel]

mutual

/-- **The search of the marked nodes is the search of all nodes.** -/
theorem firstFault?_eq_find? (t : ConcreteTree) (h : ∀ s ∈ t.nodes, s.IsMarked) :
    t.firstFault? = (t.nodes.find? (decide ·.IsFault)).map (·.label) := by
  obtain ⟨l, children⟩ := t
  have hmark := h _ (mem_nodes_self _)
  have hbelow := firstFaultAmong?_eq_find? children (forall_nodes_children h)
  rw [firstFault?, nodes, List.find?_cons]
  by_cases hfault : (ConcreteTree.mk l children).IsFault
  · rw [← firstFault?, hfault.firstFault?_eq, decide_eq_true hfault]
    rfl
  · have hlabel : ¬ (l.error || l.missing) = true := by simpa [IsFault] using hfault
    rw [if_neg hlabel, decide_eq_false hfault]
    by_cases hfaulty : l.faulty = true
    · rw [if_pos hfaulty, hbelow]
    · -- a node without a mark has no fault below, so nothing is missed
      have hnone : ∀ s ∈ nodesAll children, ¬ s.IsFault := by
        intro s hs hs'
        refine hfaulty (hmark.2 ⟨s, ?_, hs'⟩)
        rw [nodes]
        exact List.mem_cons_of_mem _ hs
      have hfind : (nodesAll children).find? (decide ·.IsFault) = none :=
        List.find?_eq_none.2 fun s hs => by simpa using hnone s hs
      rw [if_neg hfaulty, hfind, Option.map_none]

/-- The search in a list of trees is the search of all their nodes. -/
theorem firstFaultAmong?_eq_find? (ts : List ConcreteTree)
    (h : ∀ s ∈ nodesAll ts, s.IsMarked) :
    firstFaultAmong? ts = ((nodesAll ts).find? (decide ·.IsFault)).map (·.label) := by
  match ts with
  | [] => rfl
  | t :: ts =>
    rw [firstFaultAmong?, firstFault?_eq_find? t (forall_nodes_head h),
      firstFaultAmong?_eq_find? ts (forall_nodes_tail h), nodesAll, List.find?_append,
      Option.map_or]

end

/-! ## The order of the nodes -/

mutual

/-- Where spans are nested, all nodes of a tree start in it, none of them before one that is listed
in front of it. -/
theorem pairwise_start_nodes (t : ConcreteTree) (h : ∀ s ∈ t.nodes, s.Nested) :
    (∀ s ∈ t.nodes, t.span.start ≤ s.span.start ∧ s.span.start ≤ t.span.stop) ∧
      t.nodes.Pairwise fun r s => r.span.start ≤ s.span.start := by
  have hbetween := between_children h
  obtain ⟨l, children⟩ := t
  obtain ⟨hbounds, hordered⟩ := pairwise_start_nodesAll children (forall_nodes_children h) hbetween
  rw [nodes]
  refine ⟨?_, List.pairwise_cons.2 ⟨fun s hs => (hbounds s hs).1, hordered⟩⟩
  intro s hs
  rcases List.mem_cons.1 hs with rfl | hs
  · exact ⟨Nat.le_refl _, hbetween.le⟩
  · exact hbounds s hs

/-- All nodes of trees that follow each other start between them, in the order they are listed
in. -/
theorem pairwise_start_nodesAll (ts : List ConcreteTree) (h : ∀ s ∈ nodesAll ts, s.Nested)
    {a b : Nat} (hbetween : Between a b (ts.map span)) :
    (∀ s ∈ nodesAll ts, a ≤ s.span.start ∧ s.span.start ≤ b) ∧
      (nodesAll ts).Pairwise fun r s => r.span.start ≤ s.span.start := by
  match ts with
  | [] => exact ⟨fun s hs => absurd hs List.not_mem_nil, .nil⟩
  | t :: ts =>
    obtain ⟨hstart, hforward, hrest⟩ := hbetween
    obtain ⟨hhead, hheadOrdered⟩ := pairwise_start_nodes t (forall_nodes_head h)
    obtain ⟨htail, htailOrdered⟩ := pairwise_start_nodesAll ts (forall_nodes_tail h) hrest
    have hstop := hrest.le
    rw [nodesAll]
    refine ⟨?_, List.pairwise_append.2 ⟨hheadOrdered, htailOrdered, ?_⟩⟩
    · intro s hs
      rcases List.mem_append.1 hs with hs | hs
      · have hbounds := hhead s hs
        omega
      · have hbounds := htail s hs
        omega
    · intro r hr s hs
      exact Nat.le_trans (hhead r hr).2 (htail s hs).1

end

/-! ## Parsing -/

/-- A source is parsed if the search finds no fault in its tree. -/
theorem parse_eq {grammar : Grammar} {source : List Char} {t : ConcreteTree}
    (hgrammar : grammar source = some t) :
    (Parser.typeScript grammar).parse source =
      t.firstFault?.elim (.ok t.toNode) fun fault => .error (fault.toError source) := by
  simp only [Parser.typeScript, hgrammar]
  cases t.firstFault? <;> rfl

/-- **Syntax errors are neither missed nor misplaced.**  If the marks of a tree are right and its
spans are nested, parsing fails exactly if there is a fault in the tree; the error is that of the
first fault in preorder, and no other fault starts before it.  A source that is parsed has no fault
in its tree. -/
theorem parse_reports_first_fault {grammar : Grammar} {source : List Char} {t : ConcreteTree}
    (hgrammar : grammar source = some t) (hmarks : ∀ s ∈ t.nodes, s.IsMarked)
    (hnested : ∀ s ∈ t.nodes, s.Nested) :
    ((∃ e, (Parser.typeScript grammar).parse source = .error e) ↔ ∃ s ∈ t.nodes, s.IsFault) ∧
    (∀ e, (Parser.typeScript grammar).parse source = .error e →
      ∃ before s behind message, t.nodes = before ++ s :: behind ∧ s.IsFault ∧
        (∀ r ∈ before, ¬ r.IsFault) ∧
        (∀ r ∈ t.nodes, r.IsFault → s.label.start ≤ r.label.start) ∧
        e = .invalidSource message (some s.label.start) ∧ s.label.Reads source message) ∧
    (∀ n, (Parser.typeScript grammar).parse source = .ok n →
      n = t.toNode ∧ ∀ s ∈ t.nodes, ¬ s.IsFault) ∧
    t.firstFault? = (t.nodes.find? (decide ·.IsFault)).map (·.label) := by
  have hsearch := firstFault?_eq_find? t hmarks
  obtain ⟨-, hordered⟩ := pairwise_start_nodes t hnested
  cases hfind : t.nodes.find? (decide ·.IsFault) with
  | none =>
    have hnone : ∀ s ∈ t.nodes, ¬ s.IsFault := by simpa using hfind
    have hparse : (Parser.typeScript grammar).parse source = .ok t.toNode := by
      rw [parse_eq hgrammar, hsearch, hfind]
      rfl
    refine ⟨⟨?_, ?_⟩, ?_, ?_, by rw [hsearch, hfind]⟩
    · rintro ⟨e, he⟩
      exact absurd (hparse.symm.trans he) (by simp)
    · rintro ⟨s, hs, hfault⟩
      exact absurd hfault (hnone s hs)
    · intro e he
      exact absurd (hparse.symm.trans he) (by simp)
    · intro n hn
      exact ⟨(Except.ok.inj (hparse.symm.trans hn)).symm, hnone⟩
  | some s =>
    obtain ⟨hfault, before, behind, hnodes, hbefore⟩ := List.find?_eq_some_iff_append.1 hfind
    have hfault : s.IsFault := by simpa using hfault
    have hbefore : ∀ r ∈ before, ¬ r.IsFault := by simpa using hbefore
    obtain ⟨message, herror, hreads⟩ := s.label.exists_toError_eq source
    have hparse : (Parser.typeScript grammar).parse source =
        .error (.invalidSource message (some s.label.start)) := by
      rw [parse_eq hgrammar, hsearch, hfind, ← herror]
      rfl
    have hs : s ∈ t.nodes := List.mem_of_find?_eq_some hfind
    refine ⟨⟨fun _ => ⟨s, hs, hfault⟩, fun _ => ⟨_, hparse⟩⟩, ?_, ?_, by rw [hsearch, hfind]⟩
    · intro e he
      refine ⟨before, s, behind, message, hnodes, hfault, hbefore, ?_,
        (Except.error.inj (hparse.symm.trans he)).symm, hreads⟩
      intro r hr hr'
      rw [hnodes] at hr hordered
      rcases List.mem_append.1 hr with hr | hr
      · exact absurd hr' (hbefore r hr)
      · rcases List.mem_cons.1 hr with rfl | hr
        · exact Nat.le_refl _
        · exact (List.pairwise_cons.1 (List.pairwise_append.1 hordered).2.1).1 r hr
    · intro n hn
      exact absurd (hparse.symm.trans hn) (by simp)

/-- `a /*é, twenty characters are*/ )`, where an error in the comment holds another one, and a
semicolon is assumed in front of one more. -/
def unreadableComment : ConcreteTree :=
  let node (kind : String) (start stop : Nat) (named extra error missing : Bool)
      (children : List ConcreteTree) : ConcreteTree :=
    ⟨⟨kind, start, stop, none, named, extra, error, missing,
      error || missing || children.any (·.label.faulty)⟩, children⟩
  node "program" 0 33 true false false false
    [node "expression_statement" 0 1 true false false false
        [node "identifier" 0 1 true false false false []],
      node "comment" 2 31 true true false false
        [node "/*" 2 4 false false false false [],
          node "ERROR" 4 29 true false true false
            [node "ERROR" 4 6 true false true false []]],
      node ";" 31 31 false false false true [],
      node "ERROR" 32 33 true false true false []]

/-- The first of four faults is reported, with as much of its text as is shown. -/
theorem parse_reports_unreadableComment :
    (∀ s ∈ unreadableComment.nodes, s.IsMarked) ∧ (∀ s ∈ unreadableComment.nodes, s.Nested) ∧
      (∃ s ∈ unreadableComment.nodes, s.IsFault) ∧
      (∃ e, (Parser.typeScript fun _ => some unreadableComment).parse
        "a /*é, twenty characters are*/ )".toList = .error e) ∧
      (Parser.typeScript fun _ => some unreadableComment).parse
        "a /*é, twenty characters are*/ )".toList =
          .error (.invalidSource "syntax error near `é, twenty characters`" (some 4)) := by
  have hmarks : ∀ s ∈ unreadableComment.nodes, s.IsMarked := by decide
  have hnested : ∀ s ∈ unreadableComment.nodes, s.Nested := by decide
  have hfault : ∃ s ∈ unreadableComment.nodes, s.IsFault := by decide
  obtain ⟨hfails, -⟩ := @parse_reports_first_fault (fun _ => some unreadableComment)
    "a /*é, twenty characters are*/ )".toList unreadableComment rfl hmarks hnested
  exact ⟨hmarks, hnested, hfault, hfails.2 hfault, rfl⟩

end TreeScribe.ConcreteTree
