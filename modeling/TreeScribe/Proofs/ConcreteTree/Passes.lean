import TreeScribe.Proofs.ConcreteTree.Kinds
import TreeScribe.Proofs.ConcreteTree.Nodes
import TreeScribe.Proofs.Node.Grouping

/-!
# Reshaping in passes

`ConcreteTree.toNode` leaves out extra nodes, takes the parentheses of conditions apart and groups
statements in one walk.  Apart from the grouping it can be told as passes over the whole tree, each
with one task: every node gets its kind of syntax, extra nodes are removed, conditions are freed of
their parentheses, and labels become nodes.  The kind is read off before anything is removed.

Main statement: where offsets are words, the syntax tree without its list nodes is the tree that the
passes make (`unlisted_toNode`).  So nothing is lost, doubled, moved or added on the way.
-/

namespace TreeScribe.ConcreteTree

/-- A concrete tree whose nodes carry their kinds of syntax. -/
structure Sketch where
  label : Label
  kind : Kind
  children : List Sketch
deriving Repr

mutual

/-- The first pass: the kind of every node. -/
def sketch : ConcreteTree → Sketch
  | ⟨l, children⟩ => ⟨l, classify ⟨l, children⟩, sketchAll children⟩

/-- The first pass over several trees. -/
def sketchAll : List ConcreteTree → List Sketch
  | [] => []
  | t :: ts => t.sketch :: sketchAll ts

end

namespace Sketch

mutual

/-- The second pass: no extra node stays below a node. -/
def withoutExtras : Sketch → Sketch
  | ⟨l, kind, children⟩ => ⟨l, kind, withoutExtrasAll children⟩

/-- The trees that are not extra, with no extra node below. -/
def withoutExtrasAll : List Sketch → List Sketch
  | [] => []
  | t :: ts =>
    if t.label.extra then withoutExtrasAll ts else t.withoutExtras :: withoutExtrasAll ts

end

/-- The same tree in another field, or in none. -/
def heldBy (field? : Option String) (t : Sketch) : Sketch := { t with label.field? := field? }

/-- The first named tree is the condition; no other one is in a field. -/
def markCondition : List Sketch → List Sketch
  | [] => []
  | t :: ts =>
    if t.label.named then t.heldBy (some "condition") :: ts.map (heldBy none)
    else t.heldBy none :: markCondition ts

/-- A parenthesized expression that a statement called `parent` holds as its condition. -/
def IsParenthesizedCondition (parent : String) (l : Label) : Prop :=
  l.field? = some "condition" ∧ l.kind = "parenthesized_expression" ∧
    parent ∈ ["if_statement", "while_statement", "do_statement"]

instance (parent : String) (l : Label) : Decidable (IsParenthesizedCondition parent l) :=
  inferInstanceAs (Decidable (_ ∧ _ ∧ _))

mutual

/-- The third pass: conditions lose their parentheses, which stay as the condition's neighbours. -/
def splice : Sketch → Sketch
  | ⟨l, kind, children⟩ => ⟨l, kind, spliceAll l.kind children⟩

/-- The third pass over the children of a `parent` node. -/
def spliceAll (parent : String) : List Sketch → List Sketch
  | [] => []
  | t :: ts =>
    (if IsParenthesizedCondition parent t.label then markCondition t.splice.children
      else [t.splice]) ++ spliceAll parent ts

end

mutual

/-- The last pass: a node with the span, the field and the mark of its label. -/
def toNode : Sketch → Node
  | ⟨l, kind, children⟩ => ⟨kind, ⟨l.start, l.stop⟩, l.field?, l.named, toNodes children⟩

/-- The last pass over several trees. -/
def toNodes : List Sketch → List Node
  | [] => []
  | t :: ts => t.toNode :: toNodes ts

end

theorem toNodes_append (ts us : List Sketch) : toNodes (ts ++ us) = toNodes ts ++ toNodes us := by
  induction ts with
  | nil => rfl
  | cons t ts ih => rw [List.cons_append, toNodes, toNodes, ih, List.cons_append]

end Sketch

/-- The syntax tree that the passes make of a concrete tree; no field holds its root. -/
def reshaped (t : ConcreteTree) : Node := (t.sketch.withoutExtras.splice.heldBy none).toNode

/-- The offsets of a node are words. -/
def HasOffsets (t : ConcreteTree) : Prop :=
  t.label.start < Span.offsetLimit ∧ t.label.stop < Span.offsetLimit

instance (t : ConcreteTree) : Decidable t.HasOffsets := inferInstanceAs (Decidable (_ ∧ _))

/-! ## One node -/

theorem ofOffsets_eq {a b : Nat} (ha : a < Span.offsetLimit) (hb : b < Span.offsetLimit) :
    Span.ofOffsets a b = ⟨a, b⟩ := by
  rw [Span.ofOffsets, Nat.mod_eq_of_lt ha, Nat.mod_eq_of_lt hb]

/-- Dissolving the list nodes of a converted node leaves the node over its dissolved children. -/
theorem unlisted_label_toNode (l : Label) (field? : Option String) (leaf : Bool) (ns : List Node)
    (hstart : l.start < Span.offsetLimit) (hstop : l.stop < Span.offsetLimit) :
    (l.toNode field? leaf ns).unlisted =
      [⟨l.classify leaf, ⟨l.start, l.stop⟩, field?, l.named, Node.unlistedAll ns⟩] := by
  simp only [Label.toNode, Node.unlisted]
  rw [if_neg (classify_ne_syntaxList l leaf), Node.unlistedAll_grouped, ofOffsets_eq hstart hstop]

theorem isCondition_iff {l : Label} {parent : String} :
    l.isCondition parent = true ↔ Sketch.IsParenthesizedCondition parent l := by
  simp [Label.isCondition, Sketch.IsParenthesizedCondition, conditionals, and_assoc]

/-! ## The walk and the passes -/

theorem label_sketch (t : ConcreteTree) : t.sketch.label = t.label := by
  obtain ⟨l, children⟩ := t
  rw [sketch]

theorem label_withoutExtras (t : Sketch) : t.withoutExtras.label = t.label := by
  obtain ⟨l, kind, children⟩ := t
  rw [Sketch.withoutExtras]

theorem label_splice (t : Sketch) : t.splice.label = t.label := by
  obtain ⟨l, kind, children⟩ := t
  rw [Sketch.splice]

mutual

/-- One node: its children dissolve to what the passes leave of them. -/
theorem unlisted_toNodeIn (field? : Option String) (t : ConcreteTree)
    (h : ∀ s ∈ t.nodes, s.HasOffsets) :
    (t.toNodeIn field?).unlisted =
      [(t.sketch.withoutExtras.splice.heldBy field?).toNode] := by
  obtain ⟨l, children⟩ := t
  have hself := h _ (mem_nodes_self _)
  rw [toNodeIn, unlisted_label_toNode l field? _ _ hself.1 hself.2,
    unlistedAll_childNodes l.kind children (forall_nodes_children h)]
  rfl

/-- The children of a `parent` node, conditions of statements among them. -/
theorem unlistedAll_childNodes (parent : String) (ts : List ConcreteTree)
    (h : ∀ s ∈ nodesAll ts, s.HasOffsets) :
    Node.unlistedAll (childNodes parent ts) =
      Sketch.toNodes (Sketch.spliceAll parent (Sketch.withoutExtrasAll (sketchAll ts))) := by
  match ts with
  | [] => rfl
  | ⟨l, children⟩ :: ts =>
    have hrest := unlistedAll_childNodes parent ts (forall_nodes_tail h)
    have hnode := forall_nodes_head h
    rw [childNodes, Node.unlistedAll_append, hrest, sketchAll, Sketch.withoutExtrasAll,
      label_sketch, spliced]
    by_cases hextra : l.extra = true
    · rw [if_pos hextra, if_pos hextra]
      rfl
    rw [if_neg hextra, if_neg hextra, Sketch.spliceAll, Sketch.toNodes_append,
      label_withoutExtras, label_sketch]
    by_cases hcondition : l.isCondition parent = true
    · have hpar : ∀ m, ¬ Sketch.IsParenthesizedCondition l.kind m := by
        obtain ⟨-, hkind, -⟩ := isCondition_iff.1 hcondition
        intro m hm
        exact absurd hm.2.2 (by rw [hkind]; decide)
      rw [if_pos hcondition, if_pos (isCondition_iff.1 hcondition),
        unlistedAll_conditionNodes false l.kind children (forall_nodes_children hnode) hpar]
      rfl
    · have hself : (toNodeIn l.field? ⟨l, children⟩).unlisted = _ :=
        unlisted_toNodeIn l.field? ⟨l, children⟩ hnode
      rw [if_neg hcondition, if_neg (fun hc => hcondition (isCondition_iff.2 hc)),
        Node.unlistedAll_singleton, ← toNodeIn, hself]
      rfl

/-- What stands in the parentheses of a condition; once the condition is `seen`, no field is given
any more. -/
theorem unlistedAll_conditionNodes (seen : Bool) (parent : String) (ts : List ConcreteTree)
    (h : ∀ s ∈ nodesAll ts, s.HasOffsets)
    (hparent : ∀ l, ¬ Sketch.IsParenthesizedCondition parent l) :
    Node.unlistedAll (conditionNodes seen ts) =
      Sketch.toNodes
        (let inner := Sketch.spliceAll parent (Sketch.withoutExtrasAll (sketchAll ts))
        if seen then inner.map (Sketch.heldBy none) else Sketch.markCondition inner) := by
  match ts with
  | [] => cases seen <;> rfl
  | t :: ts =>
    have htail := forall_nodes_tail h
    rw [conditionNodes, sketchAll, Sketch.withoutExtrasAll, label_sketch]
    by_cases hextra : t.label.extra = true
    · rw [if_pos hextra, if_pos hextra, unlistedAll_conditionNodes seen parent ts htail hparent]
    have hrest := unlistedAll_conditionNodes (seen || t.label.named) parent ts htail hparent
    rw [if_neg hextra, if_neg hextra, Node.unlistedAll, hrest,
      unlisted_toNodeIn _ t (forall_nodes_head h), Sketch.spliceAll, if_neg (hparent _)]
    cases seen with
    | true => simp [Sketch.toNodes]
    | false =>
      have hlabel : t.sketch.withoutExtras.splice.label = t.label := by
        rw [label_splice, label_withoutExtras, label_sketch]
      cases hnamed : t.label.named <;>
        simp [Sketch.markCondition, Sketch.toNodes, hlabel, hnamed]

end

/-- **The walk is the passes, grouping apart.**  Where offsets are words, the syntax tree without
its list nodes is the concrete tree without extra nodes, with conditions freed of one level of
parentheses, each node with its span, its mark, its field and its kind. -/
theorem unlisted_toNode (t : ConcreteTree) (h : ∀ s ∈ t.nodes, s.HasOffsets) :
    t.toNode.unlisted = [t.reshaped] :=
  unlisted_toNodeIn none t h

/-- `while (/**/(x)) x` with its comment: a condition in two pairs of parentheses. -/
def twoParentheses : ConcreteTree :=
  let leaf (kind : String) (start stop : Nat) (named : Bool) : ConcreteTree :=
    ⟨⟨kind, start, stop, none, named, kind == "comment", false, false, false⟩, []⟩
  let tree (kind : String) (start stop : Nat) (field? : Option String) :
      List ConcreteTree → ConcreteTree :=
    .mk ⟨kind, start, stop, field?, true, false, false, false, false⟩
  tree "while_statement" 0 17 none
    [leaf "while" 0 5 false,
      tree "parenthesized_expression" 6 15 (some "condition")
        [leaf "(" 6 7 false, leaf "comment" 7 11 true,
          tree "parenthesized_expression" 11 14 none
            [leaf "(" 11 12 false, leaf "identifier" 12 13 true, leaf ")" 13 14 false],
          leaf ")" 14 15 false],
      leaf "identifier" 16 17 true]

/-- Only the outer parentheses are taken apart, and the inner ones become the condition. -/
theorem unlisted_toNode_twoParentheses :
    (∀ s ∈ twoParentheses.nodes, s.HasOffsets) ∧
      twoParentheses.toNode.unlisted = [twoParentheses.reshaped] ∧
      twoParentheses.reshaped.children.map (fun n => (n.kind.name, n.field?)) =
        [("Token", none), ("Punctuation", none), ("parenthesized_expression", some "condition"),
          ("Punctuation", none), ("Identifier", none)] :=
  ⟨by decide, unlisted_toNode twoParentheses (by decide), by decide⟩

end TreeScribe.ConcreteTree
