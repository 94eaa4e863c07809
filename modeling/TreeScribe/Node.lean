import TreeScribe.Kind
import TreeScribe.Span

/-!
# Syntax trees

A node has a kind, a span of the source, the field of its parent that holds it, if any, a mark that
tells named syntax from punctuation-like syntax, and children in source order.
-/

namespace TreeScribe

/-- A node of a syntax tree. -/
structure Node where
  kind : Kind
  span : Span
  field? : Option String
  named : Bool
  children : List Node
deriving Repr

namespace Node

/-- A named node that no field holds. -/
def plain (kind : Kind) (span : Span) (children : List Node) : Node :=
  ⟨kind, span, none, true, children⟩

/-- The same node, held by `field`. -/
def withField (n : Node) (field : String) : Node := { n with field? := some field }

/-- The same node, no longer named. -/
def anonymous (n : Node) : Node := { n with named := false }

/-- Whether the node has children. -/
def hasChildren (n : Node) : Bool := !n.children.isEmpty

/-- The raw source text of the node. -/
def text (n : Node) (source : List Char) : List Char := n.span.slice source

/-! ## Lookups -/

/-- The first child held by `field`. -/
def child? (n : Node) (field : String) : Option Node :=
  n.children.find? fun c => decide (c.field? = some field)

/-- The named children, in order. -/
def namedChildren (n : Node) : List Node := n.children.filter (·.named)

/-- The first named child. -/
def firstNamed? (n : Node) : Option Node := n.children.find? (·.named)

/-- The first child of the given kind. -/
def childOfKind? (n : Node) (kind : Kind) : Option Node :=
  n.children.find? fun c => decide (c.kind = kind)

/-- The operator: the child in the field of that name, else the first token that is neither named
nor held by a field. -/
def operator? (n : Node) : Option Node :=
  (n.child? "operator").or <| n.children.find? fun c =>
    !c.named && c.field?.isNone && decide (c.kind = .role .token)

/-- The node reached from `n` by descending through child positions. -/
def descend? (n : Node) : List Nat → Option Node
  | [] => some n
  | i :: path => do (← n.children[i]?).descend? path

/-! ## Depth -/

mutual

/-- The number of nodes on the longest way down. -/
def height : Node → Nat
  | ⟨_, _, _, _, children⟩ => heightAll children + 1

/-- The height of the highest tree of a list. -/
def heightAll : List Node → Nat
  | [] => 0
  | n :: ns => max n.height (heightAll ns)

end

end Node

end TreeScribe
