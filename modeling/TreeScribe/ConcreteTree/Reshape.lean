import TreeScribe.ConcreteTree.Classify
import TreeScribe.Node

/-!
# From concrete trees to syntax trees

A concrete tree becomes a syntax tree of the compiler's shape:

* extra nodes are left out;
* the parentheses around the condition of a statement belong to the statement, and the expression
  between them is its condition;
* the statements of a file, and those between the braces of a block, are grouped in one list.
-/

namespace TreeScribe

namespace Node

/-- The list node around `items`: from the first to the last of them, or at `anchor` if there are
none. -/
def listOf (items : List Node) (anchor : Nat) : Node :=
  let span :=
    match items.head?, items.getLast? with
    | some first, some last => first.span.merge last.span
    | _, _ => .emptyAt anchor
  plain (.role .syntaxList) span items

/-- The children of a block whose statements are grouped: the opening punctuation, if there is
one, the list, and the closing punctuation, if there is one besides the opening. -/
def groupBlock (span : Span) (children : List Node) : List Node :=
  let opening := children.head?.toList.filter (·.kind = .punctuation)
  let rest := children.drop opening.length
  let closing := rest.getLast?.toList.filter (·.kind = .punctuation)
  let anchor := (opening.head?.map (·.span.stop)).getD span.start
  opening ++ listOf (rest.take (rest.length - closing.length)) anchor :: closing

/-- The children of a node of the given kind, grouped where that kind asks for it. -/
def grouped (kind : Kind) (span : Span) (children : List Node) : List Node :=
  match kind with
  | .sourceFile => [listOf children span.start]
  | .role .block => groupBlock span children
  | _ => children

end Node

namespace ConcreteTree

/-- The statements whose condition stands in parentheses. -/
def conditionals : List String := ["if_statement", "while_statement", "do_statement"]

/-- Whether a child with this label is the parenthesized condition of a `parent` node. -/
def Label.isCondition (l : Label) (parent : String) : Bool :=
  l.field? == some "condition" && l.kind == "parenthesized_expression" &&
    conditionals.contains parent

/-- The node with this label, held by `field?`, over the nodes of its children. -/
def Label.toNode (l : Label) (field? : Option String) (leaf : Bool) (children : List Node) : Node :=
  let kind := l.classify leaf
  let span := Span.ofOffsets l.start l.stop
  ⟨kind, span, field?, l.named, Node.grouped kind span children⟩

mutual

/-- The syntax tree of a concrete tree that is held by `field?`. -/
def toNodeIn (field? : Option String) : ConcreteTree → Node
  | ⟨l, children⟩ => l.toNode field? children.isEmpty (childNodes l.kind children)

/-- What a concrete tree puts among the children of a `parent` node: nothing if it is extra, what
stands in its parentheses if it is a condition, and else its syntax tree. -/
def spliced (parent : String) : ConcreteTree → List Node
  | ⟨l, children⟩ =>
    if l.extra then []
    else if l.isCondition parent then conditionNodes false children
    else [l.toNode l.field? children.isEmpty (childNodes l.kind children)]

/-- The syntax trees of the children of a `parent` node. -/
def childNodes (parent : String) : List ConcreteTree → List Node
  | [] => []
  | t :: ts => t.spliced parent ++ childNodes parent ts

/-- The syntax trees of what stands in a condition's parentheses, parentheses included.  The first
named one is the condition, unless it was `seen` before. -/
def conditionNodes (seen : Bool) : List ConcreteTree → List Node
  | [] => []
  | t :: ts =>
    if t.label.extra then conditionNodes seen ts
    else
      t.toNodeIn (if t.label.named && !seen then some "condition" else none) ::
        conditionNodes (seen || t.label.named) ts

end

/-- The syntax tree of a concrete tree. -/
def toNode (t : ConcreteTree) : Node := t.toNodeIn none

end ConcreteTree

end TreeScribe
