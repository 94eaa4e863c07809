import TreeScribe.Doc
import TreeScribe.Json.Quote
import TreeScribe.Parser
import TreeScribe.Scheme
import TreeScribe.SourceFile
import TreeScribe.Text.Literal
import TreeScribe.Text.SnakeCase
import TreeScribe.Traced

/-!
# Translating trees

A tree is translated from the root down.  The rendering of a node's role decides which nodes below
it are translated, in which order, and how their documents are put together.

Renderings get a function `visit` that makes the documents of the nodes below, which they may use
as they like: `Node.translate` ties the knot by giving each level of the tree the function of the
levels below it.
-/

namespace TreeScribe

open Traced

/-! ## Translating nodes below -/

section Below

variable (visit : Node → Traced Doc)

/-- The documents of several nodes. -/
def visitAll : List Node → Traced (List Doc)
  | [] => pure []
  | n :: ns => do
    let d ← visit n
    let ds ← visitAll ns
    pure (d :: ds)

/-- One document of several nodes, with nothing between them. -/
def visitConcat (ns : List Node) : Traced Doc := do
  pure (Doc.concat (← visitAll visit ns))

/-- One document of several nodes, with a text between them. -/
def visitSeparated (ns : List Node) (between : List Char) : Traced Doc := do
  pure (Doc.concat ((← visitAll visit ns).intersperse (.text between)))

/-- The document of a node that may be absent, and is then empty. -/
def visitOptional : Option Node → Traced Doc
  | some n => visit n
  | none => pure .empty

end Below

namespace Node

/-- The child in a field that a rendering cannot do without. -/
def require (n : Node) (field : String) : Traced Node :=
  match n.child? field with
  | some c => pure c
  | none => fail (.missingChild n.kind field)

/-- A child that a rendering cannot do without, found by other means than its field. -/
def demand (n : Node) (field : String) (found? : Option Node) : Traced Node :=
  match found? with
  | some c => pure c
  | none => fail (.missingChild n.kind field)

/-- The list of a block's statements, if there are any. -/
def statements? (n : Node) : Option Node :=
  (n.childOfKind? (.role .syntaxList)).filter (·.hasChildren)

/-- The kind of a node behind an import's `=` that names a module. -/
def requireClause : Kind := .other "import_require_clause"

/-- A module specifier without its quotes; escapes stay as they are written. -/
def unquoted (raw : List Char) : List Char :=
  let isMark (c : Char) : Bool := c == '"' || c == '\''
  match raw with
  | [] => []
  | c :: rest =>
    if isMark c ∧ (rest.getLast?.map isMark).getD false then rest.dropLast else c :: rest

/-- The module that an import refers to: its source, or that of its clause, or the entity that it
names. -/
def importedModule (n : Node) (source : List Char) : Traced (List Char) :=
  match n.child? "source" with
  | some s => pure (unquoted (s.text source))
  | none =>
    match n.childOfKind? requireClause with
    | some clause => do
      let s ← clause.demand "source"
        ((clause.child? "source").or (clause.childOfKind? (.role .stringLiteral)))
      pure (unquoted (s.text source))
    | none => do
      let entity ← n.demand "source" n.namedChildren.getLast?
      pure (entity.text source)

end Node

/-! ## Renderings -/

/-- Statements behind a colon, on lines of their own. -/
def Doc.suite (statements : Doc) : Doc :=
  ((Doc.plain [':'] [statements]).withNewline).withIndent 4

section Renderings

variable (file : SourceFile) (visit : Node → Traced Doc)

/-- The raw source text of a node. -/
def textOf (n : Node) : List Char := n.text file.text

/-- The marker of a node: `(KIND TEXT)`, then its children on the next lines. -/
def renderMarker (n : Node) : Traced Doc := do
  report (.unknownSyntax n.kind n.span)
  let parts ← visitAll visit n.children
  let opening := '(' :: (n.kind.name.toList ++ [' '])
  pure ((Doc.marked opening
    (.verbatimText (textOf file n) :: .text [')', '\n'] :: parts)).withIndent 2)

/-- The statement of a branch: a block as it is, anything else as a suite. -/
def visitBranch (n : Node) : Traced Doc :=
  if n.kind = .role .block then visit n
  else do pure (Doc.suite (← visit n))

/-- The document of an `else` and its statement. -/
def visitElse (n : Node) : Traced Doc :=
  if n.kind = .role .ifStatement then do
    pure (.plain ("\nel".toList) [← visit n])
  else do
    pure (.plain ("\nelse".toList) [← visitBranch visit n])

/-- The parts of a recipe. -/
def Filling.parts (n : Node) : Filling → Traced (List Doc)
  | .all => visitAll visit n.children
  | .nodes => do pure [← visitConcat visit n.children]
  | .named => do pure [← visitConcat visit n.namedChildren]
  | .first => do pure [← visitOptional visit n.firstNamed?]
  | .separated between => do pure [← visitSeparated visit n.namedChildren between]
  | .separatedAll between => do pure [← visitSeparated visit n.children between]
  | .field name => do pure [← visitOptional visit (n.child? name)]
  | .required name => do
    let c ← n.require name
    pure [← visit c]
  | .text => pure [.text (textOf file n)]
  | .verbatim => pure [.verbatimText (textOf file n)]
  | .kind => pure [.text n.kind.name.toList]
  | .path => pure [.text file.path.toList]
  | .nothing => pure []

/-- The document that a rendering makes of a node. -/
def Rendering.apply (n : Node) : Rendering → Traced Doc
  | .marker => renderMarker file visit n
  | .rawText => pure (.text (textOf file n))
  | .quotedValue => pure (.text (Json.quote (Literal.value (textOf file n))))
  | .lines => visitSeparated visit n.children ['\n']
  | .braces =>
    match n.statements? with
    | some list => do
      let inner ← visit list
      pure ((((Doc.plain ['{'] [inner]).withNewline).withIndent 4).withTail ['\n', '}'])
    | none => pure (.text ['{', '}'])
  | .returned =>
    match n.firstNamed? with
    | some expression => do pure (.plain ("return ".toList) [← visit expression])
    | none => pure (.text ("return".toList))
  | .operation => do
    let left ← n.require "left"
    let operator ← n.demand "operator" n.operator?
    let right ← n.require "right"
    let l ← visit left
    let r ← visit right
    pure (.concat [l, .text (' ' :: (textOf file operator ++ [' '])), r])
  | .access => do
    let object ← n.require "object"
    let property ← n.require "property"
    let o ← visit object
    let p ← visit property
    pure (.concat [o, .text ['.'], p])
  | .call => do
    let callee ← n.require "function"
    let arguments ← n.require "arguments"
    let c ← visit callee
    let args ← visitSeparated visit arguments.namedChildren [',', ' ']
    pure (.concat [c, .text ['('], args, .text [')']])
  | .firstNamed => visitOptional visit n.firstNamed?
  | .importedModule => do
    let module ← n.importedModule file.text
    pure (.text ("import ".toList ++ module))
  | .snakeName => pure (.text (snakeCase (textOf file n)))
  | .definition => do
    let name ← n.require "name"
    let parameters ← n.require "parameters"
    let body ← n.require "body"
    let name ← visit name
    let parameters ← visitSeparated visit parameters.namedChildren [',', ' ']
    let body ← visit body
    pure (.concat
      [.plain ("def ".toList) [name, .text ['('], parameters, .text [')']], body])
  | .suite =>
    match n.statements? with
    | some list => do pure (Doc.suite (← visit list))
    | none => pure (Doc.suite (.text ("pass".toList)))
  | .pattern => do
    let pattern ← n.require "pattern"
    visit pattern
  | .branches => do
    let condition ← n.require "condition"
    let consequence ← n.require "consequence"
    let condition ← visit condition
    let consequence ← visitBranch visit consequence
    let first := Doc.plain ("if ".toList) [condition, consequence]
    match n.child? "alternative" with
    | none => pure (.concat [first])
    | some alternative => do
      let statement ← alternative.demand "statement" alternative.firstNamed?
      let second ← visitElse visit statement
      pure (.concat [first, second])
  | .recipe r => do
    let parts ← r.filling.parts file visit n
    pure ⟨r.lead, parts, r.layout, r.unknown, false⟩
  | .refusal message => fail (.config message)

/-- The document of a node: the structure of a file is that of its children, a role is rendered as
the scheme says, and every other construct is marked. -/
def renderNode (scheme : Scheme) (n : Node) : Traced Doc :=
  match n.kind with
  | .sourceFile => visitConcat visit n.children
  | .punctuation => visitConcat visit n.children
  | .role role => (scheme role).apply file visit n
  | .other _ => renderMarker file visit n

end Renderings

/-! ## Whole trees and files -/

/-- The document of a node, with at most `depth` levels of nodes below it. -/
def Node.translateWithin (file : SourceFile) (scheme : Scheme) : Nat → Node → Traced Doc
  | 0, _ => pure .empty
  | depth + 1, n => renderNode file (translateWithin file scheme depth) scheme n

/-- The document of a tree under a scheme. -/
def Node.translate (file : SourceFile) (scheme : Scheme) (n : Node) : Traced Doc :=
  n.translateWithin file scheme n.height

/-- The document of a parsed source file. -/
def SourceFile.translate (file : SourceFile) (parser : Parser) (scheme : Scheme) : Traced Doc := do
  report (.translating file.path parser.name)
  let root ← ofExcept ((parser.parse file.text).mapError .parse)
  if root.kind = .sourceFile then
    let doc ← root.translate file scheme
    report (.translated file.path doc.unknownCount)
    pure doc
  else fail (.rootNotFound file.path)

end TreeScribe
