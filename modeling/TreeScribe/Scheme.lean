import TreeScribe.Doc
import TreeScribe.Kind

/-!
# Schemes

A scheme assigns a rendering to every role.  Renderings are named ways to make a document of a node;
what each does is told by `Rendering.apply` in `TreeScribe.Translate`.
-/

namespace TreeScribe

/-- What a recipe puts into its document. -/
inductive Filling
  /-- All children, each a part of its own. -/
  | all
  /-- All children in one part. -/
  | nodes
  /-- The named children in one part. -/
  | named
  /-- The first named child, if there is one. -/
  | first
  /-- The named children in one part with a text between them. -/
  | separated (between : List Char)
  /-- All children in one part with a text between them. -/
  | separatedAll (between : List Char)
  /-- The child in a field, if there is one. -/
  | field (name : String)
  /-- The child in a field, which must be there. -/
  | required (name : String)
  /-- The raw source text. -/
  | text
  /-- The raw source text, never indented. -/
  | verbatim
  /-- The name of the node's kind. -/
  | kind
  /-- The path of the source file. -/
  | path
  | nothing
deriving DecidableEq, Repr

/-- A document described by its parts. -/
structure Recipe where
  filling : Filling
  lead : List Char
  unknown : Bool
  layout : Layout
deriving DecidableEq, Repr

/-- A way to make a document of a node. -/
inductive Rendering
  /-- Kind and raw text in parentheses, and the children on lines below. -/
  | marker
  /-- The raw source text. -/
  | rawText
  /-- The value of a string literal as a JSON string. -/
  | quotedValue
  /-- The children, each on a line of its own. -/
  | lines
  /-- The statements of a block between braces. -/
  | braces
  /-- A return with or without a value. -/
  | returned
  /-- Two operands with an operator between them. -/
  | operation
  /-- An object, a point and a property. -/
  | access
  /-- A callee with its arguments in parentheses. -/
  | call
  /-- The first named child alone. -/
  | firstNamed
  /-- The word `import` and the module that an import refers to. -/
  | importedModule
  /-- The raw source text in snake case. -/
  | snakeName
  /-- The word `def`, a name, parameters in parentheses, and a body. -/
  | definition
  /-- A colon, and the statements of a block on the lines below. -/
  | suite
  /-- What a parameter binds. -/
  | pattern
  /-- An `if` with its branches. -/
  | branches
  | recipe (r : Recipe)
  /-- No document at all. -/
  | refusal (message : String)
deriving DecidableEq, Repr

/-- A rendering for every role. -/
abbrev Scheme := Role → Rendering

namespace Scheme

/-- Every role as a marker: the outline of the tree. -/
def outline : Scheme := fun _ => .marker

/-- Expressions and statement lists much as they are; markers for the rest. -/
def plain : Scheme
  | .syntaxList => .lines
  | .importDeclaration => .marker
  | .stringLiteral => .quotedValue
  | .functionDeclaration => .marker
  | .identifier => .rawText
  | .block => .braces
  | .parameter => .marker
  | .returnStatement => .returned
  | .binaryExpression => .operation
  | .ifStatement => .marker
  | .propertyAccess => .access
  | .callExpression => .call
  | .expressionStatement => .firstNamed
  | .token => .rawText

/-- A notation that reads like Python. -/
def python : Scheme
  | .importDeclaration => .importedModule
  | .identifier => .snakeName
  | .functionDeclaration => .definition
  | .block => .suite
  | .parameter => .pattern
  | .ifStatement => .branches
  | role => plain role

/-- The scheme `base` with other renderings for some roles. -/
def override (base : Scheme) (changes : List (Role × Rendering)) : Scheme :=
  fun role => (changes.lookup role).getD (base role)

end Scheme

end TreeScribe
