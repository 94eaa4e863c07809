import TreeScribe.ConcreteTree
import TreeScribe.Kind

/-!
# Kinds of concrete nodes

Which kind of syntax a node of the TypeScript grammar is.  Unnamed nodes are delimiters or other
tokens.  Named nodes with a role are known by the grammar's name; every other named leaf is a token,
and every other named node keeps the grammar's name.
-/

namespace TreeScribe.ConcreteTree

/-- The unnamed nodes that only delimit or separate other syntax. -/
def delimiters : List String := ["\x7b", "\x7d", "(", ")", "[", "]", ";", ","]

/-- The named nodes with a kind of their own. -/
def knownKinds : List (String × Kind) :=
  [("program", .sourceFile),
    ("import_statement", .role .importDeclaration),
    ("import_alias", .role .importDeclaration),
    ("string", .role .stringLiteral),
    ("function_declaration", .role .functionDeclaration),
    ("generator_function_declaration", .role .functionDeclaration),
    ("identifier", .role .identifier),
    ("property_identifier", .role .identifier),
    ("private_property_identifier", .role .identifier),
    ("shorthand_property_identifier", .role .identifier),
    ("shorthand_property_identifier_pattern", .role .identifier),
    ("statement_identifier", .role .identifier),
    ("type_identifier", .role .identifier),
    ("statement_block", .role .block),
    ("required_parameter", .role .parameter),
    ("optional_parameter", .role .parameter),
    ("return_statement", .role .returnStatement),
    ("binary_expression", .role .binaryExpression),
    ("assignment_expression", .role .binaryExpression),
    ("augmented_assignment_expression", .role .binaryExpression),
    ("if_statement", .role .ifStatement),
    ("member_expression", .role .propertyAccess),
    ("call_expression", .role .callExpression),
    ("expression_statement", .role .expressionStatement)]

/-- The kind of a node with this label; `leaf` says that it has no children at all. -/
def Label.classify (l : Label) (leaf : Bool) : Kind :=
  if l.named then
    match knownKinds.lookup l.kind with
    | some kind => kind
    | none => if leaf then .role .token else .other l.kind
  else if l.kind ∈ delimiters then .punctuation
  else .role .token

/-- The kind of a concrete node. -/
def classify (t : ConcreteTree) : Kind := t.label.classify t.children.isEmpty

end TreeScribe.ConcreteTree
