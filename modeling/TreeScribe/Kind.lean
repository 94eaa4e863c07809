/-!
# Kinds of syntax

A node has a role that schemes can render, or it belongs to the structure of a file, or it is some
other construct of the grammar, known by its name alone.  Kinds of one name are the same, unless one
of them is the grammar's own (`Kind.name_eq_name_iff`).
-/

namespace TreeScribe

/-- The roles that a scheme assigns renderings to. -/
inductive Role
  | syntaxList
  | importDeclaration
  | stringLiteral
  | functionDeclaration
  | identifier
  | block
  | parameter
  | returnStatement
  | binaryExpression
  | ifStatement
  | propertyAccess
  | callExpression
  | expressionStatement
  | token
deriving DecidableEq, Repr

/-- The kind of a node.  `other` keeps the grammar's own name, which may be that of a role: the two
kinds then differ, although they are written alike. -/
inductive Kind
  | sourceFile
  | punctuation
  | role (r : Role)
  | other (name : String)
deriving DecidableEq, Repr

namespace Role

/-- Every role. -/
def all : List Role :=
  [.syntaxList, .importDeclaration, .stringLiteral, .functionDeclaration, .identifier, .block,
    .parameter, .returnStatement, .binaryExpression, .ifStatement, .propertyAccess,
    .callExpression, .expressionStatement, .token]

/-- The written name of a role. -/
def name : Role → String
  | .syntaxList => "SyntaxList"
  | .importDeclaration => "ImportDeclaration"
  | .stringLiteral => "StringLiteral"
  | .functionDeclaration => "FunctionDeclaration"
  | .identifier => "Identifier"
  | .block => "Block"
  | .parameter => "Parameter"
  | .returnStatement => "ReturnStatement"
  | .binaryExpression => "BinaryExpression"
  | .ifStatement => "IfStatement"
  | .propertyAccess => "PropertyAccessExpression"
  | .callExpression => "CallExpression"
  | .expressionStatement => "ExpressionStatement"
  | .token => "Token"

theorem mem_all (r : Role) : r ∈ all := by
  cases r <;> decide

end Role

namespace Kind

/-- The written name of a kind. -/
def name : Kind → String
  | .sourceFile => "SourceFile"
  | .punctuation => "Punctuation"
  | .role r => r.name
  | .other name => name

/-- The kinds that are not the grammar's own. -/
def closed : List Kind :=
  .sourceFile :: .punctuation :: Role.all.map .role

/-- The kind among the closed ones that is written `name`. -/
def ofName? (name : String) : Option Kind :=
  closed.find? (·.name == name)

/-! ## What a name tells -/

theorem mem_closed_or_eq_other (k : Kind) : k ∈ closed ∨ ∃ name, k = .other name := by
  cases k with
  | sourceFile => exact .inl (by decide)
  | punctuation => exact .inl (by decide)
  | role r => exact .inl (by simp [closed, Role.mem_all])
  | other name => exact .inr ⟨name, rfl⟩

/-- The closed kinds have different names: each is read back from its own. -/
theorem ofName?_name : ∀ k ∈ closed, ofName? k.name = some k := by
  decide

/-- Kinds have the same name if they are equal, or one of them is the grammar's own and has the name
of the other. -/
theorem name_eq_name_iff {k l : Kind} :
    k.name = l.name ↔ k = l ∨ k = .other l.name ∨ l = .other k.name := by
  constructor
  · intro h
    rcases mem_closed_or_eq_other k with hk | ⟨name, rfl⟩
    · rcases mem_closed_or_eq_other l with hl | ⟨name, rfl⟩
      · have hread := ofName?_name k hk
        rw [h, ofName?_name l hl] at hread
        exact .inl (Option.some.inj hread).symm
      · exact .inr (.inr (congrArg other h.symm))
    · exact .inr (.inl (congrArg other h))
  · rintro (rfl | h | h)
    · rfl
    · rw [h, name]
    · rw [h, name]

end Kind

end TreeScribe
