import TreeScribe.ConcreteTree.Reshape
import TreeScribe.Proofs.ConcreteTree.Nodes

/-!
# Conformance

What a grammar promises about the parts of its nodes: fields, operators, conditions, alternatives
and sources of imports.  All of it can be checked on a tree.

Two promises are read with care.  The clause of an import that counts is the first one.  And a named
part of an alternative does not stand for itself if it is a condition: its parentheses are taken
apart, so there must be something named between them.  `WeaklyConformant` is without both.
-/

namespace TreeScribe.ConcreteTree

/-! ## What a grammar promises -/

/-- A named node of the given kind. -/
def IsNamed (kind : String) (t : ConcreteTree) : Prop := t.label.named = true ∧ t.label.kind = kind

/-- A part in the given field. -/
def HasField (t : ConcreteTree) (field : String) : Prop :=
  ∃ c ∈ t.parts, c.label.field? = some field

/-- A named part. -/
def HasNamedPart (t : ConcreteTree) : Prop := ∃ c ∈ t.parts, c.label.named = true

/-- The fields that named nodes of some kinds always have. -/
def promisedFields : List (String × List String) :=
  [("binary_expression", ["left", "operator", "right"]),
    ("augmented_assignment_expression", ["left", "operator", "right"]),
    ("assignment_expression", ["left", "right"]),
    ("member_expression", ["object", "property"]),
    ("call_expression", ["function", "arguments"]),
    ("function_declaration", ["name", "parameters", "body"]),
    ("generator_function_declaration", ["name", "parameters", "body"]),
    ("required_parameter", ["pattern"]),
    ("optional_parameter", ["pattern"]),
    ("if_statement", ["consequence"])]

/-- The fields that are promised to the kind of the node. -/
def HasPromisedFields (t : ConcreteTree) : Prop :=
  ∀ field ∈ (promisedFields.lookup t.label.kind).getD [], t.HasField field

/-- An operator in its field, or an unnamed part that is no delimiter and in no field. -/
def HasOperator (t : ConcreteTree) : Prop :=
  t.HasField "operator" ∨
    ∃ c ∈ t.parts, c.label.field? = none ∧ c.label.named = false ∧ c.label.kind ∉ delimiters

/-- A condition, with something named between its parentheses if it has any. -/
def HasCondition (t : ConcreteTree) : Prop :=
  ∃ c ∈ t.parts, c.label.field? = some "condition" ∧
    (c.label.kind = "parenthesized_expression" → c.HasNamedPart)

/-- The clause of an import that names a module. -/
def IsRequireClause (t : ConcreteTree) : Prop := t.IsNamed "import_require_clause"

/-- A source, or a string in its place. -/
def HasSource (t : ConcreteTree) : Prop :=
  t.HasField "source" ∨ ∃ c ∈ t.parts, c.IsNamed "string"

instance (kind : String) (t : ConcreteTree) : Decidable (t.IsNamed kind) :=
  inferInstanceAs (Decidable (_ ∧ _))

instance (t : ConcreteTree) : Decidable t.IsRequireClause :=
  inferInstanceAs (Decidable (t.IsNamed _))

instance (t : ConcreteTree) (field : String) : Decidable (t.HasField field) :=
  inferInstanceAs (Decidable (∃ c ∈ t.parts, _))

instance (t : ConcreteTree) : Decidable t.HasNamedPart :=
  inferInstanceAs (Decidable (∃ c ∈ t.parts, _))

instance (t : ConcreteTree) : Decidable t.HasPromisedFields :=
  inferInstanceAs (Decidable (∀ field ∈ (promisedFields.lookup t.label.kind).getD [], _))

instance (t : ConcreteTree) : Decidable t.HasOperator := inferInstanceAs (Decidable (_ ∨ _))

instance (t : ConcreteTree) : Decidable t.HasCondition :=
  inferInstanceAs (Decidable (∃ c ∈ t.parts, _))

instance (t : ConcreteTree) : Decidable t.HasSource := inferInstanceAs (Decidable (_ ∨ _))

/-- The promises about fields, operators and conditions. -/
def KeepsFields (t : ConcreteTree) : Prop :=
  (t.label.named = true → t.HasPromisedFields) ∧
    (t.IsNamed "assignment_expression" → t.HasOperator) ∧
    (t.IsNamed "if_statement" → t.HasCondition)

/-- Every alternative has a named part, which counts for what is between its parentheses if it is
the alternative's own condition. -/
def KeepsAlternatives (t : ConcreteTree) : Prop :=
  ∀ a ∈ t.parts, a.label.field? = some "alternative" →
    ∃ c ∈ a.parts, c.label.named = true ∧
      (c.label.isCondition a.label.kind = true → c.HasNamedPart)

/-- A source, or a first clause with a source, or no clause but some named part. -/
def KeepsImport (t : ConcreteTree) : Prop :=
  t.HasField "source" ∨
    (∃ c ∈ (t.parts.find? fun c => decide c.IsRequireClause).toList, c.HasSource) ∨
    ((∀ c ∈ t.parts, ¬ c.IsRequireClause) ∧ t.HasNamedPart)

/-- A node with all that the grammar promises. -/
def Conformant (t : ConcreteTree) : Prop :=
  t.KeepsFields ∧ (t.IsNamed "if_statement" → t.KeepsAlternatives) ∧
    (t.IsNamed "import_statement" ∨ t.IsNamed "import_alias" → t.KeepsImport)

/-- As `Conformant`, but with any named part of an alternative, and with any clause of an import. -/
def WeaklyConformant (t : ConcreteTree) : Prop :=
  t.KeepsFields ∧
    (t.IsNamed "if_statement" →
      ∀ a ∈ t.parts, a.label.field? = some "alternative" → a.HasNamedPart) ∧
    (t.IsNamed "import_statement" ∨ t.IsNamed "import_alias" →
      t.HasField "source" ∨ (∃ c ∈ t.parts, c.IsRequireClause ∧ c.HasSource) ∨
        ((∀ c ∈ t.parts, ¬ c.IsRequireClause) ∧ t.HasNamedPart))

instance (t : ConcreteTree) : Decidable t.KeepsFields := inferInstanceAs (Decidable (_ ∧ _ ∧ _))

instance (t : ConcreteTree) : Decidable t.KeepsAlternatives :=
  inferInstanceAs (Decidable (∀ a ∈ t.parts, _ → _))

instance (t : ConcreteTree) : Decidable t.KeepsImport := inferInstanceAs (Decidable (_ ∨ _ ∨ _))

instance (t : ConcreteTree) : Decidable t.Conformant := inferInstanceAs (Decidable (_ ∧ _ ∧ _))

instance (t : ConcreteTree) : Decidable t.WeaklyConformant :=
  inferInstanceAs (Decidable (_ ∧ _ ∧ _))

end TreeScribe.ConcreteTree
