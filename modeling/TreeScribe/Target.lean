import TreeScribe.Scheme

/-!
# Targets

The notations that a user can choose by name.
-/

namespace TreeScribe

/-- A notation that a user can choose. -/
inductive Target
  | outline
  | plain
  | python
deriving DecidableEq, Repr

namespace Target

/-- All targets, in the order they are listed in. -/
def all : List Target := [.outline, .plain, .python]

/-- The name a user gives. -/
def name : Target → String
  | .outline => "noop"
  | .plain => "default"
  | .python => "python"

/-- The target with this name. -/
def ofName? (name : String) : Option Target := all.find? (·.name == name)

/-- The target with this name, whatever the case of its ASCII letters. -/
def ofNameIgnoringCase? (name : String) : Option Target :=
  all.find? (·.name == name.toLower)

/-- The scheme of a target. -/
def scheme : Target → Scheme
  | .outline => .outline
  | .plain => .plain
  | .python => .python

end Target

end TreeScribe
