import TreeScribe.Json
import TreeScribe.Target

/-!
# Configurations

A configuration chooses a target, and whether syntax that was not understood makes a run fail.
-/

namespace TreeScribe

/-- The settings of a run. -/
structure Config where
  target : Target
  strict : Bool
deriving DecidableEq, Repr

namespace Config

/-- The outline, and no failure for syntax that was not understood. -/
def standard : Config := ⟨.outline, false⟩

instance : Inhabited Config := ⟨standard⟩

/-- The JSON value of a configuration. -/
def toJson (c : Config) : Json :=
  .object [("target", .string c.target.name), ("strict", .bool c.strict)]

end Config

end TreeScribe
