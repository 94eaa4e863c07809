import TreeScribe.Kind

/-!
# Failures

Why a source cannot be parsed and why it cannot be translated, and the wording of each cause.
-/

namespace TreeScribe

/-- Why a source has no syntax tree. -/
inductive ParseError
  | invalidSource (message : String) (offset? : Option Nat)
  | internal (message : String)
deriving DecidableEq, Repr

namespace ParseError

/-- The wording of a parse error. -/
def message : ParseError → String
  | .invalidSource m _ => "Invalid source: " ++ m
  | .internal m => "Internal parser error: " ++ m

/-- The byte at which the source went wrong, if that is known. -/
def offset? : ParseError → Option Nat
  | .invalidSource _ offset? => offset?
  | .internal _ => none

end ParseError

/-- Why a file cannot be translated. -/
inductive TranslateError
  | parse (e : ParseError)
  | unreadable (path reason : String)
  | rootNotFound (path : String)
  /-- A rendering needs a child that a node of this kind does not have. -/
  | missingChild (kind : Kind) (field : String)
  | config (message : String)
deriving DecidableEq, Repr

/-- The wording of a file that cannot be translated. -/
def TranslateError.message : TranslateError → String
  | .parse e => e.message
  | .unreadable path reason => "Failed to read " ++ path ++ ": " ++ reason
  | .rootNotFound path => "No source file root found for " ++ path
  | .missingChild kind field => kind.name ++ " node has no `" ++ field ++ "` child"
  | .config m => "Configuration error: " ++ m

end TreeScribe
