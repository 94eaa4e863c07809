import TreeScribe.Config
import TreeScribe.Json.Lexer
import TreeScribe.Text.Shown

/-!
# Reading configurations

A configuration is relaxed JSON text.  A text without a value is the standard configuration.  An
object gives the settings by name, an array by position; what is left out is standard.  The keys
of an object are looked at in their order, and the first fault is the one reported.
-/

namespace TreeScribe

/-- Why a text is no configuration. -/
inductive ConfigError
  | unreadable (path reason : String)
  | notJson
  | unknownField (name : String)
  | unknownTarget (name : String)
  | notSingleKey
  | tooLong (length : Nat)
  | wrongType (found : Json) (expected : String)
deriving Repr

namespace ConfigError

/-- How a message names a value. -/
def describe : Json → String
  | .null => "null"
  | .bool b => "boolean `" ++ (if b then "true" else "false") ++ "`"
  | .integer n => "integer `" ++ toString n ++ "`"
  | .decimal d => "floating point `" ++ String.ofList d.text ++ "`"
  | .string s => "string " ++ String.ofList (Text.shown s.toList)
  | .array _ => "sequence"
  | .object _ => "map"

/-- The wording of a faulty configuration. -/
def message : ConfigError → String
  | .unreadable path reason => "Failed to read " ++ path ++ ": " ++ reason
  | .notJson => "Invalid JSON"
  | .unknownField name =>
    "Invalid config: unknown field `" ++ name ++ "`, expected `target` or `strict`"
  | .unknownTarget name =>
    "Invalid config: unknown variant `" ++ name ++ "`, expected one of `noop`, `default`, `python`"
  | .notSingleKey => "Invalid config: invalid value: map, expected map with a single key"
  | .tooLong length =>
    "Invalid config: invalid length " ++ toString length ++ ", expected fewer elements in array"
  | .wrongType found expected =>
    "Invalid config: invalid type: " ++ describe found ++ ", expected " ++ expected

end ConfigError

/-- The target that a name in a configuration chooses. -/
def Target.ofConfigName (name : String) : Except ConfigError Target :=
  match Target.ofName? name with
  | some t => .ok t
  | none => .error (.unknownTarget name)

/-- The target that a value describes: its name, or an object with its name alone and no content. -/
def Target.ofJson : Json → Except ConfigError Target
  | .string s => ofConfigName s
  | .object entries =>
    match Json.sorted entries with
    | [(key, content)] => do
      let t ← ofConfigName key
      match content with
      | .null => .ok t
      | other => .error (.wrongType other "unit")
    | _ => .error .notSingleKey
  | other => .error (.wrongType other "string or map")

namespace Config

/-- The strictness that a value describes. -/
def strictOfJson : Json → Except ConfigError Bool
  | .bool b => .ok b
  | other => .error (.wrongType other "a boolean")

/-- The configuration changed by one entry of an object. -/
def withEntry (c : Config) (entry : String × Json) : Except ConfigError Config :=
  if entry.1 = "target" then do return { c with target := ← Target.ofJson entry.2 }
  else if entry.1 = "strict" then do return { c with strict := ← strictOfJson entry.2 }
  else .error (.unknownField entry.1)

/-- The configuration that a value describes. -/
def ofJson : Json → Except ConfigError Config
  | .object entries => (Json.sorted entries).foldlM withEntry standard
  | .array [] => .ok standard
  | .array (t :: items) => do
    let c : Config := { standard with target := ← Target.ofJson t }
    match items with
    | [] => return c
    | s :: more =>
      let c := { c with strict := ← strictOfJson s }
      if more.isEmpty then return c else throw (.tooLong (more.length + 2))
  | other => .error (.wrongType other "struct TranslateConfig")

/-- The configuration that a text describes. -/
def ofText (text : List Char) : Except ConfigError Config :=
  match Json.parseRelaxed? text with
  | none => .error .notJson
  | some none => .ok standard
  | some (some v) => ofJson v

end Config

end TreeScribe
