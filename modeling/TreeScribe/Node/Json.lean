import TreeScribe.Json
import TreeScribe.Node

/-!
# Syntax trees and spans as JSON

A node is an object with its kind, its range, the field that holds it, if any, and its children, if
it has any.  A span is an object with its two ends; it is read back from such an object or from an
array of the two.
-/

namespace TreeScribe

namespace Node

mutual

/-- The JSON value of a tree. -/
def toJson : Node → Json
  | ⟨kind, span, field?, _, children⟩ =>
    .object <|
      ("type", .string kind.name) ::
      ("range", .array [.integer span.start, .integer span.stop]) ::
      ((field?.map fun field => ("field", Json.string field)).toList ++
        if children.isEmpty then [] else [("children", .array (toJsonAll children))])

/-- The JSON values of a list of trees. -/
def toJsonAll : List Node → List Json
  | [] => []
  | n :: ns => n.toJson :: toJsonAll ns

end

end Node

namespace Span

/-- The JSON value of a span. -/
def toJson (s : Span) : Json :=
  .object [("start", .integer s.start), ("end", .integer s.stop)]

/-- An offset: a whole number that is a word. -/
def offsetOfJson? : Json → Option Nat
  | .integer n => if 0 ≤ n ∧ n < offsetLimit then some n.toNat else none
  | _ => none

/-- The offset under a key that occurs once. -/
def offsetAt? (key : String) (entries : List (String × Json)) : Option Nat :=
  match entries.filter (·.1 == key) with
  | [(_, v)] => offsetOfJson? v
  | _ => none

/-- The span that a value describes.  An object may hold other keys; an array holds the two ends
alone. -/
def ofJson? : Json → Option Span
  | .object entries => do return ⟨← offsetAt? "start" entries, ← offsetAt? "end" entries⟩
  | .array [start, stop] => do return ⟨← offsetOfJson? start, ← offsetOfJson? stop⟩
  | _ => none

end Span

end TreeScribe
