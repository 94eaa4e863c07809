import TreeScribe.ConcreteTree
import TreeScribe.Json.Lexer
import TreeScribe.Preorder

/-!
# Written concrete trees

A concrete tree is written as a JSON array of rows in preorder.  A row is an array of the depth, the
kind, a text of letters, the two offsets, and the field or null.  The letters mark a node as named
(`n`), extra (`x`), error (`e`), missing (`m`) and faulty (`h`).
-/

namespace TreeScribe.ConcreteTree

/-- A natural number. -/
def natOfJson? : Json → Option Nat
  | .integer n => if 0 ≤ n then some n.toNat else none
  | _ => none

/-- A field, or none for null. -/
def fieldOfJson? : Json → Option (Option String)
  | .null => some none
  | .string s => some (some s)
  | _ => none

/-- A row: its depth and its label. -/
def rowOfJson? : Json → Option (Nat × Label)
  | .array [depth, .string kind, .string marks, start, stop, field] => do
    let marks := marks.toList
    return (← natOfJson? depth, {
      kind
      start := ← natOfJson? start
      stop := ← natOfJson? stop
      field? := ← fieldOfJson? field
      named := marks.contains 'n'
      extra := marks.contains 'x'
      error := marks.contains 'e'
      missing := marks.contains 'm'
      faulty := marks.contains 'h' })
  | _ => none

/-- The tree that a value describes. -/
def ofJson? : Json → Option ConcreteTree
  | .array rows => do Preorder.tree? ConcreteTree.mk (← rows.mapM rowOfJson?)
  | _ => none

/-- The tree that a text describes. -/
def ofText? (text : List Char) : Option ConcreteTree := (Json.parse? text).bind ofJson?

end TreeScribe.ConcreteTree
