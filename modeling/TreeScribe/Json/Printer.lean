import TreeScribe.Json
import TreeScribe.Json.Quote

/-!
# Written JSON

A value is written with a chosen spacing: what goes behind a colon, and what goes before each item
and each closing bracket, by depth.  The compact text has no spacing; the pretty text puts each item
on a line of its own, two spaces deeper than its bracket.
-/

namespace TreeScribe.Json

/-- The blank text of a layout. -/
structure Spacing where
  /-- Before an item or a closing bracket at a depth. -/
  line : Nat → List Char
  /-- Between a colon and its value. -/
  behindColon : List Char

/-- No blank text at all. -/
def Spacing.none : Spacing := ⟨fun _ => [], []⟩

/-- One item a line, two spaces a level. -/
def Spacing.pretty : Spacing := ⟨fun depth => '\n' :: List.replicate (2 * depth) ' ', [' ']⟩

/-- The digits of a whole number. -/
def integerText (n : Int) : List Char :=
  (if n < 0 then ['-'] else []) ++ Nat.toDigits 10 n.natAbs

mutual

/-- A value written inside `depth` brackets. -/
def print (sp : Spacing) (depth : Nat) : Json → List Char
  | .null => ['n', 'u', 'l', 'l']
  | .bool true => ['t', 'r', 'u', 'e']
  | .bool false => ['f', 'a', 'l', 's', 'e']
  | .integer n => integerText n
  | .decimal d => d.text
  | .string s => quote s.toList
  | .array [] => ['[', ']']
  | .array (v :: vs) =>
    '[' :: sp.line (depth + 1) ++ print sp (depth + 1) v ++ printItems sp (depth + 1) vs ++
      sp.line depth ++ [']']
  | .object [] => ['{', '}']
  | .object ((key, v) :: entries) =>
    '{' :: sp.line (depth + 1) ++ quote key.toList ++ ':' :: sp.behindColon ++
      print sp (depth + 1) v ++ printEntries sp (depth + 1) entries ++ sp.line depth ++ ['}']

/-- The items behind the first, each with its comma. -/
def printItems (sp : Spacing) (depth : Nat) : List Json → List Char
  | [] => []
  | v :: vs => ',' :: sp.line depth ++ print sp depth v ++ printItems sp depth vs

/-- The entries behind the first, each with its comma. -/
def printEntries (sp : Spacing) (depth : Nat) : List (String × Json) → List Char
  | [] => []
  | (key, v) :: entries =>
    ',' :: sp.line depth ++ quote key.toList ++ ':' :: sp.behindColon ++ print sp depth v ++
      printEntries sp depth entries

end

/-- The text of a value without blanks. -/
def compact (v : Json) : List Char := v.print .none 0

/-- The text of a value over several lines. -/
def pretty (v : Json) : List Char := v.print .pretty 0

end TreeScribe.Json
