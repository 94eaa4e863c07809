import TreeScribe.Decimal

/-!
# JSON values

The entries of an object keep their order and may repeat a key.  Whole numbers and numbers with a
point or an exponent are told apart.
-/

namespace TreeScribe

/-- A JSON value. -/
inductive Json
  | null
  | bool (b : Bool)
  | integer (n : Int)
  | decimal (d : Decimal)
  | string (s : String)
  | array (items : List Json)
  | object (entries : List (String × Json))
deriving Repr

namespace Json

/-- Puts an entry among entries with growing keys, in the place of one with the same key. -/
def putSorted (key : String) (v : Json) : List (String × Json) → List (String × Json)
  | [] => [(key, v)]
  | (k, w) :: rest =>
    if key < k then (key, v) :: (k, w) :: rest
    else if key = k then (key, v) :: rest
    else (k, w) :: putSorted key v rest

/-- The entries in the order of their keys, the last of each key. -/
def sorted (entries : List (String × Json)) : List (String × Json) :=
  entries.foldl (fun done (key, v) => putSorted key v done) []

end Json

end TreeScribe
