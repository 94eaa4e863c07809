/-!
# Trees as rows

A tree is listed as rows in preorder, each with its depth.  The children of a row are the rows
behind it that are one level deeper, up to the next row that is not deeper.
-/

namespace TreeScribe.Preorder

variable {α β : Type}

/-- Puts a row in front of the trees behind it: the deeper ones in front become its children. -/
def graft (make : α → List β → β) (row : Nat × α) (trees : List (Nat × β)) : List (Nat × β) :=
  let (inner, rest) := trees.span (row.1 < ·.1)
  (row.1, make row.2 (inner.map Prod.snd)) :: rest

/-- The trees that rows list, with their depths. -/
def trees (make : α → List β → β) (rows : List (Nat × α)) : List (Nat × β) :=
  rows.foldr (graft make) []

/-- The one tree that rows list. -/
def tree? (make : α → List β → β) (rows : List (Nat × α)) : Option β :=
  match trees make rows with
  | [(_, t)] => some t
  | _ => none

end TreeScribe.Preorder
