/-!
# Concrete trees

The tree that a grammar makes of a source holds every piece of it: tokens, comments, and marks for
what it could not read.  Offsets are bytes of the source.
-/

namespace TreeScribe

namespace ConcreteTree

/-- What a grammar says about one node. -/
structure Label where
  kind : String
  start : Nat
  stop : Nat
  field? : Option String
  named : Bool
  /-- The node, a comment for instance, may stand anywhere and is no part of the syntax. -/
  extra : Bool
  /-- The node holds text that the grammar could not read. -/
  error : Bool
  /-- The grammar assumed the node, which is not in the source. -/
  missing : Bool
  /-- There is an error or an assumed node at or below this node. -/
  faulty : Bool
deriving DecidableEq, Repr

end ConcreteTree

/-- A tree as a grammar makes it. -/
structure ConcreteTree where
  label : ConcreteTree.Label
  children : List ConcreteTree
deriving Repr

/-- A grammar makes trees of sources; it may give up on one. -/
abbrev Grammar := List Char → Option ConcreteTree

end TreeScribe
