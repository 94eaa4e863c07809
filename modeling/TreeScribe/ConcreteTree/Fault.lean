import TreeScribe.ConcreteTree
import TreeScribe.Failure
import TreeScribe.Span

/-!
# Syntax errors

The syntax error of a source is the first node, parents before children, that is an error or was
assumed.  The search enters only nodes that are marked as faulty.
-/

namespace TreeScribe.ConcreteTree

mutual

/-- The first error or assumed node at or below a node. -/
def firstFault? : ConcreteTree → Option Label
  | ⟨l, children⟩ =>
    if l.error || l.missing then some l
    else if l.faulty then firstFaultAmong? children
    else none

/-- The first error or assumed node in a list of trees. -/
def firstFaultAmong? : List ConcreteTree → Option Label
  | [] => none
  | t :: ts => t.firstFault?.or (firstFaultAmong? ts)

end

/-- How many characters of the source a message shows. -/
def shownLength : Nat := 20

/-- The error that a faulty node stands for. -/
def Label.toError (l : Label) (source : List Char) : ParseError :=
  let message :=
    if l.missing then "missing `" ++ l.kind ++ "`"
    else
      let shown := (Span.slice ⟨l.start, l.stop⟩ source).take shownLength
      "syntax error near `" ++ String.ofList shown ++ "`"
  .invalidSource message (some l.start)

end TreeScribe.ConcreteTree
