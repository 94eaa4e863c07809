import TreeScribe.ConcreteTree.Fault
import TreeScribe.ConcreteTree.Reshape

/-!
# Parsers

A parser makes syntax trees of sources.  It has a name for the log and the file extensions it is
meant for.  `Parser.typeScript` parses with a given grammar; `Parser.fixed` answers the same for
every source.
-/

namespace TreeScribe

/-- What makes syntax trees of sources. -/
structure Parser where
  name : String
  extensions : List String
  parse : List Char → Except ParseError Node

namespace Parser

/-- Whether the parser is meant for an extension; ASCII case does not matter. -/
def accepts (p : Parser) (extension : String) : Bool :=
  p.extensions.any fun e => e.toLower == extension.toLower

/-- The parser of TypeScript with the given grammar. -/
def typeScript (grammar : Grammar) : Parser where
  name := "typescript"
  extensions := ["ts", "mts", "cts", "js", "mjs", "cjs"]
  parse source :=
    match grammar source with
    | none => .error (.internal "tree-sitter returned no tree")
    | some tree =>
      match tree.firstFault? with
      | some fault => .error (fault.toError source)
      | none => .ok tree.toNode

/-- The parser that answers every source alike. -/
def fixed (name : String) (answer : Except ParseError Node) : Parser :=
  ⟨name, ["ts"], fun _ => answer⟩

end Parser

end TreeScribe
