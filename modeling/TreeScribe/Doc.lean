/-!
# Formatted documents

A document is a leading text, children and a layout.  Documents are built first and turned into text
in one pass by `Doc.render`, in `TreeScribe.Doc.Render`.
-/

namespace TreeScribe

/-- How a document is laid out. -/
structure Layout where
  /-- Break the line behind the leading text. -/
  newline : Bool
  /-- How many spaces follow each line break of the document, its tail apart. -/
  indent : Nat
  /-- What stands before the children, if they render to anything. -/
  separator? : Option (List Char)
  /-- What stands at the end. -/
  tail? : Option (List Char)
deriving DecidableEq, Repr

/-- No line break, no indent, no separator and no tail. -/
def Layout.none : Layout := ⟨false, 0, .none, .none⟩

/-- A formatted document.  An `unknown` document marks syntax that was not understood, which changes
nothing in its text.  The leading text of a `verbatim` document is never indented. -/
structure Doc where
  lead : List Char
  children : List Doc
  layout : Layout
  unknown : Bool
  verbatim : Bool
deriving BEq, Repr

namespace Doc

/-- A document without layout. -/
def plain (lead : List Char) (children : List Doc) : Doc := ⟨lead, children, .none, false, false⟩

/-- A text alone. -/
def text (s : List Char) : Doc := plain s []

/-- The empty document. -/
def empty : Doc := text []

/-- Documents one behind the other. -/
def concat (children : List Doc) : Doc := plain [] children

/-- A text that no indent changes. -/
def verbatimText (s : List Char) : Doc := { text s with verbatim := true }

/-- A document that marks syntax that was not understood. -/
def marked (lead : List Char) (children : List Doc) : Doc :=
  { plain lead children with unknown := true }

/-- The same document with a line break behind its leading text. -/
def withNewline (d : Doc) : Doc := { d with layout.newline := true }

/-- The same document with an indent. -/
def withIndent (d : Doc) (indent : Nat) : Doc := { d with layout.indent := indent }

/-- The same document with a separator. -/
def withSeparator (d : Doc) (s : List Char) : Doc := { d with layout.separator? := some s }

/-- The same document with a tail. -/
def withTail (d : Doc) (s : List Char) : Doc := { d with layout.tail? := some s }

mutual

/-- How many documents in `d`, itself included, mark syntax that was not understood. -/
def unknownCount : Doc → Nat
  | ⟨_, children, _, unknown, _⟩ => unknown.toNat + unknownCountAll children

/-- The marks in a list of documents. -/
def unknownCountAll : List Doc → Nat
  | [] => 0
  | d :: ds => d.unknownCount + unknownCountAll ds

end

end Doc

end TreeScribe
