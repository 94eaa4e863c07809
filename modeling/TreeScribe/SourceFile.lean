import TreeScribe.Path
import TreeScribe.Span

/-!
# Source files

A source file is a text with the path that names it in messages.
-/

namespace TreeScribe

/-- A text and its path. -/
structure SourceFile where
  path : String
  text : List Char
deriving DecidableEq, Repr

namespace SourceFile

/-- The text at a span. -/
def slice (f : SourceFile) (s : Span) : List Char := s.slice f.text

/-- The extension of the path. -/
def extension? (f : SourceFile) : Option String := Path.extension? f.path

end SourceFile

end TreeScribe
