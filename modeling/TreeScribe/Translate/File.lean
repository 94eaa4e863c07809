import TreeScribe.Directory
import TreeScribe.Translate

/-!
# Translating files

A file of a directory is read as text and then translated.
-/

namespace TreeScribe.Directory

/-- The document of the file under a path. -/
def translate (d : Directory) (parser : Parser) (path : String) (scheme : Scheme) : Traced Doc :=
  match d.read path with
  | .error e => .fail (.unreadable path e.message)
  | .ok text => (SourceFile.mk path text.toList).translate parser scheme

end TreeScribe.Directory
