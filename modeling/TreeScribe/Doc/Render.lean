import TreeScribe.Doc
import TreeScribe.Overflow

/-!
# Rendering documents

A document is rendered in one pass under the sum of the indents around it.  Every line break of its
leading text, of its own line break and of its separator is followed by that sum and its own indent
in spaces; its tail is indented by the documents around it alone.  The leading text of a verbatim
document comes out as it is.

Indents are 64-bit words: `render?` refuses a document in which the sum on the way to some node
leaves the word, whether or not there is a line break to indent.
-/

namespace TreeScribe.Doc

/-- Follows each line break with `indent` spaces. -/
def indented (indent : Nat) : List Char → List Char
  | [] => []
  | c :: cs =>
    if c = '\n' then '\n' :: (List.replicate indent ' ' ++ indented indent cs)
    else c :: indented indent cs

/-- A text that stands only before something. -/
def before (s body : List Char) : List Char := if body = [] then [] else s

mutual

/-- The text of a document under indents that add up to `outer`. -/
def renderAt (outer : Nat) : Doc → List Char
  | ⟨lead, children, layout, _, verbatim⟩ =>
    let indent := outer + layout.indent
    let body := renderAllAt indent children
    (if verbatim then lead else indented indent lead) ++
      (if layout.newline then indented indent ['\n'] else []) ++
      before (indented indent (layout.separator?.getD [])) body ++
      body ++
      indented outer (layout.tail?.getD [])

/-- The texts of documents one behind the other. -/
def renderAllAt (outer : Nat) : List Doc → List Char
  | [] => []
  | d :: ds => d.renderAt outer ++ renderAllAt outer ds

end

/-- The text of a document. -/
def render (d : Doc) : List Char := d.renderAt 0

/-! ## Bounded indents -/

/-- Indents are below this bound. -/
def indentLimit : Nat := 0x10000000000000000

mutual

/-- Whether all sums of indents inside a document under `outer` are words. -/
def fitsAt (outer : Nat) : Doc → Bool
  | ⟨_, children, layout, _, _⟩ =>
    decide (outer + layout.indent < indentLimit) && fitAllAt (outer + layout.indent) children

/-- Whether all sums of indents inside documents under `outer` are words. -/
def fitAllAt (outer : Nat) : List Doc → Bool
  | [] => true
  | d :: ds => d.fitsAt outer && fitAllAt outer ds

end

/-- The text of a document whose sums of indents are words. -/
def render? (d : Doc) : Except Overflow (List Char) :=
  if d.fitsAt 0 then .ok d.render else .error .addition

end TreeScribe.Doc
