import TreeScribe.Command
import TreeScribe.Command.Arguments
import TreeScribe.ConcreteTree
import TreeScribe.ConcreteTree.Classify
import TreeScribe.ConcreteTree.Fault
import TreeScribe.ConcreteTree.Reshape
import TreeScribe.ConcreteTree.Rows
import TreeScribe.Config
import TreeScribe.Config.File
import TreeScribe.Config.Reader
import TreeScribe.Decimal
import TreeScribe.Decimal.Double
import TreeScribe.Directory
import TreeScribe.Doc
import TreeScribe.Doc.Render
import TreeScribe.Failure
import TreeScribe.Json
import TreeScribe.Json.Lexer
import TreeScribe.Json.Number
import TreeScribe.Json.Printer
import TreeScribe.Json.Quote
import TreeScribe.Json.Reader
import TreeScribe.Kind
import TreeScribe.Main
import TreeScribe.Node
import TreeScribe.Node.Json
import TreeScribe.Overflow
import TreeScribe.Parser
import TreeScribe.Path
import TreeScribe.Preorder
import TreeScribe.Scheme
import TreeScribe.SourceFile
import TreeScribe.Span
import TreeScribe.Target
import TreeScribe.Text.Alphanumeric
import TreeScribe.Text.Blank
import TreeScribe.Text.Bytes
import TreeScribe.Text.Code
import TreeScribe.Text.CodeRange
import TreeScribe.Text.Literal
import TreeScribe.Text.Lowercase
import TreeScribe.Text.Scan
import TreeScribe.Text.Shown
import TreeScribe.Text.SnakeCase
import TreeScribe.Text.Uppercase
import TreeScribe.Traced
import TreeScribe.Translate
import TreeScribe.Translate.File
import TreeScribe.Proofs.ConcreteTree.Nodes
import TreeScribe.Proofs.Doc.BottomUp
import TreeScribe.Proofs.Node.Grouping
import TreeScribe.Proofs.ConcreteTree.Passes
import TreeScribe.Proofs.Node.Descendants
import TreeScribe.Proofs.Traced
import TreeScribe.Proofs.Translate.Visited
import TreeScribe.Proofs.Translate.Equation
import TreeScribe.Proofs.Translate.Success
import TreeScribe.Proofs.ConcreteTree.Conformance
import TreeScribe.Proofs.Translate.Conformant
import TreeScribe.Proofs.Text.Unbroken
import TreeScribe.Proofs.Doc.Lines
import TreeScribe.Proofs.Python.Statement
import TreeScribe.Proofs.Python.Layout
import TreeScribe.Proofs.Translate.Outcome
import TreeScribe.Proofs.Translate.Marked
import TreeScribe.Proofs.Translate.Assembly
import TreeScribe.Proofs.Text.InOrder
import TreeScribe.Proofs.Translate.Markers
import TreeScribe.Proofs.Translate.Log
import TreeScribe.Proofs.Node.Placed
import TreeScribe.Proofs.Outline.Text
import TreeScribe.Proofs.Outline.Layout
import TreeScribe.Proofs.Translate.Agreement
import TreeScribe.Proofs.Translate.Failure
import TreeScribe.Proofs.Target.Traversal
import TreeScribe.Proofs.ConcreteTree.Grouped
import TreeScribe.Proofs.Span.Nesting
import TreeScribe.Proofs.Span.Slice
import TreeScribe.Proofs.ConcreteTree.Nested
import TreeScribe.Proofs.ConcreteTree.Fault
import TreeScribe.Proofs.Literal.Spelling
import TreeScribe.Proofs.Command.Outcome
import TreeScribe.Proofs.Arguments.Changes
import TreeScribe.Proofs.Command.Interference
import TreeScribe.Proofs.Doc.Rewriting
import TreeScribe.Proofs.Text.Utf16
import TreeScribe.Proofs.Literal.Layout
import TreeScribe.Proofs.Literal.UnicodeEscape
import TreeScribe.Proofs.Doc.Pinned
import TreeScribe.Proofs.Translate.Tokens
import TreeScribe.Proofs.Translate.Pinned
import TreeScribe.Proofs.Text.Lowercase
import TreeScribe.Proofs.Text.SnakeCase
import TreeScribe.Proofs.Doc.Ways
import TreeScribe.Proofs.Json.Number
import TreeScribe.Proofs.Json.Quote
import TreeScribe.Proofs.Json.Tokens
import TreeScribe.Proofs.Json.Reading
import TreeScribe.Proofs.Json.Blanks
import TreeScribe.Proofs.Node.Written
