import TreeScribe.Command.Arguments
import TreeScribe.Config.File
import TreeScribe.Doc.Render
import TreeScribe.Json.Printer
import TreeScribe.Node.Json
import TreeScribe.Translate.File

/-!
# The command

A run reads its configuration, then its file, and prints one text and a line break: the document of
the file, or its syntax tree as JSON.  A run that fails prints nothing.

The exit code is 2 for a run that fails and for arguments that ask for none.  It is 1 for a strict
run in whose document some syntax was not understood, and else 0.
-/

namespace TreeScribe

/-- What the command leaves behind. -/
structure Outcome where
  code : Nat
  output : String
deriving DecidableEq, Repr

namespace Command

/-- The text behind the version flag. -/
def version : String := "tsxlate 0.1.0"

/-- The text behind the help flag. -/
def usage : String := "Usage: tsxlate [OPTIONS] <FILE>"

/-- Nothing but an exit code. -/
def failure : Outcome := ⟨2, ""⟩

/-- A text and a line break. -/
def success (code : Nat) (text : String) : Outcome := ⟨code, text ++ "\n"⟩

/-- The configuration file in force: the one that is asked for, or the one in the directory. -/
def configPath? (d : Directory) (a : Arguments) : Option String :=
  match a.config? with
  | some path => some path
  | none => Config.discover? d ""

/-- The paths that a run may read. -/
def inputs (a : Arguments) : List String :=
  a.file ::
    match a.config? with
    | some path => [path]
    | none => Config.fileNames

/-- The configuration in force, before flags change it. -/
def baseConfig (d : Directory) (a : Arguments) : Traced Config :=
  match configPath? d a with
  | some path => Config.load d path
  | none => pure .standard

/-- A configuration with the changes that flags ask for. -/
def adjusted (a : Arguments) (c : Config) : Config :=
  ⟨a.target?.getD c.target, a.strict || c.strict⟩

/-- The syntax tree of the file under a path, as JSON text. -/
def astText (d : Directory) (parser : Parser) (path : String) : Traced (List Char) :=
  match d.read path with
  | .error e => .fail (.unreadable path e.message)
  | .ok text => do
    let root ← .ofExcept ((parser.parse text.toList).mapError .parse)
    pure root.toJson.pretty

/-- The exit code of a run that prints a document. -/
def exitCode (c : Config) (doc : Doc) : Nat := if c.strict && doc.unknownCount != 0 then 1 else 0

/-- Runs with arguments that ask for a run. -/
def runWith (grammar : Grammar) (d : Directory) (a : Arguments) : Traced Outcome := do
  let config := adjusted a (← baseConfig d a)
  let parser := Parser.typeScript grammar
  if a.emitAst then
    let text ← astText d parser a.file
    pure (success 0 (String.ofList text))
  else
    let doc ← d.translate parser a.file config.target.scheme
    pure (success (exitCode config doc) (String.ofList doc.render))

/-- Runs the command in a directory. -/
def run (grammar : Grammar) (d : Directory) (arguments : List String) : Outcome :=
  match Arguments.read arguments with
  | .error .usage => failure
  | .error .version => success 0 version
  | .error .help => success 0 usage
  | .ok a =>
    match (runWith grammar d a).outcome with
    | .ok outcome => outcome
    | .error _ => failure

end Command

end TreeScribe
