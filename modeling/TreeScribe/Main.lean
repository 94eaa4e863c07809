import TreeScribe.Command
import TreeScribe.ConcreteTree.Rows

/-!
# The program

Reads from the disk what the arguments name and runs the command on it.  The grammar is not part of
the program: the concrete tree of the file is read, as rows, from the first line of standard input.
-/

namespace TreeScribe

/-- What stands at a place of the disk. -/
def probe (place : Directory.Place) : IO (Option (Directory.Place × Directory.Entry)) := do
  try
    let bytes ← IO.FS.readBinFile (Path.ofPlace place)
    return some (place, .file bytes)
  catch
    | .inappropriateType .. => return some (place, .directory)
    | _ => return none

/-- The part of the disk that paths lead through. -/
def survey (paths : List String) : IO Directory := do
  let current ← IO.currentDir
  let d : Directory := ⟨Path.components current.toString, []⟩
  let places := paths.flatMap fun path => Directory.passed (d.startOf path) (Path.parts path)
  let entries ← places.eraseDups.filterMapM probe
  return { d with entries }

/-- The grammar that knows the tree on standard input. -/
def givenGrammar : IO Grammar := do
  let line ← (← IO.getStdin).getLine
  let tree? := ConcreteTree.ofText? line.toList
  return fun _ => tree?

/-- What the command leaves behind on this disk.  Arguments that ask for no run read nothing. -/
def outcomeOf (arguments : List String) : IO Outcome := do
  match Arguments.read arguments with
  | .ok a => return Command.run (← givenGrammar) (← survey (Command.inputs a)) arguments
  | .error _ => return Command.run (fun _ => none) ⟨[], []⟩ arguments

end TreeScribe

/-- Runs the command and prints what it leaves behind. -/
def main (arguments : List String) : IO UInt32 := do
  let outcome ← TreeScribe.outcomeOf arguments
  IO.print outcome.output
  return UInt32.ofNat outcome.code
