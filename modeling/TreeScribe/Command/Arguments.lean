import TreeScribe.Target

/-!
# Command-line arguments

Arguments are read from left to right: a file, flags, and settings with a value.  The first fault,
or the first request for the version or for help, ends the reading.  A setting takes its value
from its own argument or else from the next one, which must not look like a flag.
-/

namespace TreeScribe

/-- What the arguments ask for. -/
structure Arguments where
  file : String
  target? : Option Target
  config? : Option String
  strict : Bool
  emitAst : Bool
  verbose : Bool
deriving DecidableEq, Repr

namespace Arguments

/-- Why arguments do not ask for a run. -/
inductive Stop
  | usage
  | version
  | help
deriving DecidableEq, Repr

/-- A setting with a value. -/
inductive Setting
  | target
  | config
deriving DecidableEq, Repr

/-- An option without a value. -/
inductive Flag
  | python
  | strict
  | emitAst
  | verbose
  | version
  | help
deriving DecidableEq, Repr

/-- An option of either sort. -/
abbrev Opt := Setting ⊕ Flag

/-- The options by their long names. -/
def longNames : List (List Char × Opt) :=
  [("target".toList, .inl .target), ("config".toList, .inl .config),
    ("python".toList, .inr .python), ("strict".toList, .inr .strict),
    ("emit-ast".toList, .inr .emitAst), ("verbose".toList, .inr .verbose),
    ("version".toList, .inr .version), ("help".toList, .inr .help)]

/-- The options by their letters. -/
def letters : List (Char × Opt) :=
  [('t', .inl .target), ('c', .inl .config), ('p', .inr .python), ('v', .inr .verbose),
    ('V', .inr .version), ('h', .inr .help)]

/-- What is read so far.  A setting that waits for its value is `pending?`; behind `--` there are
`onlyFiles`. -/
structure Reading where
  file? : Option String
  target? : Option Target
  config? : Option String
  flags : List Flag
  pending? : Option Setting
  onlyFiles : Bool
deriving DecidableEq, Repr

namespace Reading

/-- Nothing is read yet. -/
def start : Reading := ⟨none, none, none, [], none, false⟩

/-- Reads a file: there is one, and its path is not empty. -/
def addFile (r : Reading) (path : String) : Except Stop Reading :=
  if path = "" ∨ r.file?.isSome then .error .usage else .ok { r with file? := some path }

/-- Reads a flag, which may not come again. -/
def addFlag (r : Reading) : Flag → Except Stop Reading
  | .version => .error .version
  | .help => .error .help
  | flag => if flag ∈ r.flags then .error .usage else .ok { r with flags := flag :: r.flags }

/-- Reads the value of a setting, which may not be set again. -/
def set (r : Reading) (value : String) : Setting → Except Stop Reading
  | .target =>
    match Target.ofName? value with
    | some t =>
      if r.target?.isSome then .error .usage else .ok { r with target? := some t, pending? := none }
    | none => .error .usage
  | .config =>
    if value = "" ∨ r.config?.isSome then .error .usage
    else .ok { r with config? := some value, pending? := none }

/-- Reads the letters behind a hyphen.  The first setting among them takes what is left for its
value, an equals sign in front of it apart. -/
def addLetters (r : Reading) : List Char → Except Stop Reading
  | [] => .ok r
  | c :: cs =>
    match letters.lookup c with
    | none => .error .usage
    | some (.inr flag) => do (← r.addFlag flag).addLetters cs
    | some (.inl setting) =>
      if cs = [] then .ok { r with pending? := some setting }
      else r.set (String.ofList (if cs.head? = some '=' then cs.drop 1 else cs)) setting

/-- Reads a long option, read behind its hyphens; its value stands behind an equals sign. -/
def addLong (r : Reading) (cs : List Char) : Except Stop Reading :=
  let name := cs.takeWhile (· != '=')
  let value? := if name.length < cs.length then some (cs.drop (name.length + 1)) else none
  match longNames.lookup name, value? with
  | none, _ => .error .usage
  | some (.inr flag), none => r.addFlag flag
  | some (.inr _), some _ => .error .usage
  | some (.inl setting), none => .ok { r with pending? := some setting }
  | some (.inl setting), some value => r.set (String.ofList value) setting

/-- Reads one argument. -/
def step (r : Reading) (argument : String) : Except Stop Reading :=
  match r.pending?, argument.toList with
  | some setting, cs =>
    if cs.head? = some '-' ∧ cs ≠ ['-'] then .error .usage else r.set argument setting
  | none, '-' :: c :: cs =>
    if r.onlyFiles then r.addFile argument
    else if c = '-' then if cs = [] then .ok { r with onlyFiles := true } else r.addLong cs
    else r.addLetters (c :: cs)
  | none, _ => r.addFile argument

/-- What the arguments ask for, once all are read: no setting waits for its value, there is a
file, and the target is chosen at most once. -/
def finish (r : Reading) : Except Stop Arguments :=
  match r.pending?, r.file? with
  | none, some file =>
    let python := r.flags.contains .python
    if python && r.target?.isSome then .error .usage
    else
      .ok {
        file
        target? := if python then some .python else r.target?
        config? := r.config?
        strict := r.flags.contains .strict
        emitAst := r.flags.contains .emitAst
        verbose := r.flags.contains .verbose }
  | _, _ => .error .usage

end Reading

/-- What a list of arguments asks for. -/
def read (arguments : List String) : Except Stop Arguments := do
  (← arguments.foldlM Reading.step .start).finish

end Arguments

end TreeScribe
