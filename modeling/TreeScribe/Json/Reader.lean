import TreeScribe.Json.Number

/-!
# Reading JSON from its tokens

The tokens of a text are read one by one with a stack of open brackets.  Strict text puts exactly
one comma between two items.  Relaxed text may leave it out, may put one behind the last item, and
may write the keys of an object as words or numbers.
-/

namespace TreeScribe.Json

/-- A token of JSON text.  A string is `whole` unless an escape left half of a surrogate pair in
it. -/
inductive Token
  | openBrace
  | closeBrace
  | openBracket
  | closeBracket
  | comma
  | colon
  | null
  | bool (b : Bool)
  | string (s : String) (whole : Bool)
  | number (written : List Char)
  | word (s : String)
deriving DecidableEq, Repr

/-- What is read of an open bracket, the last item first. -/
inductive Opened
  | items (done : List Json)
  | entries (done : List (String × Json))
  /-- An object with a key that waits for its value. -/
  | entry (done : List (String × Json)) (key : String)

/-- What may come next. -/
inductive Place
  /-- A value must follow. -/
  | value
  /-- A bracket has just been opened. -/
  | first
  /-- A comma was read. -/
  | next
  /-- An item was read. -/
  | rest
  /-- A key was read. -/
  | colon
  /-- The value is complete, and nothing may follow. -/
  | complete (v : Json)

/-- The open brackets, innermost first, and what may come next. -/
structure Reading where
  opened : List Opened
  place : Place

namespace Reading

/-- Nothing is read yet. -/
def start : Reading := ⟨[], .value⟩

/-- Puts a complete value where it belongs. -/
def put (v : Json) : List Opened → Option Reading
  | [] => some ⟨[], .complete v⟩
  | .items done :: outer => some ⟨.items (v :: done) :: outer, .rest⟩
  | .entry done key :: outer => some ⟨.entries ((key, v) :: done) :: outer, .rest⟩
  | .entries _ :: _ => none

/-- Reads a token that begins a value. -/
def begin (opened : List Opened) : Token → Option Reading
  | .openBrace => some ⟨.entries [] :: opened, .first⟩
  | .openBracket => some ⟨.items [] :: opened, .first⟩
  | .null => put .null opened
  | .bool b => put (.bool b) opened
  | .string s _ => put (.string s) opened
  | .number written => put (numberValue written) opened
  | _ => none

/-- The key that a token writes. -/
def key? (relaxed : Bool) : Token → Option String
  | .string s whole => if whole then some s else none
  | .word s => if relaxed then some s else none
  | .number written => if relaxed then some (String.ofList written) else none
  | _ => none

/-- Reads a token inside a bracket: its closing, or the begin of its next item. -/
def inside (relaxed : Bool) : List Opened → Token → Option Reading
  | .items done :: outer, t =>
    if t = .closeBracket then put (.array done.reverse) outer else begin (.items done :: outer) t
  | .entries done :: outer, t =>
    if t = .closeBrace then put (.object done.reverse) outer
    else (key? relaxed t).map fun key => ⟨.entry done key :: outer, .colon⟩
  | _, _ => none

/-- Whether a token closes a bracket. -/
def closes (t : Token) : Bool := t == .closeBrace || t == .closeBracket

/-- Reads one token. -/
def step (relaxed : Bool) (r : Reading) (t : Token) : Option Reading :=
  match r.place with
  | .value => begin r.opened t
  | .colon => if t = .colon then some ⟨r.opened, .value⟩ else none
  | .first => inside relaxed r.opened t
  | .next => if relaxed ∨ !closes t then inside relaxed r.opened t else none
  | .rest =>
    if t = .comma then some ⟨r.opened, .next⟩
    else if relaxed ∨ closes t then inside relaxed r.opened t
    else none
  | .complete _ => none

/-- The value that was read, when it is complete. -/
def value? (r : Reading) : Option Json :=
  match r.place with
  | .complete v => some v
  | _ => none

end Reading

/-- The value that tokens write. -/
def ofTokens? (relaxed : Bool) (tokens : List Token) : Option Json :=
  (tokens.foldlM (Reading.step relaxed) .start).bind Reading.value?

end TreeScribe.Json
