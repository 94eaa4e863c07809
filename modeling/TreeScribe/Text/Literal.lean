import TreeScribe.Text.Code
import TreeScribe.Text.Scan

/-!
# Values of string literals

A literal stands between two equal quotes and may hold escapes.  An escape that names nothing keeps
the escaped character, and a malformed numeric escape keeps its letter and what follows.  Two
four-digit escapes that write a surrogate pair stand for one character; an unpaired surrogate stands
for the replacement character.
-/

namespace TreeScribe.Literal

open TreeScribe.Text

/-- The characters that can stand around a literal. -/
def isQuote (c : Char) : Bool := c == '"' || c == '\'' || c == '\x60'

/-- The text between the quotes; all of it when the text is not quoted. -/
def inside : List Char → List Char
  | [] => []
  | quote :: rest =>
    if rest.getLast? = some quote ∧ isQuote quote then rest.dropLast else quote :: rest

/-- The escapes of one letter, and what they stand for. -/
def letterEscapes : List (Char × Char) :=
  [('n', '\n'), ('t', '\t'), ('r', '\r'), ('b', '\x08'), ('f', '\x0C'), ('v', '\x0B')]

/-- The number of a Unicode escape, read behind its letter, and how many characters write it: four
digits, or up to six between braces. -/
def unicodeEscape? : List Char → Option (Nat × Nat)
  | '{' :: rest =>
    let digits := rest.takeWhile isHexDigit
    if digits ≠ [] ∧ digits.length ≤ 6 ∧ rest[digits.length]? = some '}' then
      (hex? digits).map (·, digits.length + 2)
    else none
  | rest => (hexHead? 4 rest).map (·, 4)

/-- The character of a number that an escape wrote, and how many further characters it takes:
those of the low surrogate escape, when the number is a high one and such an escape follows. -/
def unit (code : Nat) (rest : List Char) : Char × Nat :=
  match if isHighSurrogate code then lowSurrogateEscape? rest else none with
  | some low => (scalar (joinSurrogates code low), 6)
  | none => (scalar code, 0)

/-- What a backslash and the text behind it stand for, and how many characters of that text it
uses. -/
def escape : List Char → List Char × Nat
  | [] => (['\\'], 0)
  | c :: rest =>
    match letterEscapes.lookup c with
    | some meant => ([meant], 1)
    | none =>
      if c = '0' then
        if (rest.head?.map Char.isDigit).getD false then (['0'], 1) else (['\x00'], 1)
      else if c = '\n' ∨ c = '\u2028' ∨ c = '\u2029' then ([], 1)
      else if c = '\r' then ([], if rest.head? = some '\n' then 2 else 1)
      else if c = 'x' then
        match hexHead? 2 rest with
        | some code => ([scalar code], 3)
        | none => (['x'], 1)
      else if c = 'u' then
        match unicodeEscape? rest with
        | some (code, used) =>
          let (meant, more) := unit code (rest.drop used)
          ([meant], 1 + used + more)
        | none => (['u'], 1)
      else ([c], 1)

/-- What a character inside a literal stands for together with the text behind it. -/
def step (c : Char) (rest : List Char) : List Char × Nat :=
  if c = '\\' then escape rest else ([c], 0)

/-- The value of a literal. -/
def value (raw : List Char) : List Char := expand step 0 (inside raw)

end TreeScribe.Literal
