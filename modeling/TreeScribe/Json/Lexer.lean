import TreeScribe.Json.Quote
import TreeScribe.Json.Reader
import TreeScribe.Text.Alphanumeric
import TreeScribe.Text.Blank
import TreeScribe.Text.Scan

/-!
# Tokens of JSON text

Strict text is JSON proper.  Relaxed text adds comments, any Unicode white space, single-quoted
strings, line breaks inside strings, and words, which serve as keys.
-/

namespace TreeScribe.Json

open TreeScribe.Text

/-! ## Strings -/

/-- The text up to the closing quote, escapes as they are written; `behind` a backslash a quote does
not close. -/
def stringBody? (quoteMark : Char) (behind : Bool) : List Char → Option (List Char)
  | [] => none
  | c :: cs =>
    if c = quoteMark ∧ !behind then some []
    else (stringBody? quoteMark (c = '\\' && !behind) cs).map (c :: ·)

/-- What a backslash and the text behind it write: a character, or nothing for half of a pair, and
how many characters of that text it uses.  The letters beside `u` stand for one character each; a
quote can be escaped only where it would close the string. -/
def stringEscape? (quoteMark : Char) : List Char → Option (List (Option Char) × Nat)
  | 'u' :: cs =>
    (hexHead? 4 cs).map fun code =>
      match if isHighSurrogate code then lowSurrogateEscape? (cs.drop 4) else none with
      | some low => ([scalar? (joinSurrogates code low)], 11)
      | none => ([scalar? code], 5)
  | c :: _ =>
    if c = quoteMark then some ([some c], 1)
    else
      match ((letterFor.filter (·.2 != '"')).map Prod.swap ++ [('/', '/')]).lookup c with
      | some meant => some ([some meant], 1)
      | none => none
  | [] => none

/-- Reads one character of a string's body. -/
def stringStep? (relaxed : Bool) (quoteMark c : Char) (cs : List Char) :
    Option (List (Option Char) × Nat) :=
  if c = '\\' then stringEscape? quoteMark cs
  else if !relaxed ∧ c.toNat < 0x20 then none
  else some ([some c], 0)

/-- The token of a string, read behind its opening quote, and how many characters write it, both
quotes included.  Relaxed text allows no half of a surrogate pair. -/
def stringToken? (relaxed : Bool) (quoteMark : Char) (cs : List Char) : Option (Token × Nat) := do
  let body ← stringBody? quoteMark false cs
  let points ← scan? (stringStep? relaxed quoteMark) 0 body
  let whole := points.all Option.isSome
  if relaxed ∧ !whole then none
  return (.string (String.ofList (points.map (·.getD replacement))) whole, body.length + 2)

/-! ## Other tokens -/

/-- The tokens of one character. -/
def mark? (c : Char) : Option Token :=
  [('{', .openBrace), ('}', .closeBrace), ('[', .openBracket), (']', .closeBracket), (',', .comma),
    (':', Token.colon)].lookup c

/-- The names of values. -/
def names : List (List Char × Token) :=
  [("true".toList, .bool true), ("false".toList, .bool false), ("null".toList, .null)]

/-- The named value that a text opens with, and how many characters write it. -/
def name? (cs : List Char) : Option (Token × Nat) :=
  (names.find? fun (written, _) => written.isPrefixOf cs).map fun (written, t) =>
    (t, written.length)

/-- How many characters a comment takes, read behind its slash.  A line comment goes up to the line
break. -/
def commentLength? : List Char → Option Nat
  | '/' :: cs => some (1 + (cs.takeWhile (· != '\n')).length)
  | '*' :: cs => (blockLength? cs).map (1 + ·)
  | _ => none
where
  /-- How many characters a block comment takes up to its closing, which must come. -/
  blockLength? : List Char → Option Nat
    | '*' :: '/' :: _ => some 2
    | _ :: cs => (blockLength? cs).map (1 + ·)
    | [] => none

/-- The word that a text opens with: up to white space or a colon, of letters, numbers, hyphens and
underscores alone. -/
def word? (cs : List Char) : Option (Token × Nat) :=
  let written := cs.takeWhile fun c => !isBlank c && c != ':'
  if written ≠ [] ∧ written.all fun c => isAlphanumeric c || c == '-' || c == '_' then
    some (.word (String.ofList written), written.length)
  else none

/-! ## Whole texts -/

/-- A token, and how many characters it uses behind its first. -/
def emit (t : Token × Nat) : List Token × Nat := ([t.1], t.2 - 1)

/-- Reads strict text at one position. -/
def strictStep? (c : Char) (cs : List Char) : Option (List Token × Nat) :=
  if c = ' ' ∨ c = '\n' ∨ c = '\t' ∨ c = '\r' then some ([], 0)
  else
    match mark? c with
    | some t => some ([t], 0)
    | none =>
      if c = '"' then (stringToken? false '"' cs).map emit
      else if c = '-' ∨ c.isDigit then
        (number? false (c :: cs)).map fun written => emit (.number written, written.length)
      else (name? (c :: cs)).map emit

/-- Whether a token that `cs` opens with ends where no letter or number follows. -/
def standsAlone (cs : List Char) (t : Token × Nat) : Bool :=
  !((cs[t.2]?.map isAlphanumeric).getD false)

/-- Reads relaxed text at one position.  The name of a value ends before a letter or number. -/
def relaxedStep? (c : Char) (cs : List Char) : Option (List Token × Nat) :=
  if isBlank c then some ([], 0)
  else
    match mark? c with
    | some t => some ([t], 0)
    | none =>
      if c = '"' ∨ c = '\'' then (stringToken? true c cs).map emit
      else if c = '/' then (commentLength? cs).map fun used => ([], used)
      else if c = '-' ∨ c = '+' ∨ c.isDigit then
        (number? true (c :: cs)).map fun written => emit (.number written, written.length)
      else
        match (name? (c :: cs)).filter (standsAlone (c :: cs)) with
        | some t => some (emit t)
        | none => (word? (c :: cs)).map emit

/-- The tokens of strict text. -/
def strictTokens? (text : List Char) : Option (List Token) := scan? strictStep? 0 text

/-- The tokens of relaxed text. -/
def relaxedTokens? (text : List Char) : Option (List Token) := scan? relaxedStep? 0 text

/-- The value that strict text writes. -/
def parse? (text : List Char) : Option Json := (strictTokens? text).bind (ofTokens? false)

/-- The value that relaxed text writes, which may be none at all; the outer none is text that is not
well formed. -/
def parseRelaxed? (text : List Char) : Option (Option Json) :=
  (relaxedTokens? text).bind fun tokens =>
    if tokens = [] then some none else (ofTokens? true tokens).map some

end TreeScribe.Json
