import TreeScribe.Json.Quote
import TreeScribe.Proofs.Text.Hexadecimal
import TreeScribe.Proofs.Text.Utf16
import TreeScribe.Text.Literal

/-!
# Spellings

A character can be spelled in a literal in many ways: as itself, by a letter, by its number, or by
the two halves of its UTF-16 form.  Spellings stand one behind the other, with line continuations
among them.  Main statement: whatever the spellings are, the value of the literal is what they spell
(`value_eq_of_spells`); one way to spell a text is its JSON form.  So what a literal denotes is what
it spells, if it spells anything (`denotes_iff`).
-/

namespace TreeScribe.Literal

open TreeScribe.Text

/-! ## Spellings -/

/-- The letters that stand behind a backslash for another character. -/
def shortEscapes : List (Char × Char) :=
  [('n', '\n'), ('t', '\t'), ('r', '\r'), ('b', '\x08'), ('f', '\x0C'), ('v', '\x0B')]

/-- What cannot stand for itself behind a backslash: letters and digits with a meaning of their own,
and line terminators. -/
def reserved : List Char :=
  ['n', 't', 'r', 'b', 'f', 'v', '0', 'x', 'u', '\n', '\r', '\u2028', '\u2029']

/-- What continues a line behind a backslash. -/
def lineEnds : List (List Char) := [['\n'], ['\r', '\n'], ['\u2028'], ['\u2029']]

/-- The ways to spell a character in a literal that goes on with `behind`. -/
inductive Spelling (behind : List Char) : Char → List Char → Prop
  | itself {c : Char} (hc : c ≠ '\\') : Spelling behind c [c]
  | short {letter c : Char} (hletter : (letter, c) ∈ shortEscapes) :
      Spelling behind c ['\\', letter]
  | nul (hbehind : ∀ c ∈ behind.head?, ¬('0' ≤ c ∧ c ≤ '9')) : Spelling behind '\x00' ['\\', '0']
  | escaped {c : Char} (hc : c ∉ reserved) : Spelling behind c ['\\', c]
  | byte {c : Char} {digits : List Char} (hdigits : HexNumeral digits c.toNat)
      (hlength : digits.length = 2) : Spelling behind c ('\\' :: 'x' :: digits)
  | unit {c : Char} {digits : List Char} (hdigits : HexNumeral digits c.toNat)
      (hlength : digits.length = 4) : Spelling behind c ('\\' :: 'u' :: digits)
  | pair {c : Char} {high low : List Char} (hc : 0x10000 ≤ c.toNat)
      (hhigh : HexNumeral high (0xD800 + (c.toNat - 0x10000) / 0x400))
      (hhighLength : high.length = 4)
      (hlow : HexNumeral low (0xDC00 + (c.toNat - 0x10000) % 0x400))
      (hlowLength : low.length = 4) :
      Spelling behind c ('\\' :: 'u' :: (high ++ '\\' :: 'u' :: low))
  | braced {c : Char} {digits : List Char} (hdigits : HexNumeral digits c.toNat)
      (hpos : 1 ≤ digits.length) (hlength : digits.length ≤ 6) :
      Spelling behind c ('\\' :: 'u' :: '{' :: (digits ++ ['}']))

/-- The text inside a literal spells a value: each character in order, with line continuations
anywhere among them. -/
inductive Spells : List Char → List Char → Prop
  | nil : Spells [] []
  | char {c : Char} {spelling behind value : List Char} (hc : Spelling behind c spelling)
      (hbehind : Spells behind value) : Spells (spelling ++ behind) (c :: value)
  | continuation {lineEnd behind value : List Char} (hline : lineEnd ∈ lineEnds)
      (hbehind : Spells behind value) : Spells ('\\' :: (lineEnd ++ behind)) value

/-! ## Escapes, one by one -/

section Escapes

variable {behind digits : List Char} {c : Char} {n : Nat}

theorem escape_short {letter : Char} (h : (letter, c) ∈ shortEscapes) :
    escape (letter :: behind) = ([c], 1) := by
  have hall : ∀ p ∈ shortEscapes, letterEscapes.lookup p.1 = some p.2 := by decide
  have hlookup : letterEscapes.lookup letter = some c := hall (letter, c) h
  simp only [escape, hlookup]

theorem escape_nul (h : ∀ c ∈ behind.head?, ¬('0' ≤ c ∧ c ≤ '9')) :
    escape ('0' :: behind) = (['\x00'], 1) := by
  have hlookup : letterEscapes.lookup '0' = none := by decide
  have hdigit : (behind.head?.map Char.isDigit).getD false = false := by
    cases hhead : behind.head? with
    | none => rfl
    | some c =>
      have hc := h c hhead
      rw [Option.map_some, Option.getD_some, Bool.eq_false_iff]
      intro hdigit
      exact hc (by simpa [Char.isDigit, Char.le_def] using hdigit)
  simp [escape, hlookup, hdigit]

theorem escape_itself (h : c ∉ reserved) : escape (c :: behind) = ([c], 1) := by
  simp only [reserved, List.mem_cons, List.not_mem_nil, or_false, not_or] at h
  have hlookup : letterEscapes.lookup c = none := by
    simp [letterEscapes, List.lookup_eq_none_iff, h]
  simp [escape, hlookup, h]

theorem escape_lineEnd {lineEnd : List Char} (h : lineEnd ∈ lineEnds) :
    escape (lineEnd ++ behind) = ([], lineEnd.length) := by
  simp only [lineEnds, List.mem_cons, List.not_mem_nil, or_false] at h
  rcases h with rfl | rfl | rfl | rfl <;> rfl

theorem escape_byte (hdigits : HexNumeral digits c.toNat) (hlength : digits.length = 2) :
    escape ('x' :: (digits ++ behind)) = ([c], 3) := by
  have hlookup : letterEscapes.lookup 'x' = none := by decide
  simp [escape, hlookup, hdigits.hexHead?_append hlength, scalar_toNat]

/-- Four digits are read as a Unicode escape. -/
theorem unicodeEscape?_digits (hdigits : HexNumeral digits n) (hlength : digits.length = 4)
    (behind : List Char) : unicodeEscape? (digits ++ behind) = some (n, digits.length) := by
  rw [hlength]
  cases digits with
  | nil => simp at hlength
  | cons d ds =>
    have hd : d ≠ '{' := by
      rintro rfl
      exact absurd (hdigits.isHexDigit '{' (List.mem_cons_self ..)) (by decide)
    have hhead := hdigits.hexHead?_append hlength behind
    rw [List.cons_append] at hhead ⊢
    rw [unicodeEscape?, hhead, Option.map_some]
    simpa using hd

/-- Digits between braces are read as a Unicode escape, if there are not more than six. -/
theorem unicodeEscape?_braced (hdigits : HexNumeral digits n) (hpos : 1 ≤ digits.length)
    (behind : List Char) :
    unicodeEscape? (('{' :: (digits ++ ['}'])) ++ behind) =
      if digits.length ≤ 6 then some (n, ('{' :: (digits ++ ['}'])).length) else none := by
  have htake : (digits ++ '}' :: behind).takeWhile isHexDigit = digits := by
    have hbrace : isHexDigit '}' = false := by decide
    rw [List.takeWhile_append_of_pos hdigits.isHexDigit, List.takeWhile_cons]
    simp [hbrace]
  have hne : digits ≠ [] := List.ne_nil_of_length_pos hpos
  simp [unicodeEscape?, htake, hne, hdigits.hex?_eq]

/-- A Unicode escape stands for the character of its number, which may take the next escape with
it. -/
theorem escape_unicode {spelling : List Char} {more : Nat}
    (hread : unicodeEscape? (spelling ++ behind) = some (n, spelling.length))
    (hunit : unit n behind = (c, more)) :
    escape ('u' :: (spelling ++ behind)) = ([c], spelling.length + more + 1) := by
  have hlookup : letterEscapes.lookup 'u' = none := by decide
  have hused : 1 + spelling.length + more = spelling.length + more + 1 := by omega
  simp [escape, hlookup, hread, hunit, hused]

/-- A number is read alone, unless it is a high surrogate with a low one behind it. -/
theorem unit_alone {rest : List Char}
    (h : isHighSurrogate n = true → lowSurrogateEscape? rest = none) :
    unit n rest = (scalar n, 0) := by
  cases hhigh : isHighSurrogate n with
  | false => simp [unit, hhigh]
  | true => simp [unit, hhigh, h hhigh]

/-- A high surrogate takes the low one with it that an escape writes behind it. -/
theorem unit_pair {high low : Nat} {rest : List Char} (hhigh : isHighSurrogate high = true)
    (hlow : lowSurrogateEscape? rest = some low) :
    unit high rest = (scalar (joinSurrogates high low), 6) := by
  simp only [unit, hhigh, if_true, hlow]

/-- The number of a character is no half of a pair. -/
theorem unit_toNat (c : Char) (rest : List Char) : unit c.toNat rest = (c, 0) := by
  rw [unit_alone, scalar_toNat]
  intro hhigh
  rw [isHighSurrogate_toNat] at hhigh
  exact absurd hhigh Bool.false_ne_true

/-- Four digits are seen as a low surrogate if they write one. -/
theorem lowSurrogateEscape?_digits (hdigits : HexNumeral digits n) (hlength : digits.length = 4)
    (behind : List Char) :
    lowSurrogateEscape? ('\\' :: 'u' :: (digits ++ behind)) =
      if isLowSurrogate n then some n else none := by
  rw [lowSurrogateEscape?, hdigits.hexHead?_append hlength, Option.filter_some]

end Escapes

/-! ## Values -/

/-- An escape that uses up its text adds what it stands for. -/
theorem expand_escape (text : List Char) {behind meant : List Char}
    (h : escape (text ++ behind) = (meant, text.length)) :
    expand step 0 ('\\' :: (text ++ behind)) = meant ++ expand step 0 behind := by
  rw [expand, step, if_pos rfl, h, expand_skip, List.drop_left]

/-- **Each spelling is used up**, and stands for its character whatever is behind it. -/
theorem expand_spelling {behind spelling : List Char} {c : Char} (h : Spelling behind c spelling) :
    expand step 0 (spelling ++ behind) = c :: expand step 0 behind := by
  cases h with
  | itself hc => rw [List.singleton_append, expand, step, if_neg hc, List.singleton_append]
  | short hletter => exact expand_escape [_] (escape_short hletter)
  | nul hbehind => exact expand_escape ['0'] (escape_nul hbehind)
  | escaped hc => exact expand_escape [c] (escape_itself hc)
  | @byte _ digits hdigits hlength =>
    have hescape : escape (('x' :: digits) ++ behind) = ([c], ('x' :: digits).length) := by
      rw [List.length_cons, hlength]
      exact escape_byte hdigits hlength
    exact expand_escape _ hescape
  | @unit _ digits hdigits hlength =>
    have hread := unicodeEscape?_digits hdigits hlength behind
    exact expand_escape ('u' :: digits) (escape_unicode hread (unit_toNat c behind))
  | @pair _ high low hc hhigh hhighLength hlow hlowLength =>
    have hlt : c.toNat < 0x110000 := by
      have hvalid := toNat_valid c
      omega
    obtain ⟨hisHigh, hisLow, hjoin⟩ := joinSurrogates_halves hc hlt
    have hread := unicodeEscape?_digits hhigh hhighLength ('\\' :: 'u' :: (low ++ behind))
    have hseen := lowSurrogateEscape?_digits hlow hlowLength behind
    rw [if_pos hisLow] at hseen
    have hunit := unit_pair hisHigh hseen
    rw [hjoin, scalar_toNat] at hunit
    have hescape : escape ('u' :: (high ++ '\\' :: 'u' :: low) ++ behind) =
        ([c], ('u' :: (high ++ '\\' :: 'u' :: low)).length) := by
      simpa [hlowLength] using escape_unicode hread hunit
    exact expand_escape _ hescape
  | @braced _ digits hdigits hpos hlength =>
    have hread := unicodeEscape?_braced hdigits hpos behind
    rw [if_pos hlength] at hread
    exact expand_escape ('u' :: '{' :: (digits ++ ['}']))
      (escape_unicode hread (unit_toNat c behind))

/-- The value of the text inside a literal is what it spells. -/
theorem expand_spells {text value : List Char} (h : Spells text value) :
    expand step 0 text = value := by
  induction h with
  | nil => rfl
  | char hc _ ih => rw [expand_spelling hc, ih]
  | continuation hline _ ih => rw [expand_escape _ (escape_lineEnd hline), List.nil_append, ih]

/-! ## Literals -/

/-- The quotes around a text are taken off, whatever quotes there are in it. -/
theorem inside_quoted {quote : Char} (hquote : isQuote quote = true) (text : List Char) :
    inside (quote :: (text ++ [quote])) = text := by
  simp [inside, hquote]

/-- The quotes that can stand around a literal. -/
def quoteMarks : List Char := ['"', '\'', '\x60']

/-- A spelling between quotes has the value that it spells. -/
theorem value_of_spells {quote : Char} (hquote : quote ∈ quoteMarks) {text s : List Char}
    (htext : Spells text s) : value (quote :: (text ++ [quote])) = s := by
  have hisQuote : ∀ c ∈ quoteMarks, isQuote c = true := by simp [quoteMarks, isQuote]
  rw [value, inside_quoted (hisQuote quote hquote), expand_spells htext]

/-- What a text denotes as a literal: what it spells between its quotes.  A text that spells nothing
denotes the value that is read from it. -/
inductive Denotes : List Char → List Char → Prop
  | spelled {quote : Char} (hquote : quote ∈ quoteMarks) {text s : List Char}
      (htext : Spells text s) : Denotes (quote :: (text ++ [quote])) s
  | unspelled {raw : List Char}
      (hraw : ∀ quote ∈ quoteMarks, ∀ text s, Spells text s → raw ≠ quote :: (text ++ [quote])) :
      Denotes raw (value raw)

/-- Every text denotes one value. -/
theorem denotes_iff {raw s : List Char} : Denotes raw s ↔ value raw = s := by
  constructor
  · rintro (⟨hquote, htext⟩ | hraw)
    · exact value_of_spells hquote htext
    · rfl
  · rintro rfl
    by_cases hspelled : ∃ quote ∈ quoteMarks, ∃ text s, Spells text s ∧
        raw = quote :: (text ++ [quote])
    · obtain ⟨quote, hquote, text, s, htext, rfl⟩ := hspelled
      rw [value_of_spells hquote htext]
      exact .spelled hquote htext
    · refine .unspelled fun quote hquote text s htext hraw => ?_
      exact hspelled ⟨quote, hquote, text, s, htext, hraw⟩

/-- The JSON form of a character is one of its spellings. -/
theorem spelling_escaped (behind : List Char) (c : Char) :
    Spelling behind c (Json.escaped c) := by
  rcases Json.escaped_cases c with ⟨letter, hletter, hc⟩ | ⟨hcontrol, hc⟩ | ⟨-, hbackslash, -, hc⟩
  · rw [hc]
    simp only [Json.letterFor, List.mem_cons, List.not_mem_nil, or_false, Prod.mk.injEq] at hletter
    rcases hletter with ⟨rfl, rfl⟩ | ⟨rfl, rfl⟩ | ⟨rfl, rfl⟩ | ⟨rfl, rfl⟩ | ⟨rfl, rfl⟩ |
      ⟨rfl, rfl⟩ | ⟨rfl, rfl⟩
    · exact .escaped (by decide)
    · exact .escaped (by decide)
    all_goals exact .short (by decide)
  · rw [hc]
    exact .unit (hexNumeral_byte (by omega)) rfl
  · rw [hc]
    exact .itself hbackslash

/-- The JSON form of a text spells it. -/
theorem spells_flatMap_escaped (text : List Char) : Spells (text.flatMap Json.escaped) text := by
  induction text with
  | nil => exact .nil
  | cons c text ih =>
    rw [List.flatMap_cons]
    exact .char (spelling_escaped _ c) ih

/-- The value of a text's JSON form is the text. -/
theorem value_quote (text : List Char) : value (Json.quote text) = text := by
  have hquote : isQuote '"' = true := by decide
  rw [value, Json.quote, List.cons_append, inside_quoted hquote,
    expand_spells (spells_flatMap_escaped text)]

/-- **A literal has the value that it spells**, between quotes of any sort and in whatever way each
character is spelled.  In particular the JSON form of a text has that text as its value. -/
theorem value_eq_of_spells :
    (∀ quote ∈ ['"', '\'', '\x60'], ∀ text s, Spells text s →
      value (quote :: (text ++ [quote])) = s) ∧
    ∀ s, value (Json.quote s) = s := by
  refine ⟨?_, value_quote⟩
  intro quote hquote text s htext
  exact value_of_spells hquote htext

/-- A literal in which neighbours could be taken for one escape: zeros behind a continuation, the
halves of a character in digits of both cases in front of the same character between braces, an
escape that stands for its own letter, and its own quote. -/
def crowdedText : List Char :=
  ['\\', '0', '\\', '\r', '\n', '0', '\\', 'u', 'D', '8', '3', 'd', '\\', 'u', 'd', 'E', '0', '0',
    '\\', 'u', '{', '0', '1', 'f', '6', '0', '0', '}', '\\', 'x', '4', '1', '\\', 'q', '"',
    '\\', 'n']

theorem spells_crowdedText :
    Spells crowdedText ['\x00', '0', '😀', '😀', 'A', 'q', '"', '\n'] := by
  have hnumber : '😀'.toNat = 0x1F600 := by decide
  have hhigh : HexNumeral ['D', '8', '3', 'd'] (0xD800 + ('😀'.toNat - 0x10000) / 0x400) := by
    rw [hnumber]
    exact hexNumeral_map [('D', 13), ('8', 8), ('3', 3), ('d', 13)] (by decide)
  have hlow : HexNumeral ['d', 'E', '0', '0'] (0xDC00 + ('😀'.toNat - 0x10000) % 0x400) := by
    rw [hnumber]
    exact hexNumeral_map [('d', 13), ('E', 14), ('0', 0), ('0', 0)] (by decide)
  have hcode : HexNumeral ['0', '1', 'f', '6', '0', '0'] '😀'.toNat :=
    hexNumeral_map [('0', 0), ('1', 1), ('f', 15), ('6', 6), ('0', 0), ('0', 0)] (by decide)
  have hbyte : HexNumeral ['4', '1'] 'A'.toNat := hexNumeral_map [('4', 4), ('1', 1)] (by decide)
  refine .char (.nul (by simp)) ?_
  refine .continuation (List.mem_cons_of_mem _ (List.mem_cons_self ..)) ?_
  refine .char (.itself (by decide)) ?_
  refine .char (.pair (by decide) hhigh rfl hlow rfl) ?_
  refine .char (.braced hcode (by decide) (by decide)) ?_
  refine .char (.byte hbyte rfl) ?_
  refine .char (.escaped (by decide)) ?_
  refine .char (.itself (by decide)) ?_
  exact .char (.short (by decide)) .nil

/-- The literal has the value that it spells, and so has the JSON form of that value. -/
theorem value_eq_of_spells_crowdedText :
    '"' ∈ ['"', '\'', '\x60'] ∧
      Spells crowdedText ['\x00', '0', '😀', '😀', 'A', 'q', '"', '\n'] ∧
      value ('"' :: (crowdedText ++ ['"'])) = ['\x00', '0', '😀', '😀', 'A', 'q', '"', '\n'] ∧
      value (Json.quote ['\x00', '0', '😀', '😀', 'A', 'q', '"', '\n']) =
        ['\x00', '0', '😀', '😀', 'A', 'q', '"', '\n'] := by
  have hquote : '"' ∈ ['"', '\'', '\x60'] := by decide
  exact ⟨hquote, spells_crowdedText, value_eq_of_spells.1 _ hquote _ _ spells_crowdedText,
    value_eq_of_spells.2 _⟩

end TreeScribe.Literal
