import Mathlib.Data.List.SplitBy
import TreeScribe.Proofs.Literal.Spelling

/-!
# Unicode escapes

A literal made of Unicode escapes alone writes a sequence of UTF-16 units, each escape those of its
number.  Main statement: its value is what these units write, with two provisos
(`value_eq_utf16Decode`).  A low surrogate between braces is never joined to a high one in front of
it, and more than six digits between braces are no escape but stand for themselves, without the
backslash.
-/

namespace TreeScribe.Literal

open TreeScribe.Text

/-! ## Escapes -/

/-- A Unicode escape: four digits, or any number of them between braces, that write a number not
beyond Unicode. -/
inductive UnicodeEscape
  | short (digits : List Char) (code : Nat) (hdigits : HexNumeral digits code)
      (hlength : digits.length = 4)
  | braced (digits : List Char) (code : Nat) (hdigits : HexNumeral digits code)
      (hpos : 1 ≤ digits.length) (hcode : code < 0x110000)

namespace UnicodeEscape

/-- The number that the escape writes. -/
def code : UnicodeEscape → Nat
  | short _ code _ _ => code
  | braced _ code _ _ _ => code

/-- What stands behind the letter of the escape. -/
def numeral : UnicodeEscape → List Char
  | short digits _ _ _ => digits
  | braced digits _ _ _ _ => '{' :: (digits ++ ['}'])

/-- The escape as it is written in a literal. -/
def spelling (e : UnicodeEscape) : List Char := '\\' :: 'u' :: e.numeral

/-- Whether there are too many digits between the braces. -/
def isOverlong : UnicodeEscape → Bool
  | short _ _ _ _ => false
  | braced digits _ _ _ _ => decide (6 < digits.length)

/-- Whether the escape is a low surrogate between braces. -/
def standsApart : UnicodeEscape → Bool
  | short _ _ _ _ => false
  | braced _ code _ _ _ => isLowSurrogate code

/-- The units that the escape is read as: those of its number, or of its own letter and digits. -/
def units (e : UnicodeEscape) : List Nat :=
  if e.isOverlong then ('u' :: e.numeral).map Char.toNat else utf16Units e.code

/-- Escapes one behind the other. -/
def spell (es : List UnicodeEscape) : List Char := es.flatMap spelling

theorem code_lt (e : UnicodeEscape) : e.code < 0x110000 := by
  cases e with
  | short digits code hdigits hlength =>
    have hlt := hdigits.lt_pow
    rw [hlength] at hlt
    rw [UnicodeEscape.code]
    omega
  | braced digits code hdigits hpos hcode => exact hcode

/-! ## One escape -/

theorem isHexDigit_or_brace (e : UnicodeEscape) :
    ∀ c ∈ e.numeral, isHexDigit c = true ∨ c = '{' ∨ c = '}' := by
  intro c hc
  cases e with
  | short digits code hdigits hlength => exact .inl (hdigits.isHexDigit c hc)
  | braced digits code hdigits hpos hcode =>
    rw [numeral, List.mem_cons, List.mem_append, List.mem_singleton] at hc
    rcases hc with rfl | hc | rfl
    · exact .inr (.inl rfl)
    · exact .inl (hdigits.isHexDigit c hc)
    · exact .inr (.inr rfl)

/-- The escape is read as a whole, unless it is too long. -/
theorem unicodeEscape?_numeral (e : UnicodeEscape) (behind : List Char) :
    unicodeEscape? (e.numeral ++ behind) =
      if e.isOverlong then none else some (e.code, e.numeral.length) := by
  cases e with
  | short digits code hdigits hlength => exact unicodeEscape?_digits hdigits hlength behind
  | braced digits code hdigits hpos hcode =>
    rw [numeral, unicodeEscape?_braced hdigits hpos, isOverlong]
    by_cases hlength : digits.length ≤ 6
    · rw [if_pos hlength, if_neg (by simpa using hlength)]
      rfl
    · rw [if_neg hlength, if_pos (by simpa using hlength)]

/-- An escape that is not too long stands for what its number and the text behind it make. -/
theorem expand_spelling_of_unit {e : UnicodeEscape} {behind : List Char} {c : Char} {more : Nat}
    (h : e.isOverlong = false) (hunit : unit e.code behind = (c, more)) :
    expand step 0 (e.spelling ++ behind) = c :: expand step 0 (behind.drop more) := by
  have hread : unicodeEscape? (e.numeral ++ behind) = some (e.code, e.numeral.length) := by
    rw [unicodeEscape?_numeral, h]
    rfl
  show expand step 0 ('\\' :: 'u' :: (e.numeral ++ behind)) = _
  rw [expand, step, if_pos rfl, escape_unicode hread hunit, expand_skip, List.drop_succ_cons,
    List.drop_length_add_append, List.singleton_append]

/-- An escape stands for its number alone, unless this is a high surrogate with a low one behind. -/
theorem expand_spelling_alone {e : UnicodeEscape} {behind : List Char} (h : e.isOverlong = false)
    (halone : isHighSurrogate e.code = true → lowSurrogateEscape? behind = none) :
    expand step 0 (e.spelling ++ behind) = scalar e.code :: expand step 0 behind := by
  rw [expand_spelling_of_unit h (unit_alone halone), List.drop_zero]

/-- Text without a backslash stands for itself. -/
theorem expand_append_of_notMem {s : List Char} (h : '\\' ∉ s) (behind : List Char) :
    expand step 0 (s ++ behind) = s ++ expand step 0 behind := by
  induction s with
  | nil => rfl
  | cons c s ih =>
    rw [List.mem_cons, not_or] at h
    rw [List.cons_append, expand, step, if_neg (Ne.symm h.1), ih h.2]
    rfl

/-- An escape that is too long loses its backslash. -/
theorem expand_spelling_of_overlong {e : UnicodeEscape} (h : e.isOverlong = true)
    (behind : List Char) :
    expand step 0 (e.spelling ++ behind) = 'u' :: e.numeral ++ expand step 0 behind := by
  have hread : unicodeEscape? (e.numeral ++ behind) = none := by
    rw [unicodeEscape?_numeral, if_pos h]
  have hlookup : letterEscapes.lookup 'u' = none := by decide
  have hletter : escape ('u' :: (e.numeral ++ behind)) = (['u'], 1) := by
    simp [escape, hlookup, hread]
  have hplain : '\\' ∉ e.numeral := by
    intro hmem
    rcases e.isHexDigit_or_brace _ hmem with hdigit | hbrace | hbrace
    · exact absurd hdigit (by decide)
    · exact absurd hbrace (by decide)
    · exact absurd hbrace (by decide)
  show expand step 0 ('\\' :: 'u' :: (e.numeral ++ behind)) = _
  rw [expand, step, if_pos rfl, hletter, expand_skip, List.drop_succ_cons, List.drop_zero,
    expand_append_of_notMem hplain]
  rfl

/-! ## Low surrogates that are seen -/

/-- A brace hides a low surrogate. -/
theorem lowSurrogateEscape?_braced (s : List Char) :
    lowSurrogateEscape? ('\\' :: 'u' :: '{' :: s) = none := by
  have hdigits : hexHead? 4 ('{' :: s) = none := by
    have hbrace : hexDigit? '{' = none := by decide
    simp [hexHead?, hex?, hexFrom?, hbrace]
  rw [lowSurrogateEscape?, hdigits]
  rfl

/-- The first unit of a number is a low surrogate only if the number is one. -/
theorem exists_utf16Units_eq_cons {n : Nat} (h : isLowSurrogate n = false) (hlt : n < 0x110000) :
    ∃ first more, utf16Units n = first :: more ∧ isLowSurrogate first = false := by
  unfold utf16Units
  split
  · exact ⟨n, [], rfl, h⟩
  · refine ⟨_, _, rfl, ?_⟩
    rw [Bool.eq_false_iff, ne_eq, isLowSurrogate_iff]
    omega

/-- The next escape is seen as a low surrogate exactly if its first unit is one, where no escape
stands apart. -/
theorem lowSurrogateEscape?_spelling {e : UnicodeEscape} (h : e.standsApart = false)
    (behind : List Char) :
    (lowSurrogateEscape? (e.spelling ++ behind) = some e.code ∧ isLowSurrogate e.code = true ∧
        e.units = [e.code] ∧ e.spelling.length = 6) ∨
      (lowSurrogateEscape? (e.spelling ++ behind) = none ∧
        ∃ first more, e.units = first :: more ∧ isLowSurrogate first = false) := by
  cases e with
  | short digits code hdigits hlength =>
    have hseen := lowSurrogateEscape?_digits hdigits hlength behind
    have hlt := (short digits code hdigits hlength).code_lt
    cases hlow : isLowSurrogate code with
    | true =>
      rw [if_pos hlow] at hseen
      have hsmall : code < 0x10000 := by
        rw [isLowSurrogate_iff] at hlow
        omega
      refine .inl ⟨hseen, hlow, ?_, ?_⟩
      · exact if_pos hsmall
      · rw [spelling, numeral, List.length_cons, List.length_cons, hlength]
    | false =>
      rw [hlow] at hseen
      exact .inr ⟨hseen, exists_utf16Units_eq_cons hlow hlt⟩
  | braced digits code hdigits hpos hcode =>
    refine .inr ⟨lowSurrogateEscape?_braced _, ?_⟩
    unfold units
    split
    · exact ⟨_, _, rfl, by decide⟩
    · exact exists_utf16Units_eq_cons h hcode

/-! ## Runs of escapes -/

theorem spell_cons (e : UnicodeEscape) (es : List UnicodeEscape) :
    spell (e :: es) = e.spelling ++ spell es := List.flatMap_cons

/-- **A run of escapes**, of which only the first may stand apart, is read as its units write, if no
low surrogate is seen behind it. -/
theorem expand_spell_append (es : List UnicodeEscape) (behind : List Char)
    (hrun : es.IsChain fun _ e => e.standsApart = false)
    (hbehind : lowSurrogateEscape? behind = none) :
    expand step 0 (spell es ++ behind) =
      utf16Decode (es.flatMap units) ++ expand step 0 behind := by
  match es with
  | [] => rfl
  | e :: es =>
    have ih := expand_spell_append es behind hrun.tail hbehind
    rw [spell_cons, List.append_assoc, List.flatMap_cons]
    cases hlong : e.isOverlong with
    | true =>
      rw [expand_spelling_of_overlong hlong, ih, units, if_pos hlong, utf16Decode_map_append,
        List.append_assoc]
    | false =>
      have hread : e.units = utf16Units e.code := by
        rw [units, hlong]
        rfl
      cases hhigh : isHighSurrogate e.code with
      | false =>
        have halone : isHighSurrogate e.code = true →
            lowSurrogateEscape? (spell es ++ behind) = none := by
          intro h
          rw [hhigh] at h
          exact absurd h Bool.false_ne_true
        rw [expand_spelling_alone hlong halone, ih, hread,
          utf16Decode_utf16Units_append hhigh e.code_lt, List.cons_append]
      | true =>
        have hsmall : e.code < 0x10000 := by
          rw [isHighSurrogate_iff] at hhigh
          omega
        have hone : e.units = [e.code] := hread.trans (if_pos hsmall)
        rw [hone, List.singleton_append]
        -- whether the high surrogate is joined hangs on the next escape alone
        match es with
        | [] =>
          have hnext : lowSurrogateEscape? (spell [] ++ behind) = none := hbehind
          rw [expand_spelling_alone hlong fun _ => hnext]
          rfl
        | f :: fs =>
          rcases lowSurrogateEscape?_spelling hrun.rel (spell fs ++ behind) with
            ⟨hseen, hlow, hunits, hlength⟩ | ⟨hseen, first, more, hunits, hfirst⟩
          · have ih := expand_spell_append fs behind hrun.tail.tail hbehind
            have hpair := unit_pair hhigh hseen
            rw [spell_cons, List.append_assoc, expand_spelling_of_unit hlong hpair, ← hlength,
              List.drop_left, ih, List.flatMap_cons, hunits, List.singleton_append,
              utf16Decode_pair hhigh hlow, List.cons_append]
          · have hnext : lowSurrogateEscape? (spell (f :: fs) ++ behind) = none := by
              rwa [spell_cons, List.append_assoc]
            have halone : isHighSurrogate e.code = true →
                ∀ unit ∈ ((f :: fs).flatMap units).head?, isLowSurrogate unit = false := by
              intro _ unit hmem
              rw [List.flatMap_cons, hunits] at hmem
              cases hmem
              exact hfirst
            rw [expand_spelling_alone hlong fun _ => hnext, ih, utf16Decode_cons halone,
              List.cons_append]
termination_by es.length

theorem spell_append (es fs : List UnicodeEscape) : spell (es ++ fs) = spell es ++ spell fs :=
  List.flatMap_append

/-- No low surrogate is seen at an escape that stands apart. -/
theorem lowSurrogateEscape?_of_standsApart {e : UnicodeEscape} (h : e.standsApart = true)
    (behind : List Char) : lowSurrogateEscape? (e.spelling ++ behind) = none := by
  cases e with
  | short digits code hdigits hlength => exact absurd h Bool.false_ne_true
  | braced digits code hdigits hpos hcode => exact lowSurrogateEscape?_braced _

/-- Escapes cut into runs, each of which begins where one stands apart. -/
def runs (es : List UnicodeEscape) : List (List UnicodeEscape) :=
  es.splitBy fun _ e => !e.standsApart

/-- Runs are read one by one. -/
theorem expand_spell_flatten (ess : List (List UnicodeEscape))
    (hrun : ∀ es ∈ ess, es.IsChain fun _ e => e.standsApart = false)
    (hchain : ess.IsChain fun _ es => ∃ e ∈ es.head?, e.standsApart = true) :
    expand step 0 (spell ess.flatten) = ess.flatMap fun es => utf16Decode (es.flatMap units) := by
  induction ess with
  | nil => rfl
  | cons es ess ih =>
    have hbehind : lowSurrogateEscape? (spell ess.flatten) = none := by
      cases ess with
      | nil => rfl
      | cons fs ess =>
        obtain ⟨f, hf, hapart⟩ := hchain.rel
        obtain ⟨fs, rfl⟩ := List.head?_eq_some_iff.1 hf
        rw [List.flatten_cons, List.cons_append, spell_cons]
        exact lowSurrogateEscape?_of_standsApart hapart _
    rw [List.flatten_cons, spell_append,
      expand_spell_append es _ (hrun es (List.mem_cons_self ..)) hbehind,
      ih (fun fs hfs => hrun fs (List.mem_cons_of_mem _ hfs)) hchain.tail, List.flatMap_cons]

/-- The runs of escapes are read one by one. -/
theorem expand_spell (es : List UnicodeEscape) :
    expand step 0 (spell es) = (runs es).flatMap fun run => utf16Decode (run.flatMap units) := by
  have hrun : ∀ run ∈ runs es, run.IsChain fun _ e => e.standsApart = false := by
    intro run hmem
    refine (List.isChain_of_mem_splitBy hmem).imp ?_
    intro _ e he
    rwa [Bool.not_eq_true'] at he
  have hchain : (runs es).IsChain fun _ run => ∃ e ∈ run.head?, e.standsApart = true := by
    refine (List.isChain_getLast_head_splitBy _ es).imp ?_
    rintro _ run ⟨-, hne, hapart⟩
    exact ⟨run.head hne, List.head_mem_head? hne, by rwa [Bool.not_eq_false'] at hapart⟩
  rw [← expand_spell_flatten _ hrun hchain, runs, List.flatten_splitBy]

end UnicodeEscape

open UnicodeEscape

/-- **Unicode escapes have the value that UTF-16 gives to their units**, whatever the quotes around
them: pairs of surrogates are joined and all other surrogates replaced.  A low surrogate between
braces starts a new sequence of units, so that it is not joined to what is in front of it, and an
escape with more than six digits writes its letter, its braces and its digits. -/
theorem value_eq_utf16Decode {quote : Char} (hquote : quote ∈ ['"', '\'', '\x60'])
    (es : List UnicodeEscape) :
    value (quote :: (spell es ++ [quote])) =
      (runs es).flatMap fun run => utf16Decode (run.flatMap units) := by
  have hisQuote : ∀ c ∈ ['"', '\'', '\x60'], isQuote c = true := by simp [isQuote]
  rw [value, inside_quoted (hisQuote quote hquote), expand_spell]

/-! ## Pairs and zeros -/

/-- The high surrogate of a smile, in four digits. -/
def shortHigh : UnicodeEscape :=
  .short ['D', '8', '3', 'd'] 0xD83D
    (hexNumeral_map [('D', 13), ('8', 8), ('3', 3), ('d', 13)] (by decide)) rfl

/-- The same surrogate between braces, with a zero in front. -/
def bracedHigh : UnicodeEscape :=
  .braced ['0', 'd', '8', '3', 'D'] 0xD83D
    (hexNumeral_map [('0', 0), ('d', 13), ('8', 8), ('3', 3), ('D', 13)] (by decide)) (by decide)
    (by decide)

/-- The low surrogate of a smile, in four digits. -/
def shortLow : UnicodeEscape :=
  .short ['d', 'e', '0', '0'] 0xDE00
    (hexNumeral_map [('d', 13), ('e', 14), ('0', 0), ('0', 0)] (by decide)) rfl

/-- The same surrogate between braces. -/
def bracedLow : UnicodeEscape :=
  .braced ['D', 'E', '0', '0'] 0xDE00
    (hexNumeral_map [('D', 13), ('E', 14), ('0', 0), ('0', 0)] (by decide)) (by decide) (by decide)

/-- The whole smile between braces. -/
def bracedSmile : UnicodeEscape :=
  .braced ['1', 'F', '6', '0', '0'] 0x1F600
    (hexNumeral_map [('1', 1), ('F', 15), ('6', 6), ('0', 0), ('0', 0)] (by decide)) (by decide)
    (by decide)

/-- The letter `A` in seven digits. -/
def paddedLetter : UnicodeEscape :=
  .braced ['0', '0', '0', '0', '0', '4', '1'] 0x41
    (hexNumeral_map [('0', 0), ('0', 0), ('0', 0), ('0', 0), ('0', 0), ('4', 4), ('1', 1)]
      (by decide)) (by decide) (by decide)

/-- High surrogates in both forms in front of low ones in both forms. -/
theorem value_eq_utf16Decode_mixedPairs :
    let es := [bracedHigh, shortLow, shortHigh, bracedLow, shortLow, shortHigh, shortHigh, shortLow,
      bracedHigh, bracedSmile, paddedLetter]
    '\'' ∈ ['"', '\'', '\x60'] ∧
      value ('\'' :: (spell es ++ ['\''])) =
        "😀\uFFFD\uFFFD\uFFFD\uFFFD😀\uFFFD😀u\x7b0000041\x7d".toList := by
  intro es
  have hquote : '\'' ∈ ['"', '\'', '\x60'] := by decide
  have hvalue := value_eq_utf16Decode hquote es
  refine ⟨hquote, hvalue.trans ?_⟩
  decide

/-- Without the provisos this fails: the units of a pair whose second half stands between braces
write one character, and so does a letter behind many zeros. -/
theorem value_bracedLow_paddedLetter :
    value ('"' :: (spell [shortHigh, bracedLow] ++ ['"'])) = ['\uFFFD', '\uFFFD'] ∧
      utf16Decode (utf16Units shortHigh.code ++ utf16Units bracedLow.code) = ['😀'] ∧
      value ('"' :: (spell [paddedLetter] ++ ['"'])) = "u\x7b0000041\x7d".toList ∧
      utf16Decode (utf16Units paddedLetter.code) = ['A'] := by
  decide

end TreeScribe.Literal
