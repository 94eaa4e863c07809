import TreeScribe.Proofs.Json.Number
import TreeScribe.Proofs.Json.Quote

/-!
# The tokens of written JSON

The tokens of a value stand in its text in order, with blank text of the layout between them.

Main statement: strict reading finds exactly these tokens, in any layout that puts nothing but white
space between them (`findsTokens`).
-/

namespace TreeScribe.Json

open Text

/-! ## Values and layouts -/

/-- All numbers of the value are whole numbers that fit a 64-bit word. -/
inductive HoldsWords : Json → Prop
  | null : HoldsWords .null
  | bool (b : Bool) : HoldsWords (.bool b)
  | integer {n : Int} (hlow : -(signedLimit : Int) ≤ n) (hhigh : n < wordLimit) :
      HoldsWords (.integer n)
  | string (s : String) : HoldsWords (.string s)
  | array {items : List Json} (h : ∀ v ∈ items, HoldsWords v) : HoldsWords (.array items)
  | object {entries : List (String × Json)} (h : ∀ e ∈ entries, HoldsWords e.2) :
      HoldsWords (.object entries)

/-- The white space of strict JSON. -/
def IsSpace (c : Char) : Prop := c = ' ' ∨ c = '\n' ∨ c = '\t' ∨ c = '\r'

instance (c : Char) : Decidable (IsSpace c) := inferInstanceAs (Decidable (_ ∨ _))

/-- A layout of white space. -/
structure Spacing.IsBlank (sp : Spacing) : Prop where
  line (depth : Nat) : ∀ c ∈ sp.line depth, IsSpace c
  behindColon : ∀ c ∈ sp.behindColon, IsSpace c

theorem isBlank_none : Spacing.none.IsBlank := ⟨by simp [Spacing.none], by simp [Spacing.none]⟩

theorem isBlank_pretty : Spacing.pretty.IsBlank where
  line depth c hc := by
    rcases List.mem_cons.1 hc with rfl | hc
    · decide
    · rw [List.eq_of_mem_replicate hc]
      decide
  behindColon c hc := by
    rw [List.mem_singleton.1 hc]
    decide

mutual

/-- The tokens that write a value. -/
def tokens : Json → List Token
  | .null => [.null]
  | .bool b => [.bool b]
  | .integer n => [.number (integerText n)]
  | .decimal d => [.number d.text]
  | .string s => [.string s true]
  | .array [] => [.openBracket, .closeBracket]
  | .array (v :: vs) => .openBracket :: (tokens v ++ itemTokens vs ++ [.closeBracket])
  | .object [] => [.openBrace, .closeBrace]
  | .object ((key, v) :: entries) =>
    .openBrace :: .string key true :: .colon ::
      (tokens v ++ entryTokens entries ++ [.closeBrace])

/-- The tokens of the items behind the first. -/
def itemTokens : List Json → List Token
  | [] => []
  | v :: vs => .comma :: (tokens v ++ itemTokens vs)

/-- The tokens of the entries behind the first. -/
def entryTokens : List (String × Json) → List Token
  | [] => []
  | (key, v) :: entries => .comma :: .string key true :: .colon :: (tokens v ++ entryTokens entries)

end

/-! ## One token in front of others -/

section

variable {c : Char} {cs rest : List Char} {t : Token} {ts : List Token}

/-- A step that uses up its text leaves the rest to be read. -/
theorem strictTokens?_of_step (text : List Char) {emitted : List Token}
    (hstep : strictStep? c (text ++ rest) = some (emitted, text.length))
    (hrest : strictTokens? rest = some ts) :
    strictTokens? (c :: (text ++ rest)) = some (emitted ++ ts) := by
  have hscan : scan? strictStep? 0 rest = some ts := hrest
  rw [strictTokens?, scan?, hstep]
  dsimp only
  rw [scan?_skip, List.drop_left, hscan, Option.map_some]

theorem strictTokens?_blank {s : List Char} (hs : ∀ c ∈ s, IsSpace c)
    (hrest : strictTokens? rest = some ts) : strictTokens? (s ++ rest) = some ts := by
  induction s with
  | nil => exact hrest
  | cons c s ih =>
    have hc : IsSpace c := hs c (List.mem_cons_self ..)
    have hstep : strictStep? c (s ++ rest) = some ([], 0) := if_pos hc
    exact strictTokens?_of_step [] hstep (ih fun d hd => hs d (List.mem_cons_of_mem c hd))

theorem strictTokens?_mark (hc : ¬IsSpace c) (hmark : mark? c = some t)
    (hrest : strictTokens? rest = some ts) : strictTokens? (c :: rest) = some (t :: ts) := by
  have hstep : strictStep? c rest = some ([t], 0) := by
    refine (if_neg hc).trans ?_
    rw [hmark]
  exact strictTokens?_of_step [] hstep hrest

theorem strictTokens?_quote (text : List Char) (hrest : strictTokens? rest = some ts) :
    strictTokens? (quote text ++ rest) = some (.string (String.ofList text) true :: ts) := by
  have hstep : strictStep? '"' ((text.flatMap escaped ++ ['"']) ++ rest) =
      some ([.string (String.ofList text) true], (text.flatMap escaped ++ ['"']).length) := by
    have hmark : mark? '"' = none := by decide
    rw [List.append_assoc, List.singleton_append, strictStep?, if_neg (by decide), hmark]
    simp [stringToken?_quoted, emit]
  exact strictTokens?_of_step _ hstep hrest

theorem strictTokens?_name {name : List Char} (hname : (name, t) ∈ names)
    (hrest : strictTokens? rest = some ts) : strictTokens? (name ++ rest) = some (t :: ts) := by
  simp only [names, List.mem_cons, List.not_mem_nil, or_false, Prod.mk.injEq] at hname
  rcases hname with ⟨rfl, rfl⟩ | ⟨rfl, rfl⟩ | ⟨rfl, rfl⟩
  · have hstep : strictStep? 't' (['r', 'u', 'e'] ++ rest) = some ([.bool true], 3) := rfl
    exact strictTokens?_of_step _ hstep hrest
  · have hstep : strictStep? 'f' (['a', 'l', 's', 'e'] ++ rest) = some ([.bool false], 4) := rfl
    exact strictTokens?_of_step _ hstep hrest
  · have hstep : strictStep? 'n' (['u', 'l', 'l'] ++ rest) = some ([.null], 3) := rfl
    exact strictTokens?_of_step _ hstep hrest

/-- A whole number begins with its sign or a digit. -/
theorem exists_integerText_eq_cons (n : Int) :
    ∃ c cs, integerText n = c :: cs ∧ (c = '-' ∨ c.isDigit = true) := by
  by_cases hsign : n < 0
  · exact ⟨'-', _, by rw [integerText, if_pos hsign, List.singleton_append], .inl rfl⟩
  · obtain ⟨d, ds, hds⟩ := exists_toDigits_eq_cons n.natAbs
    exact ⟨d, ds, by rw [integerText, if_neg hsign, List.nil_append, hds],
      .inr (isDigit_toDigits n.natAbs d (by simp [hds]))⟩

theorem strictTokens?_integerText (n : Int) (hends : EndsNumber rest)
    (hrest : strictTokens? rest = some ts) :
    strictTokens? (integerText n ++ rest) = some (.number (integerText n) :: ts) := by
  have hnumber := number?_integerText n hends
  obtain ⟨c, cs, htext, hc⟩ := exists_integerText_eq_cons n
  rw [htext] at hnumber ⊢
  have hne : ∀ d : Char, d ≠ '-' → d.isDigit = false → c ≠ d := by
    rintro d hsign hdigit rfl
    rcases hc with rfl | hc
    · exact hsign rfl
    · rw [hdigit] at hc
      exact Bool.false_ne_true hc
  have hspace : ¬IsSpace c := by
    rintro (h | h | h | h) <;> exact hne _ (by decide) (by decide) h
  have hmark : mark? c = none := by
    refine List.lookup_eq_none_iff.2 fun p hp => ?_
    have hmarks : ∀ p ∈ [('{', Token.openBrace), ('}', .closeBrace), ('[', .openBracket),
        (']', .closeBracket), (',', .comma), (':', .colon)],
        p.1 ≠ '-' ∧ p.1.isDigit = false := by decide
    simpa using hne p.1 (hmarks p hp).1 (hmarks p hp).2
  have hstep : strictStep? c (cs ++ rest) = some ([.number (c :: cs)], cs.length) := by
    refine (if_neg hspace).trans ?_
    rw [hmark]
    dsimp only
    rw [if_neg (hne '"' (by decide) (by decide)), if_pos hc, ← List.cons_append, hnumber]
    rfl
  exact strictTokens?_of_step cs hstep hrest

end

/-! ## Where numbers end -/

section

variable {sp : Spacing} {rest : List Char} (depth : Nat)

/-- A number ends before a character that is none of its own. -/
theorem endsNumber_cons {c : Char} {cs : List Char}
    (hc : c.isDigit = false ∧ c ≠ '.' ∧ c ≠ 'e' ∧ c ≠ 'E') : EndsNumber (c :: cs) := by
  intro d hd
  rwa [← Option.some.inj hd]

theorem endsNumber_line (hsp : sp.IsBlank) (hrest : EndsNumber rest) :
    EndsNumber (sp.line depth ++ rest) := by
  cases hline : sp.line depth with
  | nil => exact hrest
  | cons c cs =>
    have hc : IsSpace c := hsp.line depth c (by simp [hline])
    rcases hc with rfl | rfl | rfl | rfl <;> exact endsNumber_cons (by decide)

theorem endsNumber_printItems (vs : List Json) (hrest : EndsNumber rest) :
    EndsNumber (printItems sp depth vs ++ rest) := by
  cases vs with
  | nil => exact hrest
  | cons v vs => exact endsNumber_cons (by decide)

theorem endsNumber_printEntries (entries : List (String × Json)) (hrest : EndsNumber rest) :
    EndsNumber (printEntries sp depth entries ++ rest) := by
  cases entries with
  | nil => exact hrest
  | cons e entries => exact endsNumber_cons (by decide)

end

/-! ## Whole values -/

/-- The tokens of a value are found in its text, in front of what does not go on with a number. -/
def FindsTokens (sp : Spacing) (v : Json) : Prop :=
  ∀ depth rest ts, EndsNumber rest → strictTokens? rest = some ts →
    strictTokens? (v.print sp depth ++ rest) = some (v.tokens ++ ts)

section

variable {sp : Spacing} (depth : Nat) {rest : List Char} {ts : List Token}

/-- The tokens of a key and its value, from the opening quote of the key. -/
theorem strictTokens?_entry (hsp : sp.IsBlank) (key : String) {v : Json} (hv : FindsTokens sp v)
    (hends : EndsNumber rest) (hrest : strictTokens? rest = some ts) :
    strictTokens? (quote key.toList ++ ':' :: (sp.behindColon ++ (v.print sp depth ++ rest))) =
      some (.string key true :: .colon :: (v.tokens ++ ts)) := by
  have hvalue := strictTokens?_blank hsp.behindColon (hv depth rest ts hends hrest)
  have hcolon := strictTokens?_mark (c := ':') (by decide) rfl hvalue
  have hkey := strictTokens?_quote key.toList hcolon
  rwa [String.ofList_toList] at hkey

theorem strictTokens?_printItems (hsp : sp.IsBlank) {vs : List Json}
    (hvs : ∀ v ∈ vs, FindsTokens sp v) (hends : EndsNumber rest)
    (hrest : strictTokens? rest = some ts) :
    strictTokens? (printItems sp depth vs ++ rest) = some (itemTokens vs ++ ts) := by
  induction vs with
  | nil => exact hrest
  | cons v vs ih =>
    have hbehind := ih fun w hw => hvs w (List.mem_cons_of_mem v hw)
    have hvalue := hvs v (List.mem_cons_self ..) depth _ _
      (endsNumber_printItems depth vs hends) hbehind
    have hcomma := strictTokens?_mark (c := ',') (by decide) rfl
      (strictTokens?_blank (hsp.line depth) hvalue)
    simpa only [printItems, itemTokens, List.cons_append, List.append_assoc] using hcomma

theorem strictTokens?_printEntries (hsp : sp.IsBlank) {entries : List (String × Json)}
    (hentries : ∀ e ∈ entries, FindsTokens sp e.2) (hends : EndsNumber rest)
    (hrest : strictTokens? rest = some ts) :
    strictTokens? (printEntries sp depth entries ++ rest) = some (entryTokens entries ++ ts) := by
  induction entries with
  | nil => exact hrest
  | cons e entries ih =>
    obtain ⟨key, v⟩ := e
    have hbehind := ih fun f hf => hentries f (List.mem_cons_of_mem _ hf)
    have hentry := strictTokens?_entry depth hsp key
      (hentries (key, v) (List.mem_cons_self ..)) (endsNumber_printEntries depth entries hends)
      hbehind
    have hcomma := strictTokens?_mark (c := ',') (by decide) rfl
      (strictTokens?_blank (hsp.line depth) hentry)
    simpa only [printEntries, entryTokens, List.cons_append, List.append_assoc] using hcomma

end

/-- **Strict reading finds the tokens of a value** in its text, whatever white space the layout puts
between them. -/
theorem findsTokens {sp : Spacing} (hsp : sp.IsBlank) {v : Json} (hv : HoldsWords v) :
    FindsTokens sp v := by
  induction hv with
  | null =>
    intro depth rest ts _ hrest
    have hname : ("null".toList, Token.null) ∈ names := by decide
    exact strictTokens?_name hname hrest
  | bool b =>
    intro depth rest ts _ hrest
    have hfalse : ("false".toList, Token.bool false) ∈ names := by decide
    have htrue : ("true".toList, Token.bool true) ∈ names := by decide
    cases b
    · exact strictTokens?_name hfalse hrest
    · exact strictTokens?_name htrue hrest
  | @integer n =>
    intro depth rest ts hends hrest
    exact strictTokens?_integerText n hends hrest
  | string s =>
    intro depth rest ts _ hrest
    have hquote := strictTokens?_quote s.toList hrest
    rwa [String.ofList_toList] at hquote
  | @array items _ ih =>
    intro depth rest ts _ hrest
    have hclose := strictTokens?_mark (c := ']') (by decide) rfl hrest
    cases items with
    | nil => exact strictTokens?_mark (by decide) rfl hclose
    | cons v vs =>
      have hends : EndsNumber (sp.line depth ++ ']' :: rest) :=
        endsNumber_line depth hsp (endsNumber_cons (by decide))
      have hitems := strictTokens?_printItems (depth + 1) hsp
        (fun w hw => ih w (List.mem_cons_of_mem v hw)) hends
        (strictTokens?_blank (hsp.line depth) hclose)
      have hfirst := ih v (List.mem_cons_self ..) (depth + 1) _ _
        (endsNumber_printItems (depth + 1) vs hends) hitems
      have hopen := strictTokens?_mark (c := '[') (by decide) rfl
        (strictTokens?_blank (hsp.line (depth + 1)) hfirst)
      simpa only [print, tokens, List.cons_append, List.append_assoc, List.nil_append] using hopen
  | @object entries _ ih =>
    intro depth rest ts _ hrest
    have hclose := strictTokens?_mark (c := '}') (by decide) rfl hrest
    cases entries with
    | nil => exact strictTokens?_mark (by decide) rfl hclose
    | cons e entries =>
      obtain ⟨key, v⟩ := e
      have hends : EndsNumber (sp.line depth ++ '}' :: rest) :=
        endsNumber_line depth hsp (endsNumber_cons (by decide))
      have hentries := strictTokens?_printEntries (depth + 1) hsp
        (fun f hf => ih f (List.mem_cons_of_mem _ hf)) hends
        (strictTokens?_blank (hsp.line depth) hclose)
      have hfirst := strictTokens?_entry (depth + 1) hsp key
        (ih (key, v) (List.mem_cons_self ..)) (endsNumber_printEntries (depth + 1) entries hends)
        hentries
      have hopen := strictTokens?_mark (c := '{') (by decide) rfl
        (strictTokens?_blank (hsp.line (depth + 1)) hfirst)
      simpa only [print, tokens, List.cons_append, List.append_assoc, List.nil_append] using hopen

end TreeScribe.Json
