import TreeScribe.Proofs.Json.Tokens

/-!
# Written JSON read back

Reading goes through the tokens of a value with a stack of open brackets.  Whatever brackets are
open around a value, reading its tokens puts the value into the innermost one (`isRead`).

Main statement: a value whose numbers are words is read back from its text in any layout of white
space (`parse?_print`).  So both its compact and its pretty text denote it, and neither is the text
of another value (`print_inj`).
-/

namespace TreeScribe.Json

open Reading

/-- Reads tokens one by one. -/
def readOn (r : Reading) (ts : List Token) : Option Reading := ts.foldlM (step false) r

/-- Reading the tokens of a value puts it where it belongs, whatever brackets are open. -/
def IsRead (v : Json) : Prop := ∀ opened, readOn ⟨opened, .value⟩ v.tokens = put v opened

section

variable {r : Reading} {t : Token} {ts us : List Token} {v : Json} (outer : List Opened)

theorem readOn_cons : readOn r (t :: ts) = (step false r t).bind (readOn · ts) := rfl

theorem readOn_singleton : readOn r [t] = step false r t := by
  rw [readOn_cons]
  cases step false r t <;> rfl

theorem readOn_append : readOn r (ts ++ us) = (readOn r ts).bind (readOn · us) :=
  List.foldlM_append

/-- A value begins with a token that closes nothing. -/
theorem exists_tokens_eq_cons (v : Json) : ∃ t ts, v.tokens = t :: ts ∧ closes t = false := by
  cases v with
  | null | bool | integer | decimal | string => exact ⟨_, _, rfl, rfl⟩
  | array items => cases items <;> exact ⟨_, _, rfl, rfl⟩
  | object entries => cases entries <;> exact ⟨_, _, rfl, rfl⟩

/-- A token that closes nothing is read as an item's first, behind the bracket or a comma. -/
theorem step_item (done : List Json) (ht : closes t = false) :
    step false ⟨.items done :: outer, .first⟩ t = begin (.items done :: outer) t ∧
      step false ⟨.items done :: outer, .next⟩ t = begin (.items done :: outer) t := by
  have hne : t ≠ .closeBracket := by
    rintro rfl
    exact absurd ht (by decide)
  simp [step, inside, ht, hne]

/-- An item is added to the open array, behind its bracket or a comma. -/
theorem IsRead.item (hv : IsRead v) (done : List Json) :
    readOn ⟨.items done :: outer, .first⟩ v.tokens = some ⟨.items (v :: done) :: outer, .rest⟩ ∧
      readOn ⟨.items done :: outer, .next⟩ v.tokens =
        some ⟨.items (v :: done) :: outer, .rest⟩ := by
  have hvalue := hv (.items done :: outer)
  obtain ⟨t, ts, htokens, ht⟩ := exists_tokens_eq_cons v
  obtain ⟨hfirst, hnext⟩ := step_item outer done ht
  rw [htokens] at hvalue ⊢
  rw [readOn_cons] at hvalue
  rw [readOn_cons, readOn_cons, hfirst, hnext]
  exact ⟨hvalue, hvalue⟩

/-- An entry is added to the open object, behind its brace or a comma. -/
theorem IsRead.entry (hv : IsRead v) (key : String) (done : List (String × Json)) :
    readOn ⟨.entries done :: outer, .first⟩ (.string key true :: .colon :: v.tokens) =
        some ⟨.entries ((key, v) :: done) :: outer, .rest⟩ ∧
      readOn ⟨.entries done :: outer, .next⟩ (.string key true :: .colon :: v.tokens) =
        some ⟨.entries ((key, v) :: done) :: outer, .rest⟩ := by
  have hvalue := hv (.entry done key :: outer)
  have hfirst : step false ⟨.entries done :: outer, .first⟩ (.string key true) =
      some ⟨.entry done key :: outer, .colon⟩ := rfl
  have hnext : step false ⟨.entries done :: outer, .next⟩ (.string key true) =
      some ⟨.entry done key :: outer, .colon⟩ := rfl
  have hcolon : step false ⟨.entry done key :: outer, .colon⟩ .colon =
      some ⟨.entry done key :: outer, .value⟩ := rfl
  rw [readOn_cons, readOn_cons, hfirst, hnext, Option.bind_some, readOn_cons, hcolon,
    Option.bind_some, hvalue]
  exact ⟨rfl, rfl⟩

/-- The items behind the first are read up to the closing bracket. -/
theorem readOn_itemTokens {vs : List Json} (hvs : ∀ v ∈ vs, IsRead v) (done : List Json) :
    readOn ⟨.items done :: outer, .rest⟩ (itemTokens vs ++ [.closeBracket]) =
      put (.array (done.reverse ++ vs)) outer := by
  induction vs generalizing done with
  | nil =>
    have hclose : step false ⟨.items done :: outer, .rest⟩ .closeBracket =
        put (.array done.reverse) outer := rfl
    rw [itemTokens, List.nil_append, readOn_singleton, hclose, List.append_nil]
  | cons v vs ih =>
    have hcomma : step false ⟨.items done :: outer, .rest⟩ .comma =
        some ⟨.items done :: outer, .next⟩ := rfl
    have hitem := ((hvs v (List.mem_cons_self ..)).item outer done).2
    rw [itemTokens, List.cons_append, readOn_cons, hcomma, Option.bind_some, List.append_assoc,
      readOn_append, hitem, Option.bind_some, ih fun w hw => hvs w (List.mem_cons_of_mem v hw),
      List.reverse_cons, List.append_assoc, List.singleton_append]

/-- The entries behind the first are read up to the closing brace. -/
theorem readOn_entryTokens {entries : List (String × Json)} (hentries : ∀ e ∈ entries, IsRead e.2)
    (done : List (String × Json)) :
    readOn ⟨.entries done :: outer, .rest⟩ (entryTokens entries ++ [.closeBrace]) =
      put (.object (done.reverse ++ entries)) outer := by
  induction entries generalizing done with
  | nil =>
    have hclose : step false ⟨.entries done :: outer, .rest⟩ .closeBrace =
        put (.object done.reverse) outer := rfl
    rw [entryTokens, List.nil_append, readOn_singleton, hclose, List.append_nil]
  | cons e entries ih =>
    obtain ⟨key, v⟩ := e
    have hcomma : step false ⟨.entries done :: outer, .rest⟩ .comma =
        some ⟨.entries done :: outer, .next⟩ := rfl
    have hentry := ((hentries (key, v) (List.mem_cons_self ..)).entry outer key done).2
    have hsplit : entryTokens ((key, v) :: entries) ++ [.closeBrace] =
        .comma :: ((.string key true :: .colon :: v.tokens) ++
          (entryTokens entries ++ [.closeBrace])) := by
      simp [entryTokens]
    rw [hsplit, readOn_cons, hcomma, Option.bind_some, readOn_append, hentry, Option.bind_some,
      ih fun f hf => hentries f (List.mem_cons_of_mem _ hf), List.reverse_cons, List.append_assoc,
      List.singleton_append]

end

/-- **Reading the tokens of a value puts it where it belongs**, whatever brackets are open. -/
theorem isRead {v : Json} (hv : HoldsWords v) : IsRead v := by
  induction hv with
  | null | bool | string =>
    intro opened
    exact readOn_singleton
  | @integer n hlow hhigh =>
    intro opened
    have hstep : step false ⟨opened, .value⟩ (.number (integerText n)) =
        put (numberValue (integerText n)) opened := rfl
    rw [numberValue_integerText hlow hhigh] at hstep
    rw [tokens, readOn_singleton, hstep]
  | @array items _ ih =>
    intro opened
    have hopen : step false ⟨opened, .value⟩ .openBracket =
        some ⟨.items [] :: opened, .first⟩ := rfl
    cases items with
    | nil =>
      rw [tokens, readOn_cons, hopen, Option.bind_some, readOn_singleton]
      rfl
    | cons v vs =>
      have hfirst := ((ih v (List.mem_cons_self ..)).item opened []).1
      rw [tokens, readOn_cons, hopen, Option.bind_some, List.append_assoc, readOn_append, hfirst,
        Option.bind_some, readOn_itemTokens opened fun w hw => ih w (List.mem_cons_of_mem v hw)]
      rfl
  | @object entries _ ih =>
    intro opened
    have hopen : step false ⟨opened, .value⟩ .openBrace =
        some ⟨.entries [] :: opened, .first⟩ := rfl
    cases entries with
    | nil =>
      rw [tokens, readOn_cons, hopen, Option.bind_some, readOn_singleton]
      rfl
    | cons e entries =>
      obtain ⟨key, v⟩ := e
      have hfirst := ((ih (key, v) (List.mem_cons_self ..)).entry opened key []).1
      have hsplit : tokens (.object ((key, v) :: entries)) =
          .openBrace :: ((.string key true :: .colon :: v.tokens) ++
            (entryTokens entries ++ [.closeBrace])) := by
        simp [tokens]
      rw [hsplit, readOn_cons, hopen, Option.bind_some, readOn_append, hfirst, Option.bind_some,
        readOn_entryTokens opened fun f hf => ih f (List.mem_cons_of_mem _ hf)]
      rfl

/-- **A value is read back from its text**, in any layout of white space. -/
theorem parse?_print {sp : Spacing} (hsp : sp.IsBlank) {v : Json} (hv : HoldsWords v)
    (depth : Nat) : parse? (v.print sp depth) = some v := by
  have htokens := findsTokens hsp hv depth [] [] (by simp [EndsNumber]) rfl
  rw [List.append_nil, List.append_nil] at htokens
  have hread : v.tokens.foldlM (step false) .start = put v [] := isRead hv []
  rw [parse?, htokens, Option.bind_some, ofTokens?, hread]
  rfl

/-- A text that can be read back is the text of one value alone. -/
theorem print_inj {sp : Spacing} (hsp : sp.IsBlank) {v w : Json} (hv : HoldsWords v)
    (hw : HoldsWords w) (depth : Nat) : v.print sp depth = w.print sp depth ↔ v = w := by
  refine ⟨fun h => ?_, fun h => by rw [h]⟩
  have hread := parse?_print hsp hv depth
  rw [h, parse?_print hsp hw depth] at hread
  exact (Option.some.inj hread).symm

theorem parse?_compact {v : Json} (hv : HoldsWords v) : parse? v.compact = some v :=
  parse?_print isBlank_none hv 0

theorem parse?_pretty {v : Json} (hv : HoldsWords v) : parse? v.pretty = some v :=
  parse?_print isBlank_pretty hv 0

end TreeScribe.Json
