import TreeScribe.Proofs.Json.Tokens

/-!
# White space between tokens

White space means nothing between the tokens of JSON text, but inside a string it is part of the
string.  Which of the two it is shows only from the quotes in front of it, which open and close
strings.

Main statement: without the white space outside of its strings, the text of a value in any layout of
white space is its compact text (`withoutBlanks_print`).
-/

namespace TreeScribe.Json

/-- Where a character stands: outside of strings, inside one, or inside one behind a backslash. -/
inductive Standing
  | outside
  | inside
  | escaped
deriving DecidableEq, Repr

/-- Where the character behind `c` stands.  A quote opens or closes a string, unless a backslash
stands before it. -/
def Standing.next (c : Char) : Standing → Standing
  | .outside => if c = '"' then .inside else .outside
  | .inside => if c = '"' then .outside else if c = '\\' then .escaped else .inside
  | .escaped => .inside

/-- Leaves out the white space outside of strings. -/
def withoutBlanks : Standing → List Char → List Char
  | _, [] => []
  | s, c :: cs =>
    if s = .outside ∧ IsSpace c then withoutBlanks (s.next c) cs
    else c :: withoutBlanks (s.next c) cs

section

variable {c : Char} {cs rest : List Char}

/-! ## Outside of strings -/

theorem withoutBlanks_blank {s : List Char} (hs : ∀ c ∈ s, IsSpace c) (rest : List Char) :
    withoutBlanks .outside (s ++ rest) = withoutBlanks .outside rest := by
  induction s with
  | nil => rfl
  | cons c s ih =>
    have hc : IsSpace c := hs c (List.mem_cons_self ..)
    have hne : c ≠ '"' := by
      rintro rfl
      exact absurd hc (by decide)
    rw [List.cons_append, withoutBlanks, if_pos ⟨rfl, hc⟩, Standing.next, if_neg hne,
      ih fun d hd => hs d (List.mem_cons_of_mem c hd)]

/-- A character that is neither white space nor a quote stays. -/
theorem withoutBlanks_cons (hspace : ¬IsSpace c) (hquote : c ≠ '"') :
    withoutBlanks .outside (c :: cs) = c :: withoutBlanks .outside cs := by
  rw [withoutBlanks, if_neg fun h => hspace h.2, Standing.next, if_neg hquote]

theorem withoutBlanks_solid {s : List Char} (hs : ∀ c ∈ s, ¬IsSpace c ∧ c ≠ '"')
    (rest : List Char) : withoutBlanks .outside (s ++ rest) = s ++ withoutBlanks .outside rest := by
  induction s with
  | nil => rfl
  | cons c s ih =>
    obtain ⟨hspace, hquote⟩ := hs c (List.mem_cons_self ..)
    rw [List.cons_append, withoutBlanks_cons hspace hquote,
      ih fun d hd => hs d (List.mem_cons_of_mem c hd), List.cons_append]

/-! ## Inside a string -/

theorem withoutBlanks_inside {ds : List Char} (hds : ∀ e ∈ ds, e ≠ '"' ∧ e ≠ '\\')
    (cs : List Char) : withoutBlanks .inside (ds ++ cs) = ds ++ withoutBlanks .inside cs := by
  induction ds with
  | nil => rfl
  | cons d ds ih =>
    obtain ⟨hquote, hbackslash⟩ := hds d (List.mem_cons_self ..)
    rw [List.cons_append, withoutBlanks, if_neg (by simp), Standing.next, if_neg hquote,
      if_neg hbackslash, ih fun e he => hds e (List.mem_cons_of_mem d he), List.cons_append]

theorem withoutBlanks_escape (c : Char) (cs : List Char) :
    withoutBlanks .inside ('\\' :: c :: cs) = '\\' :: c :: withoutBlanks .inside cs := by
  rw [withoutBlanks, if_neg (by simp), Standing.next, if_neg (by decide), if_pos rfl, withoutBlanks,
    if_neg (by simp), Standing.next]

/-- What is written for a character stays, and does not end the string. -/
theorem withoutBlanks_escaped (c : Char) (cs : List Char) :
    withoutBlanks .inside (escaped c ++ cs) = escaped c ++ withoutBlanks .inside cs := by
  rcases escaped_eq c with ⟨hquote, hbackslash, h⟩ | ⟨d, ds, h, hds⟩
  · rw [h]
    exact withoutBlanks_inside (by simp [hquote, hbackslash]) cs
  · rw [h, List.cons_append, List.cons_append, withoutBlanks_escape, withoutBlanks_inside hds]
    rfl

theorem withoutBlanks_flatMap_escaped (text rest : List Char) :
    withoutBlanks .inside (text.flatMap escaped ++ '"' :: rest) =
      text.flatMap escaped ++ '"' :: withoutBlanks .outside rest := by
  induction text with
  | nil => rw [List.flatMap_nil, List.nil_append, withoutBlanks, if_neg (by simp)]; rfl
  | cons c text ih =>
    rw [List.flatMap_cons, List.append_assoc, withoutBlanks_escaped, ih, List.append_assoc]

/-- **A quoted text stays as it is**, and what follows stands outside of it. -/
theorem withoutBlanks_quote (text rest : List Char) :
    withoutBlanks .outside (quote text ++ rest) = quote text ++ withoutBlanks .outside rest := by
  have hopen (cs : List Char) :
      withoutBlanks .outside ('"' :: cs) = '"' :: withoutBlanks .inside cs := rfl
  rw [quote, List.append_assoc, List.cons_append, List.singleton_append, hopen,
    withoutBlanks_flatMap_escaped, List.append_assoc, List.cons_append, List.singleton_append]

end

/-! ## Whole values -/

/-- In front of anything, a value comes out without the blanks of its layout. -/
def IsBared (sp : Spacing) (v : Json) : Prop :=
  ∀ depth rest, withoutBlanks .outside (v.print sp depth ++ rest) =
    v.print .none depth ++ withoutBlanks .outside rest

/-- A whole number holds no white space and no quote. -/
theorem solid_integerText (n : Int) : ∀ c ∈ integerText n, ¬IsSpace c ∧ c ≠ '"' := by
  have hdigit : ∀ c : Char, c.isDigit = true → ¬IsSpace c ∧ c ≠ '"' := by
    intro c hc
    constructor
    · rintro (rfl | rfl | rfl | rfl) <;> exact absurd hc (by decide)
    · rintro rfl
      exact absurd hc (by decide)
  intro c hc
  rcases List.mem_append.1 hc with hsign | hdigits
  · have hminus : c = '-' := by
      split at hsign
      · exact List.mem_singleton.1 hsign
      · exact absurd hsign List.not_mem_nil
    rw [hminus]
    decide
  · exact hdigit c (isDigit_toDigits n.natAbs c hdigits)

section

variable {sp : Spacing} (depth : Nat) (rest : List Char)

theorem withoutBlanks_entry (hsp : sp.IsBlank) (key : String) {v : Json} (hv : IsBared sp v) :
    withoutBlanks .outside
        (quote key.toList ++ ':' :: (sp.behindColon ++ (v.print sp depth ++ rest))) =
      quote key.toList ++ ':' :: (v.print .none depth ++ withoutBlanks .outside rest) := by
  rw [withoutBlanks_quote, withoutBlanks_cons (by decide) (by decide),
    withoutBlanks_blank hsp.behindColon, hv depth]

theorem withoutBlanks_printItems (hsp : sp.IsBlank) {vs : List Json}
    (hvs : ∀ v ∈ vs, IsBared sp v) :
    withoutBlanks .outside (printItems sp depth vs ++ rest) =
      printItems .none depth vs ++ withoutBlanks .outside rest := by
  induction vs with
  | nil => rfl
  | cons v vs ih =>
    simp only [printItems, List.cons_append, List.append_assoc]
    rw [withoutBlanks_cons (by decide) (by decide), withoutBlanks_blank (hsp.line depth),
      hvs v (List.mem_cons_self ..) depth, ih fun w hw => hvs w (List.mem_cons_of_mem v hw)]
    rfl

theorem withoutBlanks_printEntries (hsp : sp.IsBlank) {entries : List (String × Json)}
    (hentries : ∀ e ∈ entries, IsBared sp e.2) :
    withoutBlanks .outside (printEntries sp depth entries ++ rest) =
      printEntries .none depth entries ++ withoutBlanks .outside rest := by
  induction entries with
  | nil => rfl
  | cons e entries ih =>
    obtain ⟨key, v⟩ := e
    have hv : IsBared sp v := hentries (key, v) (List.mem_cons_self ..)
    simp only [printEntries, List.cons_append, List.append_assoc]
    rw [withoutBlanks_cons (by decide) (by decide), withoutBlanks_blank (hsp.line depth),
      withoutBlanks_entry depth _ hsp key hv, ih fun f hf => hentries f (List.mem_cons_of_mem _ hf)]
    rfl

end

/-- **A value comes out without the blanks of its layout**, whatever stands behind it. -/
theorem isBared {sp : Spacing} (hsp : sp.IsBlank) {v : Json} (hv : HoldsWords v) :
    IsBared sp v := by
  induction hv with
  | null =>
    intro depth rest
    exact withoutBlanks_solid (s := ['n', 'u', 'l', 'l']) (by simp [IsSpace]) rest
  | bool b =>
    intro depth rest
    cases b
    · exact withoutBlanks_solid (s := ['f', 'a', 'l', 's', 'e']) (by simp [IsSpace]) rest
    · exact withoutBlanks_solid (s := ['t', 'r', 'u', 'e']) (by simp [IsSpace]) rest
  | @integer n =>
    intro depth rest
    exact withoutBlanks_solid (solid_integerText n) rest
  | string s =>
    intro depth rest
    exact withoutBlanks_quote s.toList rest
  | @array items _ ih =>
    intro depth rest
    cases items with
    | nil => exact withoutBlanks_solid (s := ['[', ']']) (by simp [IsSpace]) rest
    | cons v vs =>
      simp only [print, List.cons_append, List.append_assoc, List.nil_append]
      rw [withoutBlanks_cons (by decide) (by decide), withoutBlanks_blank (hsp.line (depth + 1)),
        ih v (List.mem_cons_self ..) (depth + 1),
        withoutBlanks_printItems (depth + 1) _ hsp fun w hw => ih w (List.mem_cons_of_mem v hw),
        withoutBlanks_blank (hsp.line depth), withoutBlanks_cons (by decide) (by decide)]
      rfl
  | @object entries _ ih =>
    intro depth rest
    cases entries with
    | nil => exact withoutBlanks_solid (s := ['{', '}']) (by simp [IsSpace]) rest
    | cons e entries =>
      obtain ⟨key, v⟩ := e
      have hv : IsBared sp v := ih (key, v) (List.mem_cons_self ..)
      simp only [print, List.cons_append, List.append_assoc, List.nil_append]
      rw [withoutBlanks_cons (by decide) (by decide), withoutBlanks_blank (hsp.line (depth + 1)),
        withoutBlanks_entry (depth + 1) _ hsp key hv,
        withoutBlanks_printEntries (depth + 1) _ hsp fun f hf => ih f (List.mem_cons_of_mem _ hf),
        withoutBlanks_blank (hsp.line depth), withoutBlanks_cons (by decide) (by decide)]
      rfl

/-- **Without the white space outside of its strings, the text of a value is its compact text**, in
any layout of white space. -/
theorem withoutBlanks_print {sp : Spacing} (hsp : sp.IsBlank) {v : Json} (hv : HoldsWords v)
    (depth : Nat) : withoutBlanks .outside (v.print sp depth) = v.print .none depth := by
  have hbared := isBared hsp hv depth []
  rwa [List.append_nil, withoutBlanks, List.append_nil] at hbared

end TreeScribe.Json
