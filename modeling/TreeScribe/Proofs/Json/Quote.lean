import TreeScribe.Json.Lexer
import TreeScribe.Proofs.Text.Hexadecimal

/-!
# Quoted text read back

What is written for a character inside a string holds no quote that closes the string
(`escaped_eq`), and reading it gives the character.

Main statement: the token of a string is read back from its quoted text (`stringToken?_quoted`).
-/

namespace TreeScribe.Json

open Text

/-- What is written for a character is the character itself, neither a quote nor a backslash, or a
backslash, any character behind it, and none of the two from there on. -/
theorem escaped_eq (c : Char) :
    (c ≠ '"' ∧ c ≠ '\\' ∧ escaped c = [c]) ∨
    ∃ d ds, escaped c = '\\' :: d :: ds ∧ ∀ e ∈ ds, e ≠ '"' ∧ e ≠ '\\' := by
  rcases escaped_cases c with ⟨letter, -, h⟩ | ⟨hcontrol, h⟩ | ⟨hquote, hbackslash, -, h⟩
  · exact .inr ⟨letter, [], h, by simp⟩
  · have hdigit : ∀ d < 16, Nat.digitChar d ≠ '"' ∧ Nat.digitChar d ≠ '\\' := by decide
    have hhigh := hdigit (c.toNat / 16) (by omega)
    have hlow := hdigit (c.toNat % 16) (by omega)
    exact .inr ⟨'u', _, h, by simp [hhigh, hlow]⟩
  · exact .inl ⟨hquote, hbackslash, h⟩

/-! ## The body of a string -/

/-- Characters that neither close a string nor begin an escape belong to the body. -/
theorem stringBody?_append {ds : List Char} (hds : ∀ e ∈ ds, e ≠ '"' ∧ e ≠ '\\') (cs : List Char) :
    stringBody? '"' false (ds ++ cs) = (stringBody? '"' false cs).map (ds ++ ·) := by
  induction ds with
  | nil => exact Option.map_id_apply.symm
  | cons d ds ih =>
    obtain ⟨hquote, hbackslash⟩ := hds d (List.mem_cons_self ..)
    have hstep : stringBody? '"' false (d :: (ds ++ cs)) =
        (stringBody? '"' false (ds ++ cs)).map (d :: ·) := by
      simp [stringBody?, hquote, hbackslash]
    rw [List.cons_append, hstep, ih fun e he => hds e (List.mem_cons_of_mem d he), Option.map_map]
    rfl

/-- An escape and the character behind its backslash belong to the body. -/
theorem stringBody?_escape (c : Char) (cs : List Char) :
    stringBody? '"' false ('\\' :: c :: cs) =
      (stringBody? '"' false cs).map fun body => '\\' :: c :: body := by
  simp [stringBody?, Function.comp_def]

/-- What is written for a character belongs to the body. -/
theorem stringBody?_escaped (c : Char) (cs : List Char) :
    stringBody? '"' false (escaped c ++ cs) = (stringBody? '"' false cs).map (escaped c ++ ·) := by
  rcases escaped_eq c with ⟨hquote, hbackslash, h⟩ | ⟨d, ds, h, hds⟩
  · rw [h]
    exact stringBody?_append (by simp [hquote, hbackslash]) cs
  · rw [h, List.cons_append, List.cons_append, stringBody?_escape, stringBody?_append hds,
      Option.map_map]
    rfl

/-- The body of a quoted text ends at its closing quote. -/
theorem stringBody?_quoted (text rest : List Char) :
    stringBody? '"' false (text.flatMap escaped ++ '"' :: rest) = some (text.flatMap escaped) := by
  induction text with
  | nil => simp [stringBody?]
  | cons c text ih =>
    rw [List.flatMap_cons, List.append_assoc, stringBody?_escaped, ih, Option.map_some]

/-! ## The characters of a string -/

theorem scalar?_toNat (c : Char) : scalar? c.toNat = some c := by
  have hvalid : c.toNat.isValidChar := c.valid
  rw [scalar?, dif_pos hvalid]
  rfl

/-- The letters of escapes are read as the characters that they stand for. -/
theorem stringEscape?_letter {c letter : Char} (h : (c, letter) ∈ letterFor) (cs : List Char) :
    stringEscape? '"' (letter :: cs) = some ([some c], 1) := by
  simp only [letterFor, List.mem_cons, List.not_mem_nil, or_false, Prod.mk.injEq] at h
  rcases h with ⟨rfl, rfl⟩ | ⟨rfl, rfl⟩ | ⟨rfl, rfl⟩ | ⟨rfl, rfl⟩ | ⟨rfl, rfl⟩ | ⟨rfl, rfl⟩ |
    ⟨rfl, rfl⟩ <;> rfl

/-- The code of a control character is read as that character. -/
theorem stringEscape?_code {c : Char} (h : c.toNat < 0x20) (cs : List Char) :
    stringEscape? '"'
        ('u' :: (['0', '0', Nat.digitChar (c.toNat / 16), Nat.digitChar (c.toNat % 16)] ++ cs)) =
      some ([some c], 5) := by
  have hcode : hexHead? 4
      (['0', '0', Nat.digitChar (c.toNat / 16), Nat.digitChar (c.toNat % 16)] ++ cs) =
        some c.toNat := (hexNumeral_byte (by omega)).hexHead?_append rfl cs
  have hhigh : isHighSurrogate c.toNat = false := by
    rw [isHighSurrogate, Bool.and_eq_false_iff]
    exact .inl (decide_eq_false (by omega))
  rw [stringEscape?, hcode, Option.map_some, hhigh]
  simp only [Bool.false_eq_true, if_false, scalar?_toNat]

/-- What is written for a character is read as that character. -/
theorem scan?_escaped (c : Char) (cs : List Char) :
    scan? (stringStep? false '"') 0 (escaped c ++ cs) =
      (scan? (stringStep? false '"') 0 cs).map (some c :: ·) := by
  rcases escaped_cases c with ⟨letter, hletter, h⟩ | ⟨hcontrol, h⟩ | ⟨-, hbackslash, hspace, h⟩
  · rw [h, List.cons_append, List.cons_append, List.nil_append, scan?, stringStep?, if_pos rfl,
      stringEscape?_letter hletter]
    rfl
  · rw [h, List.cons_append, List.cons_append, scan?, stringStep?, if_pos rfl,
      stringEscape?_code hcontrol]
    rfl
  · have hstep : stringStep? false '"' c cs = some ([some c], 0) := by
      rw [stringStep?, if_neg hbackslash, if_neg fun h => Nat.not_lt.2 hspace h.2]
    rw [h, List.singleton_append, scan?, hstep]
    rfl

theorem scan?_flatMap_escaped (text : List Char) :
    scan? (stringStep? false '"') 0 (text.flatMap escaped) = some (text.map some) := by
  induction text with
  | nil => rfl
  | cons c text ih => rw [List.flatMap_cons, scan?_escaped, ih, Option.map_some, List.map_cons]

/-- **The token of a string is read back**, behind the opening quote, whatever follows. -/
theorem stringToken?_quoted (text rest : List Char) :
    stringToken? false '"' (text.flatMap escaped ++ '"' :: rest) =
      some (.string (String.ofList text) true, (text.flatMap escaped).length + 2) := by
  have hwhole : (text.map some).all Option.isSome = true := by simp
  have hchars : (text.map some).map (·.getD replacement) = text := by
    rw [List.map_map]
    exact List.map_id text
  simp [stringToken?, stringBody?_quoted, scan?_flatMap_escaped, hwhole, hchars]

end TreeScribe.Json
