import TreeScribe.Proofs.Doc.Lines
import TreeScribe.Proofs.Doc.Rewriting
import TreeScribe.Proofs.Literal.Spelling

/-!
# String literals in documents

By default a string literal is written as the JSON form of its value.  Line breaks of the value are
escaped in it, so no layout around it has anything to indent.  Main statement: the written literal
has the value of the raw one, is written as itself when it is read as a literal again, and stands
unchanged in the text of every document that holds it (`stringLiteral_stable`).
-/

namespace TreeScribe

open Doc

/-- A quoted text is written alike under all indents. -/
theorem Doc.renderAt_text_quote (outer : Nat) (s : List Char) :
    (Doc.text (Json.quote s)).renderAt outer = Json.quote s := by
  rw [text, renderAt_plain, indented_of_unbroken _ (Json.unbroken_quote s), renderAllAt,
    List.append_nil]

/-- A string literal is rendered as the JSON form of its value, whatever is below it. -/
theorem apply_stringLiteral (file : SourceFile) (visit : Node → Traced Doc) (n : Node) :
    (Scheme.plain .stringLiteral).apply file visit n =
      pure (.text (Json.quote (Literal.value (textOf file n)))) := rfl

/-- **String literals are stable and immune to layout.**  Whatever the raw text of a string literal
is, it is rendered by default as a text between double quotes that holds no character below the
space and has the same value.  A literal with that raw text is rendered as the same text again, and
the text stands unchanged in every document that holds it, whatever the frames around it. -/
theorem stringLiteral_stable (file : SourceFile) (visit : Node → Traced Doc) (n : Node) :
    ∃ quoted : List Char,
      (Scheme.plain .stringLiteral).apply file visit n = pure (.text quoted) ∧
      (Doc.text quoted).render? = .ok quoted ∧
      (∃ inner, quoted = '"' :: (inner ++ ['"'])) ∧
      (∀ c ∈ quoted, 0x20 ≤ c.toNat) ∧
      Literal.value quoted = Literal.value (textOf file n) ∧
      (∀ (file' : SourceFile) (visit' : Node → Traced Doc) (n' : Node), textOf file' n' = quoted →
        (Scheme.plain .stringLiteral).apply file' visit' n' = pure (.text quoted)) ∧
      ∀ fs : List Frame, (within fs (.text quoted)).fitsAt 0 = true →
        ∃ text, (within fs (.text quoted)).render? = .ok text ∧ quoted <:+: text := by
  have hvalue := Literal.value_quote (Literal.value (textOf file n))
  refine ⟨Json.quote (Literal.value (textOf file n)), apply_stringLiteral file visit n, ?_,
    ⟨_, rfl⟩, fun c => Json.le_toNat_of_mem_quote, hvalue, ?_, ?_⟩
  · have hfits : (Doc.text (Json.quote (Literal.value (textOf file n)))).fitsAt 0 = true := rfl
    rw [render?_of_fits hfits, render, renderAt_text_quote]
  · intro file' visit' n' htext
    rw [apply_stringLiteral, htext, hvalue]
  · intro fs hfits
    refine ⟨_, render?_of_fits hfits, infix_renderAt_within fs (fun outer => ?_) 0⟩
    have hquoted := renderAt_text_quote outer (Literal.value (textOf file n))
    exact hquoted.symm ▸ List.infix_refl (Json.quote (Literal.value (textOf file n)))

/-- A literal with a line break, a continued line, a quote, half a pair and two escapes. -/
def brokenLiteral : SourceFile := ⟨"input.ts", "'a\\\n b\n\"\\uD800\\x0a\\q'".toList⟩

/-- The whole of a file, as a string literal. -/
def SourceFile.literal (file : SourceFile) : Node :=
  .plain (.role .stringLiteral) ⟨0, Text.byteCount file.text⟩ []

/-- The literal loses its line breaks, and so keeps its value in a list with an indent. -/
theorem stringLiteral_stable_brokenLiteral :
    let visit : Node → Traced Doc := fun _ => pure .empty
    let quoted : List Char := "\"a b\\n\\\"\uFFFD\\nq\"".toList
    let again : SourceFile := ⟨"again.ts", quoted⟩
    let fs := openItem.1 ++ [openItem.2]
    textOf again again.literal = quoted ∧ (within fs (.text quoted)).fitsAt 0 = true ∧
      (Scheme.plain .stringLiteral).apply brokenLiteral visit brokenLiteral.literal =
        pure (.text quoted) ∧
      Literal.value quoted = "a b\n\"\uFFFD\nq".toList ∧
      (Scheme.plain .stringLiteral).apply again visit again.literal = pure (.text quoted) ∧
      ∃ text, (within fs (.text quoted)).render? = .ok text ∧ quoted <:+: text := by
  intro visit quoted again fs
  have hagain : textOf again again.literal = quoted := by decide
  have hfits : (within fs (.text quoted)).fitsAt 0 = true := by decide
  have hquoted :
      Json.quote (Literal.value (textOf brokenLiteral brokenLiteral.literal)) = quoted := by
    decide
  obtain ⟨text, happly, -, -, -, -, hstable, hframes⟩ :=
    stringLiteral_stable brokenLiteral visit brokenLiteral.literal
  rw [apply_stringLiteral, hquoted] at happly
  obtain rfl : quoted = text := by
    simpa [Doc.text, Doc.plain] using congrArg Traced.outcome happly
  exact ⟨hagain, hfits, by rw [apply_stringLiteral, hquoted], by decide,
    hstable again visit again.literal hagain, hframes fs hfits⟩

end TreeScribe
