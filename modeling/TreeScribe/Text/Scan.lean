/-!
# Reading text from left to right

`expand` and `scan?` walk through a text.  At each position a step sees the character there and all
that follows, and answers with what it emits and with how many of the following characters it has
used; the walk goes on behind them.  Both recurse on the text, so a step needs no proof that it
advances.  Main statements: walking on behind `n` characters is walking the text without them
(`expand_skip`, `scan?_skip`).
-/

namespace TreeScribe.Text

variable {β : Type}

/-- Walks a text, leaving out its first characters, and joins what the steps emit. -/
def expand (step : Char → List Char → List β × Nat) : Nat → List Char → List β
  | _, [] => []
  | skip + 1, _ :: cs => expand step skip cs
  | 0, c :: cs => (step c cs).1 ++ expand step (step c cs).2 cs

/-- Walks a text as `expand` does, with steps that can fail. -/
def scan? (step : Char → List Char → Option (List β × Nat)) : Nat → List Char → Option (List β)
  | _, [] => some []
  | skip + 1, _ :: cs => scan? step skip cs
  | 0, c :: cs =>
    match step c cs with
    | none => none
    | some (emitted, used) => (scan? step used cs).map (emitted ++ ·)

theorem expand_skip (step : Char → List Char → List β × Nat) (n : Nat) (cs : List Char) :
    expand step n cs = expand step 0 (cs.drop n) := by
  induction cs generalizing n with
  | nil => simp [expand]
  | cons c cs ih =>
    cases n with
    | zero => rfl
    | succ n => rw [expand, List.drop_succ_cons, ih]

theorem scan?_skip (step : Char → List Char → Option (List β × Nat)) (n : Nat) (cs : List Char) :
    scan? step n cs = scan? step 0 (cs.drop n) := by
  induction cs generalizing n with
  | nil => simp [scan?]
  | cons c cs ih =>
    cases n with
    | zero => rfl
    | succ n => rw [scan?, List.drop_succ_cons, ih]

end TreeScribe.Text
