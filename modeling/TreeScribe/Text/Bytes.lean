/-!
# Byte offsets in text

Text is a list of characters.  An offset into it counts the bytes of its UTF-8 form, so it may fall
inside a character; `cut?` cuts only between characters.  Main statement: a cut exists exactly where
the text splits with a first part of that many bytes (`cut?_eq_some_iff`).
-/

namespace TreeScribe.Text

/-- The number of bytes of the UTF-8 form of a text. -/
def byteCount : List Char → Nat
  | [] => 0
  | c :: cs => c.utf8Size + byteCount cs

/-- Cuts a text after its first `n` bytes.  There is no such cut past the end or inside a
character. -/
def cut? : Nat → List Char → Option (List Char × List Char)
  | 0, cs => some ([], cs)
  | _ + 1, [] => none
  | n + 1, c :: cs =>
    if c.utf8Size ≤ n + 1 then
      (cut? (n + 1 - c.utf8Size) cs).map fun (before, after) => (c :: before, after)
    else none

@[simp] theorem byteCount_nil : byteCount [] = 0 := rfl

@[simp] theorem byteCount_cons (c : Char) (cs : List Char) :
    byteCount (c :: cs) = c.utf8Size + byteCount cs := rfl

@[simp] theorem byteCount_append (cs ds : List Char) :
    byteCount (cs ++ ds) = byteCount cs + byteCount ds := by
  induction cs with
  | nil => simp
  | cons c cs ih => simp [ih, Nat.add_assoc]

/-- Cutting after the bytes of a first part gives the two parts back. -/
theorem cut?_append (p q : List Char) : cut? (byteCount p) (p ++ q) = some (p, q) := by
  induction p with
  | nil => cases q <;> rfl
  | cons c p ih =>
    have hpos := c.utf8Size_pos
    obtain ⟨n, hn⟩ : ∃ n, c.utf8Size + byteCount p = n + 1 :=
      ⟨c.utf8Size + byteCount p - 1, by omega⟩
    have hle : c.utf8Size ≤ n + 1 := by omega
    have hrest : n + 1 - c.utf8Size = byteCount p := by omega
    simp [hn, cut?, hle, hrest, ih]

/-- Both parts of a cut make up the text, and the first has the bytes asked for. -/
theorem eq_append_of_cut? {n : Nat} {cs p q : List Char} (h : cut? n cs = some (p, q)) :
    cs = p ++ q ∧ byteCount p = n := by
  induction cs generalizing n p q with
  | nil =>
    cases n with
    | zero =>
      obtain ⟨rfl, rfl⟩ : [] = p ∧ [] = q := by simpa [cut?] using h
      exact ⟨rfl, rfl⟩
    | succ n => simp [cut?] at h
  | cons c cs ih =>
    cases n with
    | zero =>
      obtain ⟨rfl, rfl⟩ : [] = p ∧ c :: cs = q := by simpa [cut?] using h
      exact ⟨rfl, rfl⟩
    | succ n =>
      rw [cut?] at h
      split at h
      next hle =>
        obtain ⟨⟨p', q'⟩, hcut, heq⟩ := Option.map_eq_some_iff.1 h
        obtain ⟨rfl, rfl⟩ := Prod.mk.inj heq
        obtain ⟨rfl, hcount⟩ := ih hcut
        exact ⟨rfl, by simp [hcount]; omega⟩
      next => simp at h

/-- A cut exists exactly where the text splits. -/
theorem cut?_eq_some_iff {n : Nat} {cs p q : List Char} :
    cut? n cs = some (p, q) ↔ cs = p ++ q ∧ byteCount p = n := by
  constructor
  · exact eq_append_of_cut?
  · rintro ⟨rfl, rfl⟩
    exact cut?_append p q

end TreeScribe.Text
