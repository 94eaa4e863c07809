import TreeScribe.Span

/-!
# Slices

A slice takes bytes, so its text is that of the span only where both ends of the span fall between
characters.  Main statements: there, the slice stands in the text from the span's start to its stop
(`exists_eq_append_slice`), and the slice of a span is a part of the slice of every span around it
(`slice_infix_slice`).  A slice is the text that its offsets cut out, or else empty
(`cutsOut_slice`).  So slices are exact, side by side they make up the slice of both, and the slice
of a merge holds the slices of the merged spans (`slice_exact`).
-/

namespace TreeScribe

namespace Text

/-- The offset falls between characters of the text, or at one of its ends. -/
def IsBoundary (text : List Char) (k : Nat) : Prop := (cut? k text).isSome = true

instance (text : List Char) (k : Nat) : Decidable (IsBoundary text k) :=
  inferInstanceAs (Decidable (_ = _))

/-- The text splits at a boundary. -/
theorem isBoundary_iff {text : List Char} {k : Nat} :
    IsBoundary text k ↔ ∃ p q, text = p ++ q ∧ byteCount p = k := by
  simp [IsBoundary, Option.isSome_iff_exists, cut?_eq_some_iff]

/-- Only the empty text has no bytes. -/
theorem eq_nil_of_byteCount {cs : List Char} (h : byteCount cs = 0) : cs = [] := by
  cases cs with
  | nil => rfl
  | cons c cs =>
    have hpos := c.utf8Size_pos
    rw [byteCount_cons] at h
    omega

/-- Of two prefixes of a text, one with no more bytes is a prefix of the other. -/
theorem prefix_of_byteCount_le {p p' text : List Char} (hp : p <+: text) (hp' : p' <+: text)
    (hle : byteCount p ≤ byteCount p') : p <+: p' := by
  rcases List.prefix_or_prefix_of_prefix hp hp' with h | ⟨r, rfl⟩
  · exact h
  · have hr : r = [] := eq_nil_of_byteCount (by rw [byteCount_append] at hle; omega)
    exact ⟨[], by simp [hr]⟩

end Text

namespace Span

open Text

/-- Both ends of the span fall between characters of the text. -/
def OnBoundaries (s : Span) (text : List Char) : Prop :=
  IsBoundary text s.start ∧ IsBoundary text s.stop

instance (s : Span) (text : List Char) : Decidable (s.OnBoundaries text) :=
  inferInstanceAs (Decidable (_ ∧ _))

/-- The slice of a middle part is that part. -/
theorem slice_append (p s q : List Char) :
    slice ⟨byteCount p, byteCount (p ++ s)⟩ (p ++ s ++ q) = s := by
  have hrest : byteCount (p ++ s) - byteCount p = byteCount s := by
    rw [byteCount_append, Nat.add_sub_cancel_left]
  rw [slice, if_pos (by simp), List.append_assoc, cut?_append]
  simp only [hrest, cut?_append, Option.map_some, Option.getD_some]

/-- **The slice is the text of the span**: it begins and ends where the span does. -/
theorem exists_eq_append_slice {s : Span} {text : List Char} (hs : s.OnBoundaries text)
    (hle : s.start ≤ s.stop) :
    ∃ p q, text = p ++ s.slice text ++ q ∧ byteCount p = s.start ∧
      byteCount (p ++ s.slice text) = s.stop := by
  obtain ⟨start, stop⟩ := s
  obtain ⟨p, q, htext, rfl⟩ := isBoundary_iff.1 hs.1
  obtain ⟨p', q', htext', rfl⟩ := isBoundary_iff.1 hs.2
  obtain ⟨r, rfl⟩ := prefix_of_byteCount_le ⟨q, htext.symm⟩ ⟨q', htext'.symm⟩ hle
  have hslice : slice ⟨byteCount p, byteCount (p ++ r)⟩ text = r := by rw [htext', slice_append]
  rw [hslice]
  exact ⟨p, q', htext', rfl, rfl⟩

/-- The text that two offsets cut out of a text: what is between them, or nothing if the text does
not split there. -/
inductive CutsOut (source : List Char) (start stop : Nat) : List Char → Prop
  | between {before text behind : List Char} (hsource : source = before ++ text ++ behind)
      (hstart : byteCount before = start) (hstop : byteCount (before ++ text) = stop) :
      CutsOut source start stop text
  | nowhere
      (hsplit : ¬ ∃ before text behind, source = before ++ text ++ behind ∧
        byteCount before = start ∧ byteCount (before ++ text) = stop) :
      CutsOut source start stop []

/-- A slice is what its two offsets cut out. -/
theorem cutsOut_slice (s : Span) (source : List Char) :
    CutsOut source s.start s.stop (s.slice source) := by
  obtain ⟨start, stop⟩ := s
  by_cases hsplit : ∃ before text behind, source = before ++ text ++ behind ∧
      byteCount before = start ∧ byteCount (before ++ text) = stop
  · obtain ⟨before, text, behind, rfl, rfl, rfl⟩ := hsplit
    rw [slice_append]
    exact .between rfl rfl rfl
  · -- a slice that is not empty comes from two cuts, which split the text
    have hnil : slice ⟨start, stop⟩ source = [] := by
      unfold slice
      dsimp only
      split
      · next hle =>
        split
        · rfl
        · next before rest hfirst =>
          cases hsecond : cut? (stop - start) rest with
          | none => rfl
          | some parts =>
            obtain ⟨text, behind⟩ := parts
            obtain ⟨rfl, hstart⟩ := eq_append_of_cut? hfirst
            obtain ⟨rfl, hlength⟩ := eq_append_of_cut? hsecond
            refine absurd ⟨before, text, behind, by simp, hstart, ?_⟩ hsplit
            rw [byteCount_append]
            omega
      · rfl
    rw [hnil]
    exact .nowhere hsplit

/-- A slice is a part of the slice of any span around its own. -/
theorem slice_infix_slice {outer inner : Span} {text : List Char}
    (houter : outer.OnBoundaries text) (hinner : inner.OnBoundaries text)
    (hstart : outer.start ≤ inner.start) (hle : inner.start ≤ inner.stop)
    (hstop : inner.stop ≤ outer.stop) : inner.slice text <:+: outer.slice text := by
  obtain ⟨p, q, htext, hp, hend⟩ := exists_eq_append_slice houter (by omega)
  obtain ⟨p', q', htext', hp', hend'⟩ := exists_eq_append_slice hinner hle
  have hpq : p ++ (outer.slice text ++ q) = text := by rw [← List.append_assoc, ← htext]
  have hpq' : p' ++ (inner.slice text ++ q') = text := by rw [← List.append_assoc, ← htext']
  obtain ⟨u, rfl⟩ : p <+: p' := prefix_of_byteCount_le ⟨_, hpq⟩ ⟨_, hpq'⟩ (by omega)
  obtain ⟨v, hv⟩ : p ++ u ++ inner.slice text <+: p ++ outer.slice text :=
    prefix_of_byteCount_le ⟨q', htext'.symm⟩ ⟨q, htext.symm⟩ (by omega)
  rw [List.append_assoc p, List.append_assoc p] at hv
  exact ⟨u, v, List.append_cancel_left hv⟩

/-! ## Slices by the bytes of their text -/

/-- The bytes of a text are those of its UTF-8 form. -/
theorem utf8ByteSize_ofList (cs : List Char) : (String.ofList cs).utf8ByteSize = byteCount cs := by
  induction cs with
  | nil => rfl
  | cons c cs ih =>
    rw [String.ofList_cons, String.utf8ByteSize_append, String.utf8ByteSize_singleton, ih,
      byteCount_cons]

/-- `middle` is what stands in the text between two offsets, which count bytes of UTF-8. -/
def StandsBetween (text : List Char) (start stop : Nat) (middle : List Char) : Prop :=
  start ≤ stop ∧ ∃ before behind, text = before ++ middle ++ behind ∧
    (String.ofList before).utf8ByteSize = start ∧
      (String.ofList middle).utf8ByteSize = stop - start

/-- Where text stands between two offsets, the slice is that text. -/
theorem StandsBetween.slice_eq {text middle : List Char} {s : Span}
    (h : StandsBetween text s.start s.stop middle) : s.slice text = middle := by
  obtain ⟨start, stop⟩ := s
  obtain ⟨hle, before, behind, rfl, hstart, hlength⟩ := h
  rw [utf8ByteSize_ofList] at hstart hlength
  obtain rfl : byteCount before = start := hstart
  obtain rfl : byteCount (before ++ middle) = stop := by
    rw [byteCount_append, hlength]
    exact Nat.add_sub_of_le hle
  exact slice_append before middle behind

/-- Where no text stands between two offsets, the slice is empty. -/
theorem slice_eq_nil {text : List Char} {s : Span}
    (h : ¬∃ middle, StandsBetween text s.start s.stop middle) : s.slice text = [] := by
  have hcut := cutsOut_slice s text
  generalize s.slice text = cut at hcut ⊢
  cases hcut with
  | nowhere => rfl
  | @between before middle behind htext hstart hstop =>
    rw [byteCount_append] at hstop
    refine absurd ⟨_, ?_, before, behind, htext, ?_, ?_⟩ h
    · omega
    · rw [utf8ByteSize_ofList, hstart]
    · rw [utf8ByteSize_ofList]
      omega

/-- Text begins and ends at boundaries. -/
theorem StandsBetween.isBoundary {text middle : List Char} {start stop : Nat}
    (h : StandsBetween text start stop middle) : IsBoundary text start ∧ IsBoundary text stop := by
  obtain ⟨hle, before, behind, rfl, hstart, hlength⟩ := h
  rw [utf8ByteSize_ofList] at hstart hlength
  refine ⟨isBoundary_iff.2 ⟨before, middle ++ behind, List.append_assoc .., hstart⟩,
    isBoundary_iff.2 ⟨before ++ middle, behind, rfl, ?_⟩⟩
  rw [byteCount_append]
  omega

/-- Slices side by side make up the slice of both. -/
theorem slice_append_slice {text : List Char} {i j k : Nat} (hij : i ≤ j) (hjk : j ≤ k)
    (hi : IsBoundary text i) (hj : IsBoundary text j) (hk : IsBoundary text k) :
    slice ⟨i, j⟩ text ++ slice ⟨j, k⟩ text = slice ⟨i, k⟩ text := by
  obtain ⟨p, q, htext, rfl⟩ := isBoundary_iff.1 hi
  obtain ⟨p', q', htext', rfl⟩ := isBoundary_iff.1 hj
  obtain ⟨p'', q'', htext'', rfl⟩ := isBoundary_iff.1 hk
  obtain ⟨r, rfl⟩ := prefix_of_byteCount_le ⟨q, htext.symm⟩ ⟨q', htext'.symm⟩ hij
  obtain ⟨t, rfl⟩ := prefix_of_byteCount_le ⟨q', htext'.symm⟩ ⟨q'', htext''.symm⟩ hjk
  have hwhole := slice_append p (r ++ t) q''
  rw [← List.append_assoc, ← htext''] at hwhole
  have hfirst := slice_append p r q'
  rw [← htext'] at hfirst
  have hsecond := slice_append (p ++ r) t q''
  rw [← htext''] at hsecond
  rw [hfirst, hsecond, hwhole]

/-- Each end of a merge is an end of one of the merged spans. -/
theorem OnBoundaries.merge {s t : Span} {text : List Char} (hs : s.OnBoundaries text)
    (ht : t.OnBoundaries text) : (s.merge t).OnBoundaries text := by
  constructor
  · rw [Span.merge, Nat.min_def]
    split
    · exact hs.1
    · exact ht.1
  · rw [Span.merge, Nat.max_def]
    split
    · exact ht.2
    · exact hs.2

/-- **Slices are exact.**  The slice of a span is what stands in the text between its ends, and empty
where nothing does: if the ends are out of order, past the text or inside a character.  So slices
side by side make up the slice of both, and the slice of a merge holds the slices of both spans. -/
theorem slice_exact (text : List Char) :
    (∀ (s : Span) (middle : List Char), StandsBetween text s.start s.stop middle →
      s.slice text = middle) ∧
    (∀ s : Span, (¬∃ middle, StandsBetween text s.start s.stop middle) → s.slice text = []) ∧
    (∀ i j k, i ≤ j → j ≤ k → IsBoundary text i → IsBoundary text j → IsBoundary text k →
      slice ⟨i, j⟩ text ++ slice ⟨j, k⟩ text = slice ⟨i, k⟩ text) ∧
    (∀ s t : Span, s.OnBoundaries text → t.OnBoundaries text → s.start ≤ s.stop →
      t.start ≤ t.stop →
      s.slice text <:+: (s.merge t).slice text ∧ t.slice text <:+: (s.merge t).slice text) := by
  refine ⟨fun s middle h => h.slice_eq, fun s h => slice_eq_nil h, ?_, ?_⟩
  · intro i j k hij hjk hi hj hk
    exact slice_append_slice hij hjk hi hj hk
  · intro s t hs ht hsle htle
    have hmerge := hs.merge ht
    exact ⟨slice_infix_slice hmerge hs (Nat.min_le_left ..) hsle (Nat.le_max_left ..),
      slice_infix_slice hmerge ht (Nat.min_le_right ..) htle (Nat.le_max_right ..)⟩

/-- Characters of one to four bytes. -/
def wideText : List Char := "aé€😀".toList

/-- Slices between the characters, one that begins inside `é`, two side by side, and a merge of spans
with a gap between them, in reverse order. -/
theorem slice_exact_wideText :
    StandsBetween wideText 1 6 "é€".toList ∧ slice ⟨1, 6⟩ wideText = "é€".toList ∧
    (¬∃ middle, StandsBetween wideText 2 6 middle) ∧ slice ⟨2, 6⟩ wideText = [] ∧
    (IsBoundary wideText 1 ∧ IsBoundary wideText 3 ∧ IsBoundary wideText 10) ∧
    slice ⟨1, 3⟩ wideText ++ slice ⟨3, 10⟩ wideText = slice ⟨1, 10⟩ wideText ∧
    (OnBoundaries ⟨3, 6⟩ wideText ∧ OnBoundaries ⟨0, 1⟩ wideText) ∧
    slice ⟨3, 6⟩ wideText <:+: slice (merge ⟨3, 6⟩ ⟨0, 1⟩) wideText ∧
    slice ⟨0, 1⟩ wideText <:+: slice (merge ⟨3, 6⟩ ⟨0, 1⟩) wideText := by
  obtain ⟨hbetween, hnowhere, hadjacent, hmerge⟩ := slice_exact wideText
  have hmiddle : StandsBetween wideText 1 6 "é€".toList :=
    ⟨by decide, ['a'], ['😀'], by decide, by decide, by decide⟩
  have hinside : ¬∃ middle, StandsBetween wideText 2 6 middle := by
    rintro ⟨middle, h⟩
    exact absurd h.isBoundary.1 (by decide)
  exact ⟨hmiddle, hbetween ⟨1, 6⟩ _ hmiddle, hinside, hnowhere ⟨2, 6⟩ hinside, by decide,
    hadjacent 1 3 10 (by decide) (by decide) (by decide) (by decide) (by decide), by decide,
    hmerge ⟨3, 6⟩ ⟨0, 1⟩ (by decide) (by decide) (by decide) (by decide)⟩

end Span

end TreeScribe
