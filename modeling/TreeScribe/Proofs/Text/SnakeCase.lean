import TreeScribe.Proofs.Text.Lowercase
import TreeScribe.Text.SnakeCase

/-!
# Snake case, word by word

Whether a word begins at a character depends on its two neighbours in the name, before anything is
lower-cased.  An underscore is neither uppercase nor lowercase, so no word is seen across one.

Main statement: snake case acts on both sides of an underscore by itself, and where lower-casing
leads to characters that it does not change again, snake case is settled after the first time, has
no uppercase characters, and is the lower-cased name but for underscores (`snakeCase_settles`).
-/

namespace TreeScribe

open Text

namespace SnakeCase

variable {c d : Char} {name rest : List Char} {previous? : Option Char}

/-- Words begin at uppercase characters alone. -/
theorem startsWord_eq_false (hc : isUppercase c = false) : startsWord previous? c rest = false := by
  unfold startsWord
  rw [hc, Bool.false_and]

/-! ## Across an underscore -/

/-- Behind an underscore a word begins as it does at the start of a name. -/
theorem startsWord_behind_underscore (c : Char) (rest : List Char) :
    startsWord (some '_') c rest = startsWord none c rest := by
  have hlow : isLowercase '_' = false := by decide
  have hdigit : '_'.isDigit = false := by decide
  have hup : isUppercase '_' = false := by decide
  simp only [startsWord, hlow, hdigit, hup, Bool.false_and, Bool.or_false]

/-- An underscore ends a word as the end of the name does. -/
theorem startsWord_before_underscore (previous? : Option Char) (c : Char)
    (rest behind : List Char) :
    startsWord previous? c (rest ++ '_' :: behind) = startsWord previous? c rest := by
  cases rest with
  | nil =>
    have hlow : isLowercase '_' = false := by decide
    simp only [startsWord, List.nil_append, List.head?_cons, List.head?_nil, Option.map_some,
      Option.map_none, Option.getD_some, Option.getD_none, hlow]
  | cons d rest => rfl

theorem after_underscore (s : List Char) : after previous? ('_' :: s) = '_' :: after none s := by
  have hword : startsWord previous? '_' s = false := startsWord_eq_false (by decide)
  have hsame : toLowercase '_' = ['_'] := by decide
  have hbehind : after (some '_') s = after none s := by
    cases s with
    | nil => rfl
    | cons c rest => rw [after, after, startsWord_behind_underscore]
  rw [after, hword, hsame, hbehind]
  rfl

/-- **Snake case does not look across an underscore.** -/
theorem after_append_underscore (previous? : Option Char) (s t : List Char) :
    after previous? (s ++ '_' :: t) = after previous? s ++ '_' :: after none t := by
  induction s generalizing previous? with
  | nil => exact after_underscore t
  | cons c rest ih =>
    rw [List.cons_append, after, startsWord_before_underscore, ih, after, List.append_assoc,
      List.append_assoc, List.append_assoc]

/-! ## What snake case consists of -/

/-- Lower-casing leaves the character as it is, and it is not uppercase. -/
def IsSettled (c : Char) : Prop := isUppercase c = false ∧ toLowercase c = [c]

instance (c : Char) : Decidable (IsSettled c) := inferInstanceAs (Decidable (_ ∧ _))

/-- Lower-casing the characters of the name leads to settled ones. -/
def Settles (name : List Char) : Prop := ∀ c ∈ name, ∀ d ∈ toLowercase c, IsSettled d

instance (name : List Char) : Decidable (Settles name) :=
  have : DecidablePred fun c => ∀ d ∈ toLowercase c, IsSettled d := fun c =>
    List.decidableBAll _ (toLowercase c)
  List.decidableBAll _ name

/-- The characters of snake case are underscores and lower-case forms. -/
theorem eq_or_mem_of_mem_after (h : d ∈ after previous? name) :
    d = '_' ∨ ∃ c ∈ name, d ∈ toLowercase c := by
  induction name generalizing previous? with
  | nil => exact absurd h List.not_mem_nil
  | cons c rest ih =>
    rw [after, List.mem_append, List.mem_append] at h
    rcases h with (h | h) | h
    · split at h
      · exact .inl (List.mem_singleton.1 h)
      · exact absurd h List.not_mem_nil
    · exact .inr ⟨c, List.mem_cons_self .., h⟩
    · rcases ih h with hd | ⟨e, he, hd⟩
      · exact .inl hd
      · exact .inr ⟨e, List.mem_cons_of_mem c he, hd⟩

theorem Settles.isSettled (h : Settles name) (hd : d ∈ after previous? name) : IsSettled d := by
  rcases eq_or_mem_of_mem_after hd with rfl | ⟨c, hc, hd⟩
  · decide
  · exact h c hc d hd

/-- **Settled characters stay as they are**: no word begins among them. -/
theorem after_eq_self (h : ∀ c ∈ name, IsSettled c) : after previous? name = name := by
  induction name generalizing previous? with
  | nil => rfl
  | cons c rest ih =>
    obtain ⟨hup, hsame⟩ := h c (List.mem_cons_self ..)
    rw [after, startsWord_eq_false hup, hsame, ih fun d hd => h d (List.mem_cons_of_mem c hd)]
    rfl

/-- Lower-casing neither makes underscores nor takes them away. -/
theorem filter_toLowercase (c : Char) :
    (toLowercase c).filter (· ≠ '_') = if c ≠ '_' then toLowercase c else [] := by
  split
  · next hc =>
    refine List.filter_eq_self.2 fun d hd => decide_eq_true ?_
    rintro rfl
    exact hc (eq_of_mem_toLowercase (by decide) hd).symm
  · next hc =>
    rw [Decidable.not_not.1 hc]
    decide

/-- Without underscores, snake case is the lower-cased name without underscores. -/
theorem filter_after (previous? : Option Char) (name : List Char) :
    (after previous? name).filter (· ≠ '_') = (name.filter (· ≠ '_')).flatMap toLowercase := by
  induction name generalizing previous? with
  | nil => rfl
  | cons c rest ih =>
    have hmark : (if startsWord previous? c rest then ['_'] else []).filter (· ≠ '_') = [] := by
      split <;> rfl
    rw [after, List.filter_append, List.filter_append, hmark, ih, filter_toLowercase,
      List.filter_cons, List.nil_append]
    by_cases hc : c = '_'
    · simp [hc]
    · simp [hc]

/-- Names in ASCII settle. -/
theorem settles_of_ascii (h : ∀ c ∈ name, c.toNat < 128) : Settles name := by
  have hall : ∀ n < 128, Settles [Char.ofNat n] := by decide +kernel
  intro c hc
  have hsettled := hall c.toNat (h c hc)
  rw [Char.ofNat_toNat] at hsettled
  exact hsettled c (List.mem_singleton_self c)

end SnakeCase

open SnakeCase

/-- **Snake case is local to words and settles.**  It acts on both sides of an underscore by itself.
Where lower-casing leads to settled characters, as it does in ASCII, snake case is not changed by
snake case and has no uppercase characters.  Without its underscores it is the name without
underscores, each character lower-cased. -/
theorem snakeCase_settles :
    (∀ a b, snakeCase (a ++ '_' :: b) = snakeCase a ++ '_' :: snakeCase b) ∧
    (∀ name, Settles name →
      snakeCase (snakeCase name) = snakeCase name ∧
      (∀ c ∈ snakeCase name, isUppercase c = false) ∧
      (snakeCase name).filter (· ≠ '_') = (name.filter (· ≠ '_')).flatMap toLowercase) ∧
    (∀ name : List Char, (∀ c ∈ name, c.toNat < 128) → Settles name) := by
  refine ⟨after_append_underscore none, ?_, fun name h => settles_of_ascii h⟩
  intro name h
  exact ⟨after_eq_self fun c hc => h.isSettled hc, fun c hc => (h.isSettled hc).1,
    filter_after none name⟩

/-- A name with a character of two lower-case ones, a titlecase letter, a run of capitals at an
underscore, a digit, and a letter without case. -/
def mixedName : List Char := "xİaǅxHTTP_Server2Go中A_".toList

/-- Only words are taken apart, and once. -/
theorem snakeCase_settles_mixedName :
    Settles mixedName ∧ snakeCase mixedName = "x_i̇aǆx_http_server2_go中a_".toList ∧
    (snakeCase (snakeCase mixedName) = snakeCase mixedName ∧
      (∀ c ∈ snakeCase mixedName, isUppercase c = false) ∧
      (snakeCase mixedName).filter (· ≠ '_') =
        (mixedName.filter (· ≠ '_')).flatMap toLowercase) ∧
    (∀ c ∈ "parseJSON".toList, c.toNat < 128) ∧ Settles "parseJSON".toList := by
  have hmixed : Settles mixedName := by decide +kernel
  have hascii : ∀ c ∈ "parseJSON".toList, c.toNat < 128 := by simp
  exact ⟨hmixed, by decide +kernel, snakeCase_settles.2.1 mixedName hmixed, hascii,
    snakeCase_settles.2.2 _ hascii⟩

end TreeScribe
