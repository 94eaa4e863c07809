import TreeScribe.Proofs.Arguments.Items

/-!
# Arguments that differ in an item

What changes if arguments spell one item more (`Adds`), one item in place of another (`Swaps`), or
other items of one sort (`SameBut`).  Items may stand anywhere: which place an item takes among
arguments is no part of what they ask for.
-/

namespace TreeScribe.Arguments

variable {xs ys : List String} {items items' : List Item} {i j : Item} {p : Item → Bool}
  {a b : Arguments}

/-! ## Changes -/

/-- The second arguments spell the items of the first ones, and one more. -/
inductive Adds (i : Item) (xs ys : List String) : Prop
  | intro {items items' : List Item} (hxs : items? xs = some items) (hys : items? ys = some items')
      (hperm : items'.Perm (i :: items))

/-- The second arguments spell the items of the first ones, one in place of another. -/
inductive Swaps (i j : Item) (xs ys : List String) : Prop
  | intro {rest items items' : List Item} (hxs : items? xs = some items)
      (hys : items? ys = some items') (hperm : items.Perm (i :: rest))
      (hperm' : items'.Perm (j :: rest))

/-- Both arguments spell the same items, those apart of which `p` holds. -/
inductive SameBut (p : Item → Bool) (xs ys : List String) : Prop
  | intro {items items' : List Item} (hxs : items? xs = some items) (hys : items? ys = some items')
      (hperm : (items.filter (!p ·)).Perm (items'.filter (!p ·)))

theorem Swaps.symm (h : Swaps i j xs ys) : Swaps j i ys xs := by
  obtain ⟨hxs, hys, hperm, hperm'⟩ := h
  exact ⟨hys, hxs, hperm', hperm⟩

/-- Arguments that spell something ask for what it asks for. -/
theorem asks_of_read {items : List Item} (hxs : items? xs = some items) (hread : read xs = .ok a) :
    Asks items a := by
  obtain ⟨others, hothers, hasks⟩ := read_eq_ok_iff.1 hread
  obtain rfl := Option.some.inj (hxs.symm.trans hothers)
  exact hasks

/-! ## Changes at a place -/

/-- Behind an argument other than `--` there is more than files. -/
theorem snd_eq_false_of_argumentItems? {pending? : Option Setting} {x : String}
    {s : Spelled × Bool} (hx : x ≠ "--") (h : argumentItems? pending? false x = some s) :
    s.2 = false := by
  unfold argumentItems? at h
  split at h
  · split at h
    · cases h
    · obtain rfl := Option.some.inj h
      rfl
  · next hfalse => cases hfalse
  · split at h
    · next hdashes => exact absurd (String.toList_inj.1 hdashes) hx
    · obtain ⟨_, -, rfl⟩ := Option.map_eq_some_iff.1 h
      rfl
    · obtain ⟨_, -, rfl⟩ := Option.map_eq_some_iff.1 h
      rfl
    · obtain rfl := Option.some.inj h
      rfl

/-- Arguments without `--` spell the same in front of others. -/
theorem itemsFrom?_append {pending? : Option Setting} {items : List Item} (hdashes : "--" ∉ xs)
    (h : itemsFrom? pending? false xs = some items) :
    itemsFrom? pending? false (xs ++ ys) = (items? ys).map (items ++ ·) := by
  induction xs generalizing pending? items with
  | nil =>
    cases pending? with
    | some s => cases h
    | none =>
      obtain rfl := Option.some.inj h
      exact Option.map_id'.symm
  | cons x xs ih =>
    rw [List.mem_cons, not_or] at hdashes
    rw [itemsFrom?, Option.bind_eq_some_iff] at h
    obtain ⟨s, hs, h⟩ := h
    obtain ⟨more, hmore, rfl⟩ := Option.map_eq_some_iff.1 h
    have honly : s.2 = false := snd_eq_false_of_argumentItems? (Ne.symm hdashes.1) hs
    rw [honly] at hmore
    rw [List.cons_append, itemsFrom?, hs, Option.bind_some]
    dsimp only
    rw [honly, ih hdashes.2 hmore, Option.map_map]
    simp only [Function.comp_def, List.append_assoc]

/-- The strict flag may stand anywhere in front of `--`. -/
theorem adds_strict {before after : List Item} (hdashes : "--" ∉ xs)
    (hxs : items? xs = some before) (hys : items? ys = some after) :
    Adds (.flag .strict) (xs ++ ys) (xs ++ "--strict" :: ys) := by
  have hstrict : items? ("--strict" :: ys) = (items? ys).map (.flag .strict :: ·) := rfl
  have hwithout : items? (xs ++ ys) = some (before ++ after) := by
    rw [items?, itemsFrom?_append hdashes hxs, hys]
    rfl
  have hwith : items? (xs ++ "--strict" :: ys) = some (before ++ .flag .strict :: after) := by
    rw [items?, itemsFrom?_append hdashes hxs, hstrict, hys]
    rfl
  exact ⟨hwithout, hwith, List.perm_middle⟩

/-- The target `python` has a flag, and it has its name. -/
theorem swaps_python {before after : List Item} (hdashes : "--" ∉ xs)
    (hxs : items? xs = some before) (hys : items? ys = some after) :
    Swaps (.flag .python) (.setting .target "python") (xs ++ "-p" :: ys)
      (xs ++ "-t" :: "python" :: ys) := by
  have hpython : items? ("-p" :: ys) = (items? ys).map (.flag .python :: ·) := rfl
  have htarget : items? ("-t" :: "python" :: ys) =
      ((items? ys).map (.setting .target "python" :: ·)).map ([] ++ ·) := rfl
  have hflag : items? (xs ++ "-p" :: ys) = some (before ++ .flag .python :: after) := by
    rw [items?, itemsFrom?_append hdashes hxs, hpython, hys]
    rfl
  have hname : items? (xs ++ "-t" :: "python" :: ys) =
      some (before ++ .setting .target "python" :: after) := by
    rw [items?, itemsFrom?_append hdashes hxs, htarget, hys]
    rfl
  exact ⟨hflag, hname, List.perm_middle, List.perm_middle⟩

/-! ## What is asked for -/

/-- The strict flag asks for a strict run. -/
theorem Asks.cons_strict (h : Asks items a) (hstrict : a.strict = false) :
    Asks (.flag .strict :: items) { a with strict := true } := by
  have hmem : .flag .strict ∉ items := by
    rw [← h.strict, hstrict]
    exact Bool.false_ne_true
  refine ⟨List.forall_mem_cons.2 ⟨⟨by decide, by decide⟩, h.valid⟩, h.file, h.target, h.config,
    List.nodup_cons.2 ⟨?_, h.flags⟩, ?_, ?_, ?_⟩
  · rwa [mem_filterMap_flag?]
  · simp
  · simp [h.emitAst]
  · simp [h.verbose]

/-- With the strict flag, arguments ask for a strict run. -/
theorem Adds.read_strict (h : Adds (.flag .strict) xs ys) (hread : read xs = .ok a)
    (hstrict : a.strict = false) : read ys = .ok { a with strict := true } := by
  obtain ⟨hxs, hys, hperm⟩ := h
  have hasks := (asks_of_read hxs hread).cons_strict hstrict
  exact read_eq_ok_iff.2 ⟨_, hys, hasks.perm hperm⟩

/-- The flag of a target asks for what its name asks for. -/
theorem asks_python_iff :
    Asks (.flag .python :: items) a ↔ Asks (.setting .target "python" :: items) a := by
  have hvalue : (Item.setting .target "python").Valid := rfl
  constructor
  · rintro ⟨hvalid, hfile, htarget, hconfig, hflags, hstrict, hemit, hverbose⟩
    exact ⟨List.forall_mem_cons.2 ⟨hvalue, (List.forall_mem_cons.1 hvalid).2⟩, hfile, htarget,
      hconfig, (List.nodup_cons.1 hflags).2, by simpa using hstrict, by simpa using hemit,
      by simpa using hverbose⟩
  · rintro ⟨hvalid, hfile, htarget, hconfig, hflags, hstrict, hemit, hverbose⟩
    have hpython : .flag .python ∉ items := by
      intro hmem
      have hone := (eq_toList_iff.1 htarget).1
      have htwo : Target.python ∈ items.filterMap Item.target? :=
        List.mem_filterMap.2 ⟨_, hmem, rfl⟩
      have htarget : (Item.setting .target "python").target? = some .python := rfl
      rw [List.filterMap_cons_some htarget, List.length_cons] at hone
      have hpos := List.length_pos_of_mem htwo
      omega
    exact ⟨List.forall_mem_cons.2 ⟨⟨by decide, by decide⟩, (List.forall_mem_cons.1 hvalid).2⟩,
      hfile, htarget, hconfig, List.nodup_cons.2 ⟨by rwa [mem_filterMap_flag?], hflags⟩,
      by simpa using hstrict, by simpa using hemit, by simpa using hverbose⟩

/-- The target `python` is given by its flag or by its name. -/
theorem Swaps.read_python_iff (h : Swaps (.flag .python) (.setting .target "python") xs ys) :
    read xs = .ok a ↔ read ys = .ok a := by
  obtain ⟨hxs, hys, hperm, hperm'⟩ := h
  constructor
  · intro hread
    have hasks := asks_python_iff.1 ((asks_of_read hxs hread).perm hperm.symm)
    exact read_eq_ok_iff.2 ⟨_, hys, hasks.perm hperm'⟩
  · intro hread
    have hasks := asks_python_iff.2 ((asks_of_read hys hread).perm hperm'.symm)
    exact read_eq_ok_iff.2 ⟨_, hxs, hasks.perm hperm⟩

/-- Whether an item says how documents are made or judged: a target, or the strict flag. -/
def Item.concernsDocument : Item → Bool
  | .flag .python | .flag .strict | .setting .target _ => true
  | _ => false

/-- What is collected from items is not touched by those that bring nothing. -/
theorem filterMap_filter_not {α : Type} {f : Item → Option α} (hf : ∀ i, p i = true → f i = none) :
    (items.filter (!p ·)).filterMap f = items.filterMap f := by
  induction items with
  | nil => rfl
  | cons i items ih =>
    cases hi : p i with
    | true => rw [List.filter_cons_of_neg (by simp [hi]), List.filterMap_cons_none (hf i hi), ih]
    | false =>
      rw [List.filter_cons_of_pos (by simp [hi]), List.filterMap_cons, List.filterMap_cons, ih]

/-- What is collected once, from items that do not matter, is the same. -/
theorem eq_of_perm_filter {α : Type} {f : Item → Option α} {x? y? : Option α}
    (hperm : (items.filter (!p ·)).Perm (items'.filter (!p ·))) (hf : ∀ i, p i = true → f i = none)
    (hx : items.filterMap f = x?.toList) (hy : items'.filterMap f = y?.toList) : y? = x? := by
  have hmap := hperm.filterMap f
  rw [filterMap_filter_not hf, filterMap_filter_not hf, hx, hy, perm_toList_iff] at hmap
  rw [← (eq_toList_iff.1 hmap).2, Option.head?_toList]

/-- Arguments that differ in what concerns documents agree in everything else. -/
theorem SameBut.agree (h : SameBut Item.concernsDocument xs ys) (hxs : read xs = .ok a)
    (hys : read ys = .ok b) :
    b.file = a.file ∧ b.config? = a.config? ∧ b.emitAst = a.emitAst := by
  obtain ⟨hitems, hitems', hperm⟩ := h
  have ha := asks_of_read hitems hxs
  have hb := asks_of_read hitems' hys
  have hfile : some b.file = some a.file := by
    refine eq_of_perm_filter hperm (f := Item.file?) ?_ ha.file hb.file
    rintro (path | f | ⟨s, value⟩) hi
    · cases hi
    · rfl
    · rfl
  have hconfig : b.config? = a.config? := by
    refine eq_of_perm_filter hperm (f := Item.config?) ?_ ha.config hb.config
    rintro (path | f | ⟨s | s, value⟩) hi
    · rfl
    · rfl
    · rfl
    · cases hi
  have hemit := hperm.mem_iff (a := Item.flag .emitAst)
  rw [List.mem_filter, List.mem_filter] at hemit
  refine ⟨Option.some.inj hfile, hconfig, ?_⟩
  rw [Bool.eq_iff_iff, hb.emitAst, ha.emitAst]
  simpa [Item.concernsDocument] using hemit.symm

end TreeScribe.Arguments
