import TreeScribe.Command.Arguments

/-!
# What arguments spell

Arguments spell items: files, flags, and settings with their values.  One argument may spell several
items, and a setting and its value may stand in two arguments.  Main statements: a list of arguments
asks for what its items ask for (`read_eq_ok_iff`), in whichever order they stand (`Asks.perm`).
-/

namespace TreeScribe.Arguments

/-! ## Items -/

/-- A file, a flag, or a setting with its value. -/
inductive Item
  | file (path : String)
  | flag (f : Flag)
  | setting (s : Setting) (value : String)
deriving DecidableEq, Repr

namespace Item

/-- The path of a file. -/
def file? : Item → Option String
  | .file path => some path
  | _ => none

/-- The flag. -/
def flag? : Item → Option Flag
  | .flag f => some f
  | _ => none

/-- The target that a setting names. -/
def named? : Item → Option Target
  | .setting .target value => Target.ofName? value
  | _ => none

/-- The target that a setting names, or that has its own flag. -/
def target? : Item → Option Target
  | .flag .python => some .python
  | i => i.named?

/-- The path of a configuration file. -/
def config? : Item → Option String
  | .setting .config value => some value
  | _ => none

/-- Paths are not empty, a target has its name, and no flag asks for something else than a run. -/
def Valid : Item → Prop
  | .file path => path ≠ ""
  | .flag f => f ≠ .version ∧ f ≠ .help
  | .setting .target value => (Target.ofName? value).isSome = true
  | .setting .config value => value ≠ ""

end Item

/-! ## Spelling -/

/-- The items of an argument, and the setting that waits for its value behind it. -/
structure Spelled where
  items : List Item
  pending? : Option Setting
deriving DecidableEq, Repr

/-- What letters behind a hyphen spell. -/
def letterItems? : List Char → Option Spelled
  | [] => some ⟨[], none⟩
  | c :: cs =>
    match letters.lookup c with
    | none => none
    | some (.inr flag) => (letterItems? cs).map fun s => ⟨.flag flag :: s.items, s.pending?⟩
    | some (.inl setting) =>
      if cs = [] then some ⟨[], some setting⟩
      else
        let value := if cs.head? = some '=' then cs.drop 1 else cs
        some ⟨[.setting setting (String.ofList value)], none⟩

/-- What a long option spells. -/
def longItems? (cs : List Char) : Option Spelled :=
  let name := cs.takeWhile (· != '=')
  let value? := if name.length < cs.length then some (cs.drop (name.length + 1)) else none
  match longNames.lookup name, value? with
  | some (.inr flag), none => some ⟨[.flag flag], none⟩
  | some (.inl setting), none => some ⟨[], some setting⟩
  | some (.inl setting), some value => some ⟨[.setting setting (String.ofList value)], none⟩
  | _, _ => none

/-- What an argument spells behind a setting that waits for its value, or behind `--`, and whether
`--` stands in front of the next one. -/
def argumentItems? : Option Setting → Bool → String → Option (Spelled × Bool)
  | some setting, onlyFiles, x =>
    if x.toList.head? = some '-' ∧ x.toList ≠ ['-'] then none
    else some (⟨[.setting setting x], none⟩, onlyFiles)
  | none, true, x => some (⟨[.file x], none⟩, true)
  | none, false, x =>
    match x.toList with
    | ['-', '-'] => some (⟨[], none⟩, true)
    | '-' :: '-' :: cs => (longItems? cs).map (·, false)
    | '-' :: c :: cs => (letterItems? (c :: cs)).map (·, false)
    | _ => some (⟨[.file x], none⟩, false)

/-- What arguments spell behind a setting that waits for its value, or behind `--`. -/
def itemsFrom? (pending? : Option Setting) (onlyFiles : Bool) : List String → Option (List Item)
  | [] => if pending?.isSome then none else some []
  | x :: xs =>
    (argumentItems? pending? onlyFiles x).bind fun (spelled, onlyFiles) =>
      (itemsFrom? spelled.pending? onlyFiles xs).map (spelled.items ++ ·)

/-- What arguments spell. -/
def items? (arguments : List String) : Option (List Item) := itemsFrom? none false arguments

example : items? ["-vtpython", "--config", "c", "--", "-p"] =
    some [.flag .verbose, .setting .target "python", .setting .config "c", .file "-p"] := by decide

/-! ## Reading items -/

/-- Items that can be read together: each is valid, there are one file, one target and one
configuration at most, and no flag comes twice. -/
structure Compatible (items : List Item) : Prop where
  valid : ∀ i ∈ items, i.Valid
  files : (items.filterMap Item.file?).length ≤ 1
  targets : (items.filterMap Item.named?).length ≤ 1
  configs : (items.filterMap Item.config?).length ≤ 1
  flags : (items.filterMap Item.flag?).Nodup

theorem Compatible.of_append {xs ys : List Item} (h : Compatible (xs ++ ys)) : Compatible xs := by
  obtain ⟨hvalid, hfiles, htargets, hconfigs, hflags⟩ := h
  simp only [List.filterMap_append, List.length_append] at hfiles htargets hconfigs hflags
  exact ⟨fun i hi => hvalid i (List.mem_append_left _ hi), by omega, by omega, by omega,
    (List.nodup_append.1 hflags).1⟩

/-- At most one value stays at most one value behind an item that brings none, or if there is none
yet. -/
theorem length_filterMap_concat {α : Type} {f : Item → Option α} {items : List Item} {i : Item}
    (h : (items.filterMap f).length ≤ 1) :
    ((items ++ [i]).filterMap f).length ≤ 1 ↔ ∀ x ∈ f i, items.filterMap f = [] := by
  rw [List.filterMap_append, List.length_append, List.filterMap_cons, List.filterMap_nil]
  cases f i with
  | none => simpa using h
  | some x => simp

/-- What an item must keep to behind compatible items. -/
theorem compatible_concat {items : List Item} {i : Item} (h : Compatible items) :
    Compatible (items ++ [i]) ↔ i.Valid ∧ (∀ x ∈ i.file?, items.filterMap Item.file? = []) ∧
      (∀ x ∈ i.named?, items.filterMap Item.named? = []) ∧
      (∀ x ∈ i.config?, items.filterMap Item.config? = []) ∧
      ∀ f ∈ i.flag?, f ∉ items.filterMap Item.flag? := by
  have hflags : ((items ++ [i]).filterMap Item.flag?).Nodup ↔
      ∀ f ∈ i.flag?, f ∉ items.filterMap Item.flag? := by
    rw [List.filterMap_append, List.filterMap_cons, List.filterMap_nil]
    cases i.flag? with
    | none => simpa using h.flags
    | some f => simp [List.nodup_append, h.flags, List.forall_mem_ne', -List.mem_filterMap]
  rw [← length_filterMap_concat h.files, ← length_filterMap_concat h.targets,
    ← length_filterMap_concat h.configs, ← hflags]
  constructor
  · rintro ⟨hvalid, hfiles, htargets, hconfigs, hflags⟩
    exact ⟨hvalid i (by simp), hfiles, htargets, hconfigs, hflags⟩
  · rintro ⟨hvalid, hfiles, htargets, hconfigs, hflags⟩
    refine ⟨?_, hfiles, htargets, hconfigs, hflags⟩
    intro j hj
    rcases List.mem_append.1 hj with hj | hj
    · exact h.valid j hj
    · rwa [List.mem_singleton.1 hj]

/-- One reading after another. -/
theorem bind_eq_ok_iff {α β : Type} {x : Except Stop α} {f : α → Except Stop β} {b : β} :
    x >>= f = .ok b ↔ ∃ a, x = .ok a ∧ f a = .ok b := by
  cases x <;> simp [bind, Except.bind]

namespace Reading

/-- What is read of some items. -/
def ofItems (items : List Item) (pending? : Option Setting) (onlyFiles : Bool) : Reading :=
  ⟨(items.filterMap Item.file?).head?, (items.filterMap Item.named?).head?,
    (items.filterMap Item.config?).head?, (items.filterMap Item.flag?).reverse, pending?, onlyFiles⟩

/-- Reads one item. -/
def add (r : Reading) : Item → Except Stop Reading
  | .file path => r.addFile path
  | .flag f => r.addFlag f
  | .setting s value => r.set value s

variable {items : List Item} {onlyFiles : Bool} {r : Reading}

/-- **An item is read if it is compatible with those before it.** -/
theorem add_ofItems_eq_ok_iff (h : Compatible items) {i : Item} :
    (ofItems items none onlyFiles).add i = .ok r ↔
      Compatible (items ++ [i]) ∧ r = ofItems (items ++ [i]) none onlyFiles := by
  rw [compatible_concat h]
  cases i with
  | file path =>
    cases hfiles : items.filterMap Item.file? with
    | cons other files => simp [add, addFile, ofItems, hfiles, Item.file?]
    | nil =>
      by_cases hpath : path = "" <;>
        simp [add, addFile, ofItems, hfiles, hpath, Item.Valid, Item.file?, Item.named?,
          Item.config?, Item.flag?, List.filterMap_cons, eq_comm]
  | flag f =>
    by_cases hstop : f = .version ∨ f = .help
    · rcases hstop with rfl | rfl <;> simp [add, addFlag, Item.Valid]
    · have hadd (r : Reading) : r.addFlag f =
          if f ∈ r.flags then .error .usage else .ok { r with flags := f :: r.flags } := by
        cases f with
        | version => exact absurd (.inl rfl) hstop
        | help => exact absurd (.inr rfl) hstop
        | _ => rfl
      rw [not_or] at hstop
      by_cases hmem : f ∈ items.filterMap Item.flag?
      · simp [add, hadd, ofItems, hmem, Item.flag?, -List.mem_filterMap]
      · simp [add, hadd, ofItems, hmem, hstop, Item.Valid, Item.file?, Item.named?,
          Item.config?, Item.flag?, -List.mem_filterMap, eq_comm]
  | setting s value =>
    cases s with
    | target =>
      cases hname : Target.ofName? value with
      | none => simp [add, set, hname, Item.Valid]
      | some t =>
        cases htargets : items.filterMap Item.named? with
        | cons other targets => simp [add, set, ofItems, hname, htargets, Item.named?]
        | nil =>
          simp [add, set, ofItems, hname, htargets, Item.Valid, Item.file?, Item.named?,
            Item.config?, Item.flag?, List.filterMap_cons, eq_comm]
    | config =>
      cases hconfigs : items.filterMap Item.config? with
      | cons other configs => simp [add, set, ofItems, hconfigs, Item.config?]
      | nil =>
        by_cases hvalue : value = "" <;>
          simp [add, set, ofItems, hconfigs, hvalue, Item.Valid, Item.file?, Item.named?,
            Item.config?, Item.flag?, List.filterMap_cons, eq_comm]

/-- A flag is read as an item. -/
theorem addFlag_ofItems_eq_ok_iff (h : Compatible items) {f : Flag} :
    (ofItems items none onlyFiles).addFlag f = .ok r ↔
      Compatible (items ++ [.flag f]) ∧ r = ofItems (items ++ [.flag f]) none onlyFiles :=
  add_ofItems_eq_ok_iff h (i := .flag f)

/-- A setting is read as an item. -/
theorem set_ofItems_eq_ok_iff (h : Compatible items) {s : Setting} {value : String} :
    (ofItems items none onlyFiles).set value s = .ok r ↔
      Compatible (items ++ [.setting s value]) ∧
        r = ofItems (items ++ [.setting s value]) none onlyFiles :=
  add_ofItems_eq_ok_iff h (i := .setting s value)

/-- Letters are read as the items that they spell. -/
theorem addLetters_ofItems_eq_ok_iff (h : Compatible items) {cs : List Char} :
    (ofItems items none onlyFiles).addLetters cs = .ok r ↔
      ∃ s, letterItems? cs = some s ∧ Compatible (items ++ s.items) ∧
        r = ofItems (items ++ s.items) s.pending? onlyFiles := by
  induction cs generalizing items with
  | nil => simp [addLetters, letterItems?, h, eq_comm]
  | cons c cs ih =>
    rw [addLetters, letterItems?]
    cases letters.lookup c with
    | none => simp
    | some opt =>
      cases opt with
      | inr flag =>
        simp only [bind_eq_ok_iff, addFlag_ofItems_eq_ok_iff h, Option.map_eq_some_iff]
        constructor
        · rintro ⟨_, ⟨hflag, rfl⟩, hrest⟩
          obtain ⟨s, hs, hall, rfl⟩ := (ih hflag).1 hrest
          rw [List.append_assoc] at hall
          exact ⟨_, ⟨s, hs, rfl⟩, hall, by simp⟩
        · rintro ⟨_, ⟨s, hs, rfl⟩, hall, rfl⟩
          -- the items in front of compatible ones are compatible, so each letter can be read
          rw [List.append_cons] at hall
          exact ⟨_, ⟨hall.of_append, rfl⟩, (ih hall.of_append).2 ⟨s, hs, hall, by simp⟩⟩
      | inl setting =>
        by_cases hcs : cs = []
        · simp [hcs, h, eq_comm, ofItems]
        · simp [hcs, set_ofItems_eq_ok_iff h]

/-- A long option is read as the items that it spells. -/
theorem addLong_ofItems_eq_ok_iff (h : Compatible items) {cs : List Char} :
    (ofItems items none onlyFiles).addLong cs = .ok r ↔
      ∃ s, longItems? cs = some s ∧ Compatible (items ++ s.items) ∧
        r = ofItems (items ++ s.items) s.pending? onlyFiles := by
  rw [addLong, longItems?]
  generalize cs.takeWhile (· != '=') = name
  generalize longNames.lookup name = opt?
  generalize (if name.length < cs.length then some (cs.drop (name.length + 1)) else none) = value?
  match opt?, value? with
  | none, _ => simp
  | some (.inr flag), none => simp [addFlag_ofItems_eq_ok_iff h]
  | some (.inr flag), some value => simp
  | some (.inl setting), none => simp [h, ofItems, eq_comm]
  | some (.inl setting), some value => simp [set_ofItems_eq_ok_iff h]

/-- A file is read as such. -/
theorem step_ofItems_eq_ok_iff_of_file (h : Compatible items) {x : String}
    (hstep : (ofItems items none onlyFiles).step x = (ofItems items none onlyFiles).addFile x)
    (hx : argumentItems? none onlyFiles x = some (⟨[.file x], none⟩, onlyFiles)) :
    (ofItems items none onlyFiles).step x = .ok r ↔
      ∃ s, argumentItems? none onlyFiles x = some s ∧ Compatible (items ++ s.1.items) ∧
        r = ofItems (items ++ s.1.items) s.1.pending? s.2 := by
  rw [hstep, hx]
  simp only [Option.some.injEq, exists_eq_left']
  exact add_ofItems_eq_ok_iff h (i := .file x)

/-- **An argument is read as the items that it spells**, if they are compatible with those before
it. -/
theorem step_ofItems_eq_ok_iff (h : Compatible items) {pending? : Option Setting} {x : String} :
    (ofItems items pending? onlyFiles).step x = .ok r ↔
      ∃ s, argumentItems? pending? onlyFiles x = some s ∧ Compatible (items ++ s.1.items) ∧
        r = ofItems (items ++ s.1.items) s.1.pending? s.2 := by
  match pending?, onlyFiles with
  | some setting, _ =>
    by_cases hyphen : x.toList.head? = some '-' ∧ x.toList ≠ ['-']
    · simp only [step, argumentItems?, ofItems, if_pos hyphen]
      simp
    · rw [argumentItems?, if_neg hyphen, step]
      simp only [ofItems, if_neg hyphen, Option.some.injEq, exists_eq_left']
      exact add_ofItems_eq_ok_iff h (i := .setting setting x)
  | none, true =>
    refine step_ofItems_eq_ok_iff_of_file h ?_ rfl
    unfold step
    split <;> simp_all [ofItems]
  | none, false =>
    rcases hx : x.toList with - | ⟨b, - | ⟨c, cs⟩⟩
    · exact step_ofItems_eq_ok_iff_of_file h (by simp [step, hx, ofItems])
        (by simp [argumentItems?, hx])
    · exact step_ofItems_eq_ok_iff_of_file h (by simp [step, hx, ofItems])
        (by simp [argumentItems?, hx])
    · by_cases hb : b = '-'
      · subst hb
        by_cases hc : c = '-'
        · subst hc
          cases cs with
          | nil =>
            have hs : argumentItems? none false x = some (⟨[], none⟩, true) := by
              simp [argumentItems?, hx]
            rw [hs]
            simp [step, hx, ofItems, h, eq_comm]
          | cons c cs =>
            have hs : argumentItems? none false x = (longItems? (c :: cs)).map (·, false) := by
              simp [argumentItems?, hx]
            have hstep : (ofItems items none false).step x =
                (ofItems items none false).addLong (c :: cs) := by
              simp [step, hx, ofItems]
            rw [hs, hstep, addLong_ofItems_eq_ok_iff h]
            simp
        · have hs : argumentItems? none false x = (letterItems? (c :: cs)).map (·, false) := by
            simp [argumentItems?, hx, hc]
          have hstep : (ofItems items none false).step x =
              (ofItems items none false).addLetters (c :: cs) := by
            simp [step, hx, ofItems, hc]
          rw [hs, hstep, addLetters_ofItems_eq_ok_iff h]
          simp
      · exact step_ofItems_eq_ok_iff_of_file h (by simp [step, hx, ofItems, hb])
          (by simp [argumentItems?, hx, hb])

/-- Arguments are read as the items that they spell. -/
theorem finish_foldlM_ofItems_eq_ok_iff (h : Compatible items) {pending? : Option Setting}
    {arguments : List String} {a : Arguments} :
    (arguments.foldlM step (ofItems items pending? onlyFiles) >>= finish) = .ok a ↔
      ∃ more, itemsFrom? pending? onlyFiles arguments = some more ∧ Compatible (items ++ more) ∧
        (ofItems (items ++ more) none false).finish = .ok a := by
  induction arguments generalizing items pending? onlyFiles with
  | nil =>
    cases pending? with
    | some setting => simp [itemsFrom?, finish, ofItems, bind, Except.bind, pure, Except.pure]
    | none => simp [itemsFrom?, finish, ofItems, bind, Except.bind, pure, Except.pure, h]
  | cons x xs ih =>
    rw [List.foldlM_cons, bind_assoc, bind_eq_ok_iff, itemsFrom?]
    simp only [step_ofItems_eq_ok_iff h, Option.bind_eq_some_iff, Option.map_eq_some_iff]
    constructor
    · rintro ⟨_, ⟨s, hs, hitems, rfl⟩, hrest⟩
      obtain ⟨more, hmore, hall, hfinish⟩ := (ih hitems).1 hrest
      rw [List.append_assoc] at hall hfinish
      exact ⟨_, ⟨s, hs, more, hmore, rfl⟩, hall, hfinish⟩
    · rintro ⟨_, ⟨s, hs, more, hmore, rfl⟩, hall, hfinish⟩
      rw [← List.append_assoc] at hall hfinish
      exact ⟨_, ⟨s, hs, hall.of_append, rfl⟩, (ih hall.of_append).2
        ⟨more, hmore, hall, hfinish⟩⟩

end Reading

/-! ## What items ask for -/

/-- What items ask for: each is valid, they name one file, and a target and a configuration at most,
and no flag comes twice. -/
structure Asks (items : List Item) (a : Arguments) : Prop where
  valid : ∀ i ∈ items, i.Valid
  file : items.filterMap Item.file? = [a.file]
  target : items.filterMap Item.target? = a.target?.toList
  config : items.filterMap Item.config? = a.config?.toList
  flags : (items.filterMap Item.flag?).Nodup
  strict : a.strict = true ↔ .flag .strict ∈ items
  emitAst : a.emitAst = true ↔ .flag .emitAst ∈ items
  verbose : a.verbose = true ↔ .flag .verbose ∈ items

/-- One value or none is the first one. -/
theorem eq_toList_iff {α : Type} {xs : List α} {x? : Option α} :
    xs = x?.toList ↔ xs.length ≤ 1 ∧ xs.head? = x? := by
  match xs, x? with
  | [], none => simp
  | [], some x => simp
  | [y], none => simp
  | [y], some x => simp
  | _ :: _ :: _, none => simp
  | _ :: _ :: _, some x => simp

theorem perm_toList_iff {α : Type} {xs : List α} {x? : Option α} :
    xs.Perm x?.toList ↔ xs = x?.toList := by
  cases x? with
  | none => exact List.perm_nil
  | some x => exact List.perm_singleton

variable {items items' : List Item} {a : Arguments}

/-- The order of items does not matter. -/
theorem Asks.perm (h : Asks items a) (hperm : items'.Perm items) : Asks items' a := by
  have hone {α : Type} {f : Item → Option α} {x? : Option α} (hx : items.filterMap f = x?.toList) :
      items'.filterMap f = x?.toList := by
    rw [← perm_toList_iff, ← hx]
    exact hperm.filterMap f
  have hfile : items'.filterMap Item.file? = (some a.file).toList := hone h.file
  exact ⟨fun i hi => h.valid i (hperm.mem_iff.1 hi), hfile, hone h.target, hone h.config,
    (hperm.filterMap _).nodup_iff.2 h.flags, h.strict.trans hperm.mem_iff.symm,
    h.emitAst.trans hperm.mem_iff.symm, h.verbose.trans hperm.mem_iff.symm⟩

theorem mem_filterMap_flag? {f : Flag} : f ∈ items.filterMap Item.flag? ↔ .flag f ∈ items := by
  rw [List.mem_filterMap]
  constructor
  · rintro ⟨i, hi, hflag⟩
    cases i with
    | flag other =>
      obtain rfl := Option.some.inj hflag
      exact hi
    | _ => cases hflag
  · intro h
    exact ⟨_, h, rfl⟩

/-- Without the flag for a target, targets are named by settings. -/
theorem filterMap_target?_of_not_mem (h : .flag .python ∉ items) :
    items.filterMap Item.target? = items.filterMap Item.named? := by
  induction items with
  | nil => rfl
  | cons i items ih =>
    have hi : i.target? = i.named? := by
      cases i with
      | flag f =>
        cases f with
        | python => simp at h
        | _ => rfl
      | _ => rfl
    have hitems : .flag .python ∉ items := fun hmem => h (List.mem_cons_of_mem _ hmem)
    rw [List.filterMap_cons, List.filterMap_cons, hi, ih hitems]

/-- With the flag for a target, no setting may name one. -/
theorem filterMap_target?_of_mem (hflags : (items.filterMap Item.flag?).Nodup)
    (hmem : .flag .python ∈ items) {t? : Option Target} :
    items.filterMap Item.target? = t?.toList ↔
      items.filterMap Item.named? = [] ∧ t? = some .python := by
  have hperm := List.perm_cons_erase hmem
  generalize items.erase (.flag .python) = rest at hperm
  have hrest : .flag .python ∉ rest := by
    rw [← mem_filterMap_flag?]
    exact (List.nodup_cons.1 ((hperm.filterMap Item.flag?).nodup_iff.1 hflags)).1
  have htarget : (items.filterMap Item.target?).Perm (.python :: rest.filterMap Item.named?) := by
    rw [← filterMap_target?_of_not_mem hrest]
    exact hperm.filterMap Item.target?
  have hnamed : (items.filterMap Item.named?).Perm (rest.filterMap Item.named?) :=
    hperm.filterMap Item.named?
  rw [← perm_toList_iff, htarget.congr_left, perm_toList_iff, ← List.perm_nil,
    hnamed.congr_left, List.perm_nil]
  cases t? <;> simp [eq_comm, and_comm]

/-- The targets of compatible items. -/
theorem Compatible.target_iff (h : Compatible items) {t? : Option Target} :
    items.filterMap Item.target? = t?.toList ↔
      if .flag .python ∈ items then (items.filterMap Item.named?).head? = none ∧ t? = some .python
      else (items.filterMap Item.named?).head? = t? := by
  split
  · next hmem => rw [filterMap_target?_of_mem h.flags hmem, List.head?_eq_none_iff]
  · next hmem =>
    rw [filterMap_target?_of_not_mem hmem, eq_toList_iff]
    exact and_iff_right h.targets

/-- What compatible items ask for. -/
theorem Compatible.asks_iff (h : Compatible items) :
    Asks items a ↔ (items.filterMap Item.file?).head? = some a.file ∧
      (if .flag .python ∈ items then (items.filterMap Item.named?).head? = none ∧
          a.target? = some .python
        else (items.filterMap Item.named?).head? = a.target?) ∧
      (items.filterMap Item.config?).head? = a.config? ∧
      decide (.flag .strict ∈ items) = a.strict ∧ decide (.flag .emitAst ∈ items) = a.emitAst ∧
      decide (.flag .verbose ∈ items) = a.verbose := by
  have hflag {f : Flag} {b : Bool} :
      decide (.flag f ∈ items) = b ↔ (b = true ↔ .flag f ∈ items) := by
    cases b <;> simp
  rw [← h.target_iff, hflag, hflag, hflag]
  constructor
  · intro ha
    exact ⟨by rw [ha.file]; rfl, ha.target, (eq_toList_iff.1 ha.config).2, ha.strict, ha.emitAst,
      ha.verbose⟩
  · rintro ⟨hfile, htarget, hconfig, hstrict, hemit, hverbose⟩
    exact ⟨h.valid, eq_toList_iff.2 ⟨h.files, hfile⟩, htarget, eq_toList_iff.2 ⟨h.configs, hconfig⟩,
      h.flags, hstrict, hemit, hverbose⟩

/-- What is read of compatible items is what they ask for. -/
theorem finish_ofItems_eq_ok_iff (h : Compatible items) :
    (Reading.ofItems items none false).finish = .ok a ↔ Asks items a := by
  have hcontains {f : Flag} :
      (items.filterMap Item.flag?).reverse.contains f = decide (.flag f ∈ items) := by
    rw [Bool.eq_iff_iff, List.contains_iff_mem, List.mem_reverse, mem_filterMap_flag?,
      decide_eq_true_iff]
  rw [h.asks_iff]
  unfold Reading.finish Reading.ofItems
  dsimp only
  rw [hcontains, hcontains, hcontains, hcontains]
  obtain ⟨file, target?, config?, strict, emitAst, verbose⟩ := a
  cases (items.filterMap Item.file?).head? with
  | none => simp
  | some path =>
    by_cases hpython : .flag .python ∈ items
    · cases (items.filterMap Item.named?).head? <;> simp [hpython, eq_comm]
    · simp [hpython]

/-- Items ask for something if they are compatible, and if they can be read. -/
theorem asks_iff_finish : Asks items a ↔
    Compatible items ∧ (Reading.ofItems items none false).finish = .ok a := by
  constructor
  · intro h
    have hcompatible : Compatible items := by
      refine ⟨h.valid, ?_, ?_, (eq_toList_iff.1 h.config).1, h.flags⟩
      · exact Nat.le_of_eq (congrArg List.length h.file)
      · by_cases hpython : .flag .python ∈ items
        · rw [((filterMap_target?_of_mem h.flags hpython).1 h.target).1]
          exact Nat.zero_le _
        · rw [← filterMap_target?_of_not_mem hpython]
          exact (eq_toList_iff.1 h.target).1
    exact ⟨hcompatible, (finish_ofItems_eq_ok_iff hcompatible).2 h⟩
  · rintro ⟨hcompatible, hfinish⟩
    exact (finish_ofItems_eq_ok_iff hcompatible).1 hfinish

/-- **Arguments ask for what their items ask for.** -/
theorem read_eq_ok_iff {arguments : List String} :
    read arguments = .ok a ↔ ∃ items, items? arguments = some items ∧ Asks items a := by
  have hnil : Compatible [] := ⟨by simp, by simp, by simp, by simp, by simp⟩
  simp only [asks_iff_finish]
  exact Reading.finish_foldlM_ofItems_eq_ok_iff hnil

end TreeScribe.Arguments
