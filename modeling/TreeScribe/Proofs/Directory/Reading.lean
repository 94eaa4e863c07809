import TreeScribe.Directory

/-!
# What a directory holds

A file is read exactly if a path leads to it and its bytes are the UTF-8 form of a text
(`read_eq_ok_iff`).  Two directories that differ in one file alone are the same to every path that
leads elsewhere (`DifferAt.stands_iff`).
-/

namespace TreeScribe.Directory

variable {d d' : Directory} {path text : String}

/-- The path leads to the entry. -/
def Stands (d : Directory) (path : String) (e : Entry) : Prop :=
  ∃ place, d.locate path = .ok place ∧ d.entry? place = some e

/-- The path leads to a file with this text, in UTF-8. -/
def Holds (d : Directory) (path text : String) : Prop := d.Stands path (.file text.toUTF8)

/-- The path leads to a file, whatever its bytes. -/
def HasFile (d : Directory) (path : String) : Prop := ∃ bytes, d.Stands path (.file bytes)

/-- Bytes are read as the text whose UTF-8 form they are. -/
theorem fromUTF8?_eq_some_iff {bytes : ByteArray} :
    String.fromUTF8? bytes = some text ↔ bytes = text.toUTF8 := by
  unfold String.fromUTF8?
  split
  · constructor
    · intro h
      obtain rfl := Option.some.inj h
      rfl
    · rintro rfl
      rfl
  · next hvalid =>
    constructor
    · intro h
      cases h
    · rintro rfl
      exact absurd text.isValidUTF8 hvalid

/-- **A file is read if it is there and holds a text.** -/
theorem read_eq_ok_iff : d.read path = .ok text ↔ d.Holds path text := by
  unfold read Holds Stands
  cases d.locate path with
  | error e => simp [bind, Except.bind]
  | ok place =>
    simp only [bind, Except.bind, Except.ok.injEq, exists_eq_left']
    cases d.entry? place with
    | none => simp [throw, throwThe, MonadExceptOf.throw]
    | some e =>
      cases e with
      | directory => simp [throw, throwThe, MonadExceptOf.throw]
      | file bytes =>
        rw [Option.some.injEq, Entry.file.injEq, ← fromUTF8?_eq_some_iff]
        cases hbytes : String.fromUTF8? bytes with
        | none => simp [hbytes, throw, throwThe, MonadExceptOf.throw]
        | some other => simp [hbytes, pure, Except.pure]

theorem isFile_iff : d.isFile path = true ↔ d.HasFile path := by
  unfold isFile HasFile Stands
  cases d.locate path with
  | error e => simp
  | ok place =>
    cases hentry : d.entry? place with
    | none => simp [hentry]
    | some e => cases e <;> simp [hentry]

theorem Holds.unique {other : String} (h : d.Holds path text) (h' : d.Holds path other) :
    other = text := by
  rw [← read_eq_ok_iff] at h h'
  exact Except.ok.inj (h'.symm.trans h)

/-! ## Directories that differ in one file -/

/-- Two directories with a file each at one place, and the same everywhere else. -/
structure DifferAt (d d' : Directory) (place : Place) : Prop where
  place_eq : d'.place = d.place
  file : ∃ bytes, d.entry? place = some (.file bytes)
  otherFile : ∃ bytes, d'.entry? place = some (.file bytes)
  entry?_eq : ∀ other ≠ place, d'.entry? other = d.entry? other

namespace DifferAt

variable {place : Place}

/-- At every place there are the same directories and files, whatever is in them. -/
theorem isDirectory_eq (h : DifferAt d d' place) (other : Place) :
    (d'.entry? other).map Entry.isDirectory = (d.entry? other).map Entry.isDirectory := by
  by_cases hother : other = place
  · obtain ⟨bytes, hfile⟩ := h.file
    obtain ⟨bytes', hfile'⟩ := h.otherFile
    rw [hother, hfile, hfile']
    rfl
  · rw [h.entry?_eq other hother]

/-- Paths lead to the same places. -/
theorem follow_eq (h : DifferAt d d' place) (start : Place) (parts : List Path.Part) :
    d'.follow start parts = d.follow start parts := by
  induction parts generalizing start with
  | nil => rfl
  | cons part parts ih =>
    have hsome : (d'.entry? (target start part)).isSome =
        (d.entry? (target start part)).isSome := by
      have hmap := congrArg Option.isSome (h.isDirectory_eq (target start part))
      simpa using hmap
    rw [follow, follow, h.isDirectory_eq, hsome, ih]

theorem locate_eq (h : DifferAt d d' place) (path : String) : d'.locate path = d.locate path := by
  unfold locate startOf
  rw [h.follow_eq, h.place_eq]

/-- A path that does not lead to the file leads to the same entry. -/
theorem stands_iff (h : DifferAt d d' place) (hpath : d.locate path ≠ .ok place) {e : Entry} :
    d'.Stands path e ↔ d.Stands path e := by
  unfold Stands
  rw [h.locate_eq]
  refine exists_congr fun other => and_congr_right fun hlocate => ?_
  have hother : other ≠ place := by
    rintro rfl
    exact hpath hlocate
  rw [h.entry?_eq other hother]

/-- The same paths lead to files. -/
theorem hasFile_iff (h : DifferAt d d' place) : d'.HasFile path ↔ d.HasFile path := by
  unfold HasFile
  by_cases hpath : d.locate path = .ok place
  · obtain ⟨bytes, hfile⟩ := h.file
    obtain ⟨bytes', hfile'⟩ := h.otherFile
    have hpath' : d'.locate path = .ok place := by rw [h.locate_eq, hpath]
    exact iff_of_true ⟨bytes', place, hpath', hfile'⟩ ⟨bytes, place, hpath, hfile⟩
  · simp only [h.stands_iff hpath]

end DifferAt

end TreeScribe.Directory
