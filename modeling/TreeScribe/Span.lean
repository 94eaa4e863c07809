import TreeScribe.Overflow
import TreeScribe.Text.Bytes

/-!
# Spans

A span is a pair of byte offsets into a text.  Nothing orders its two ends: a span that runs
backwards has no length and an empty slice.
-/

namespace TreeScribe

/-- The bytes from `start` up to, but not including, `stop`. -/
structure Span where
  start : Nat
  stop : Nat
deriving DecidableEq, Repr, Inhabited

namespace Span

/-- Offsets of a span are words below this bound. -/
def offsetLimit : Nat := 0x100000000

/-- The span of two offsets of any size, each reduced to its word. -/
def ofOffsets (start stop : Nat) : Span :=
  ⟨start % offsetLimit, stop % offsetLimit⟩

/-- The span of no bytes at `offset`. -/
def emptyAt (offset : Nat) : Span := ⟨offset, offset⟩

/-- The number of bytes; a span that runs backwards has none. -/
def length (s : Span) : Except Overflow Nat :=
  if s.start ≤ s.stop then .ok (s.stop - s.start) else .error .subtraction

/-- A span is empty when its two ends meet. -/
def isEmpty (s : Span) : Bool := s.start == s.stop

/-- Whether `offset` is one of the span's bytes. -/
def contains (s : Span) (offset : Nat) : Bool :=
  decide (s.start ≤ offset) && decide (offset < s.stop)

/-- From the smaller start to the larger stop. -/
def merge (s t : Span) : Span :=
  ⟨min s.start t.start, max s.stop t.stop⟩

/-- Spans are ordered by their start, then by their stop. -/
instance : Ord Span where
  compare s t := (compare s.start t.start).then (compare s.stop t.stop)

/-- The part of `text` at the span: empty unless both ends fall between characters of the text, the
start not after the stop. -/
def slice (s : Span) (text : List Char) : List Char :=
  if s.start ≤ s.stop then
    match Text.cut? s.start text with
    | none => []
    | some (_, rest) => ((Text.cut? (s.stop - s.start) rest).map Prod.fst).getD []
  else []

end Span

end TreeScribe
