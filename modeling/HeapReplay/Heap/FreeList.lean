import HeapReplay.Word

namespace HeapReplay.Heap

/-- The addresses from `start` up to, not including, `stop`. -/
structure Span where
  start : UInt64
  stop : UInt64
  deriving DecidableEq, Repr

namespace Span

def length (span : Span) : UInt64 := span.stop - span.start

/-- Whether an address lies in a span. -/
def Contains (span : Span) (address : UInt64) : Prop :=
  span.start ≤ address ∧ address < span.stop

instance (span : Span) (address : UInt64) : Decidable (span.Contains address) :=
  inferInstanceAs (Decidable (_ ∧ _))

/-- The least aligned address of a span from which `length` bytes lie in it. -/
@[inline] def fit? (alignment : PosWord) (length : UInt64) (span : Span) : Option UInt64 := do
  let start ← Word.alignUp? alignment span.start
  let stop ← Word.add? start length
  if stop ≤ span.stop then some start else none

/-- The span as a list, which is empty when the span is. -/
def pieces (span : Span) : List Span := if span.start < span.stop then [span] else []

/-- What is left of a span when the addresses of another inside it are taken. -/
def without (span taken : Span) : List Span :=
  pieces ⟨span.start, taken.start⟩ ++ pieces ⟨taken.stop, span.stop⟩

end Span

/-- The free addresses of a heap: spans that are not empty, in ascending order,
    with at least one address in use between two of them. -/
abbrev FreeList := List Span

namespace FreeList

/-- All addresses below a capacity. -/
def upTo (capacity : UInt64) : FreeList := Span.pieces ⟨0, capacity⟩

/-- Takes `length` bytes from the first span in which they fit, at its least
    aligned address. -/
def take? (alignment : PosWord) (length : UInt64) : FreeList → Option (UInt64 × FreeList)
  | [] => none
  | span :: spans =>
    match span.fit? alignment length with
    | some start => some (start, span.without ⟨start, start + length⟩ ++ spans)
    | none => (take? alignment length spans).map fun (start, spans) => (start, span :: spans)

/-- Puts a span in front of those above it, joining it to a first one that starts
    where it stops. There is no result when it reaches into the first one. -/
def attach? (span : Span) : FreeList → Option FreeList
  | [] => some [span]
  | next :: spans =>
    if next.start < span.stop then none
    else if next.start = span.stop then some (⟨span.start, next.stop⟩ :: spans)
    else some (span :: next :: spans)

/-- Gives back a block, joining it to the neighbours that it touches. There is no
    result when an address of the block is free already. -/
def give? (block : Span) : FreeList → Option FreeList
  | [] => some [block]
  | span :: spans =>
    if span.stop < block.start then (give? block spans).map (span :: ·)
    else if span.stop = block.start then attach? ⟨span.start, block.stop⟩ spans
    else attach? block (span :: spans)

/-- The length of the longest span, zero when there is none. -/
def largest (spans : FreeList) : UInt64 := (spans.map Span.length).foldl max 0

end FreeList
end HeapReplay.Heap
