import HeapReplay.Heap.Allocator

namespace HeapReplay.Heap

/-- How often each operation was called. -/
structure Tally where
  allocations : Nat := 0
  frees : Nat := 0
  reports : Nat := 0
  deriving DecidableEq, Repr

/-- The allocator without memory: it grants every request and only counts. -/
def Tally.allocator : Allocator Tally Unit where
  allocate _ _ tally := (.ok (some ()), { tally with allocations := tally.allocations + 1 })
  free _ _ _ tally := (.ok (), { tally with frees := tally.frees + 1 })
  report tally := (.ok (), { tally with reports := tally.reports + 1 })

end HeapReplay.Heap
