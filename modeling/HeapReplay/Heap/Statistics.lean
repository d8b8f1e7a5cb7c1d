import HeapReplay.Binary64

namespace HeapReplay.Heap

/-- A snapshot of a heap. -/
structure Statistics where
  capacity : UInt64
  bytesInUse : UInt64
  peakBytesInUse : UInt64
  liveAllocations : Nat
  successfulAllocations : Nat
  failedAllocations : Nat
  freeBlocks : Nat
  largestFreeBlock : UInt64
  fragmentation : Float

namespace Statistics

/-- The bytes not in use, none when more are in use than there are. -/
def freeBytes (statistics : Statistics) : UInt64 :=
  if statistics.bytesInUse ≤ statistics.capacity then statistics.capacity - statistics.bytesInUse
  else 0

/-- The share of the heap that is in use; zero for a heap without bytes. -/
def utilization (statistics : Statistics) : Float :=
  if statistics.capacity = 0 then 0
  else statistics.bytesInUse.toFloat / statistics.capacity.toFloat

end Statistics

/-- The share of the free bytes that lies outside the largest free block: zero
    when nothing is free or everything in one block. -/
def fragmentationRatio (freeBytes largest : UInt64) : Float :=
  if freeBytes = 0 then 0
  else 1 - (min largest freeBytes).toFloat / freeBytes.toFloat

end HeapReplay.Heap
