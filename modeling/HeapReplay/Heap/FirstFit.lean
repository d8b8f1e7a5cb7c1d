import HeapReplay.Heap.Allocator
import HeapReplay.Heap.FreeList
import HeapReplay.Heap.Statistics

namespace HeapReplay.Heap

/-- A heap of a fixed capacity from which blocks are taken at the lowest address
    where they fit, with the statistics noted so far. -/
structure FirstFit where
  capacity : UInt64
  alignment : PosWord
  free : FreeList
  bytesInUse : UInt64 := 0
  peakBytesInUse : UInt64 := 0
  liveAllocations : Nat := 0
  successfulAllocations : Nat := 0
  failedAllocations : Nat := 0
  reports : Array Statistics := #[]

namespace FirstFit

/-- The alignment of a heap when none is asked for. -/
def defaultAlignment : PosWord := ⟨8, by decide⟩

/-- A heap without blocks. -/
def ofCapacity (capacity : UInt64) (alignment : PosWord := defaultAlignment) : FirstFit where
  capacity := capacity
  alignment := alignment
  free := .upTo capacity

/-- The length of the block for a size: at least one byte, rounded up to the
    alignment. -/
def blockLength? (heap : FirstFit) (size : UInt64) : Option UInt64 :=
  Word.alignUp? heap.alignment (max size 1)

/-- The span of the block for a size at an address, when it lies inside the
    heap. -/
def block? (heap : FirstFit) (size address : UInt64) : Option Span := do
  let length ← heap.blockLength? size
  let stop ← Word.add? address length
  if stop ≤ heap.capacity then some ⟨address, stop⟩ else none

/-- The address of the block found for a size, with its length and the free
    addresses that are left. -/
def find? (heap : FirstFit) (size : UInt64) : Option (UInt64 × UInt64 × FreeList) := do
  let length ← heap.blockLength? size
  let (address, free) ← heap.free.take? heap.alignment length
  some (address, length, free)

/-- Takes a block for a size. A request that does not fit is only counted. -/
def allocate (heap : FirstFit) (size : UInt64) : Option UInt64 × FirstFit :=
  match heap.find? size with
  | none => (none, { heap with failedAllocations := heap.failedAllocations + 1 })
  | some (address, length, free) =>
    let bytesInUse := heap.bytesInUse + length
    (some address,
      { heap with
        free
        bytesInUse
        peakBytesInUse := max heap.peakBytesInUse bytesInUse
        liveAllocations := heap.liveAllocations + 1
        successfulAllocations := heap.successfulAllocations + 1 })

/-- Gives back the block for a size at an address; none when it does not lie
    inside the heap or one of its bytes is free. -/
def release? (heap : FirstFit) (size address : UInt64) : Option FirstFit := do
  let block ← heap.block? size address
  let free ← heap.free.give? block
  some
    { heap with
      free
      bytesInUse := heap.bytesInUse - block.length
      liveAllocations := heap.liveAllocations - 1 }

/-- The present statistics. -/
def statistics (heap : FirstFit) : Statistics where
  capacity := heap.capacity
  bytesInUse := heap.bytesInUse
  peakBytesInUse := heap.peakBytesInUse
  liveAllocations := heap.liveAllocations
  successfulAllocations := heap.successfulAllocations
  failedAllocations := heap.failedAllocations
  freeBlocks := heap.free.length
  largestFreeBlock := heap.free.largest
  fragmentation := fragmentationRatio (heap.capacity - heap.bytesInUse) heap.free.largest

/-- The heap as an allocator; the handle of a block is its address. -/
def allocator : Allocator FirstFit UInt64 where
  allocate _ size heap :=
    let (address, heap) := heap.allocate size
    (.ok address, heap)
  free id size address heap :=
    match heap.release? size address with
    | some heap => (.ok (), heap)
    | none => (.error (.invalidFree id address size), heap)
  report heap := (.ok (), { heap with reports := heap.reports.push heap.statistics })

end FirstFit
end HeapReplay.Heap
