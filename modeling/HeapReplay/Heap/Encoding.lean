import HeapReplay.Heap.Statistics
import HeapReplay.Json.Decoder
import HeapReplay.Json.Printer

namespace HeapReplay.Heap

def Statistics.toJson (statistics : Statistics) : Json :=
  .record [("capacity", .word statistics.capacity), ("bytes_in_use", .word statistics.bytesInUse),
    ("peak_bytes_in_use", .word statistics.peakBytesInUse),
    ("live_allocations", .nat statistics.liveAllocations),
    ("successful_allocations", .nat statistics.successfulAllocations),
    ("failed_allocations", .nat statistics.failedAllocations),
    ("free_blocks", .nat statistics.freeBlocks),
    ("largest_free_block", .word statistics.largestFreeBlock),
    ("fragmentation", .ofFloat statistics.fragmentation)]

def Statistics.ofJson? (json : Json) : Option Statistics :=
  match json.fields? ["capacity", "bytes_in_use", "peak_bytes_in_use", "live_allocations",
    "successful_allocations", "failed_allocations", "free_blocks", "largest_free_block",
    "fragmentation"] with
  | some [some capacity, some bytesInUse, some peakBytesInUse, some liveAllocations,
      some successfulAllocations, some failedAllocations, some freeBlocks, some largestFreeBlock,
      some fragmentation] => do
    let capacity ← capacity.word?
    let bytesInUse ← bytesInUse.word?
    let peakBytesInUse ← peakBytesInUse.word?
    let liveAllocations ← liveAllocations.count?
    let successfulAllocations ← successfulAllocations.count?
    let failedAllocations ← failedAllocations.count?
    let freeBlocks ← freeBlocks.count?
    let largestFreeBlock ← largestFreeBlock.word?
    let fragmentation ← fragmentation.float?
    some { capacity, bytesInUse, peakBytesInUse, liveAllocations, successfulAllocations,
           failedAllocations, freeBlocks, largestFreeBlock, fragmentation }
  | _ => none

end HeapReplay.Heap
