import HeapReplay.Replay.Event
import HeapReplay.Word
import HeapReplay.Workload.Sampler

namespace HeapReplay.Workload

open Replay

/-- A sample as a whole number: truncated toward zero, zero when it is negative or
    no number, and the largest word when it is above the words. -/
def ticks (sample : Float) : UInt64 := sample.toUInt64

/-- The size of a request: at least one byte, rounded up to the alignment. -/
def requestSize (alignment : PosWord) (sample : Float) : UInt64 :=
  Word.alignUp alignment (max (ticks sample) 1)

/-- Puts requests behind those made before, the next one at time `clock`. Times
    stop at the largest word. -/
def requestsInto (alignment : PosWord) (made : Array Request) (clock : UInt64) :
    List (Float × Float × Float) → Array Request
  | [] => made
  | (size, interval, duration) :: samples =>
    let request : Request :=
      { id := .ofNat made.size
        size := requestSize alignment size
        birth := clock
        death := Word.addSaturated clock (ticks duration) }
    requestsInto alignment (made.push request) (Word.addSaturated clock (ticks interval)) samples

/-- The first `count` requests of a sampled workload. Each is made one gap after
    the one before it and lives for its lifetime. -/
def requests (alignment : PosWord) (count : Nat) (sampled : Sampled) : List Request :=
  let samples := sampled.sizes.zip (sampled.intervals.zip sampled.durations)
  (requestsInto alignment #[] 0 (samples.take count)).toList

end HeapReplay.Workload
