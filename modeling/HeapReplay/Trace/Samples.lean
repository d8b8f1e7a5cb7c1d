import Std.Data.HashMap
import HeapReplay.Settings
import HeapReplay.Trace.Record

namespace HeapReplay.Trace

/-- What a trace tells about a workload: the sizes asked for in trace order, the
    gaps between allocations in time order, and the lifetimes in the order in
    which the blocks were freed. -/
structure Samples where
  sizes : List UInt64
  intervals : List UInt64
  lifetimes : List UInt64
  deriving DecidableEq, Repr

/-- The size that a record asks for. -/
def Record.mallocSize? (record : Record) : Option UInt64 :=
  match record.call with
  | .malloc size _ => some size
  | .free _ => none

/-- The sizes asked for that are not above `limit`. -/
def sizesUpTo (limit : UInt64) (records : List Record) : List UInt64 :=
  (records.filterMap Record.mallocSize?).filter (· ≤ limit)

/-- The times of the allocations, failed ones included. -/
def mallocTimes (records : List Record) : List UInt64 :=
  (records.filter (·.mallocSize?.isSome)).map (·.timestamp)

/-- The differences between neighbours of an ascending list. -/
def gaps (times : List UInt64) : List UInt64 :=
  List.zipWith (fun earlier later => later - earlier) times times.tail

/-- The gaps between allocations that are not above `limit`, in time order. -/
def intervalsUpTo (limit : UInt64) (records : List Record) : List UInt64 :=
  (gaps (mallocTimes records).mergeSort).filter (· ≤ limit)

/-- Where a block lives: addresses of different processes never meet. -/
structure Place where
  pid : UInt32
  address : UInt64
  deriving DecidableEq, Hashable, Repr

/-- The blocks allocated and not freed so far with their times of birth, and the
    lifetimes of those freed. -/
structure Lives where
  born : Std.HashMap Place UInt64 := ∅
  lifetimes : Array UInt64 := #[]

/-- Follows a record. An allocation at address zero has failed; one at the place
    of a living block replaces its time of birth. A free of a living block ends
    its life, which is kept when longer than `floor`. -/
def Lives.follow (floor : UInt64) (lives : Lives) (record : Record) : Lives :=
  match record.call with
  | .malloc _ address =>
    if address = 0 then lives
    else { lives with born := lives.born.insert ⟨record.pid, address⟩ record.timestamp }
  | .free address =>
    let place : Place := ⟨record.pid, address⟩
    match lives.born[place]? with
    | none => lives
    | some birth =>
      let lifetime := Word.subSaturated record.timestamp birth
      { born := lives.born.erase place
        lifetimes := if floor < lifetime then lives.lifetimes.push lifetime else lives.lifetimes }

/-- The lifetimes longer than `floor`, in the order of the frees. -/
def lifetimesOver (floor : UInt64) (records : List Record) : List UInt64 :=
  (records.foldl (Lives.follow floor) {}).lifetimes.toList

/-- The samples of a trace within the limits of the settings. -/
def Samples.ofRecords (settings : ExtractionSettings) (records : List Record) : Samples where
  sizes := sizesUpTo settings.maxSize records
  intervals := intervalsUpTo settings.maxInterval records
  lifetimes := lifetimesOver settings.lifetimeFloor records

end HeapReplay.Trace
