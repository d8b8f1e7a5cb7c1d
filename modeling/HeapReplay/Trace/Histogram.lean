import HeapReplay.Trace.Samples

namespace HeapReplay.Trace

/-- Counts one more bucket in front of counted buckets. -/
def countBucket (bucket : UInt64) : List (UInt64 × Nat) → List (UInt64 × Nat)
  | [] => [(bucket, 1)]
  | (first, count) :: counts =>
    if bucket = first then (first, count + 1) :: counts
    else (bucket, 1) :: (first, count) :: counts

/-- Counts the runs of equal neighbours. -/
def runs (buckets : List UInt64) : List (UInt64 × Nat) := buckets.foldr countBucket []

/-- How many of the sizes up to `limit` fall into each bucket, in ascending order
    of buckets. A bucket is named by its least size, a multiple of `width`. -/
def histogram (width : PosWord) (limit : UInt64) (records : List Record) : List (UInt64 × Nat) :=
  runs ((sizesUpTo limit records).map (Word.alignDown width)).mergeSort

end HeapReplay.Trace
