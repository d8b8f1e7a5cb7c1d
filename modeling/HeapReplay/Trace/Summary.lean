import HeapReplay.Binary64

namespace HeapReplay.Trace

/-- The number, the ends and the mean of a sample; all zero for an empty one. -/
structure Summary where
  count : Nat
  min : UInt64
  max : UInt64
  mean : Float

/-- Summarises a sample. The sum is exact: it is rounded once, and so is its
    quotient by the count. -/
def Summary.ofValues : List UInt64 → Summary
  | [] => ⟨0, 0, 0, 0⟩
  | first :: rest =>
    let values := first :: rest
    let total := values.foldl (fun total value => total + value.toNat) 0
    { count := values.length
      min := rest.foldl Min.min first
      max := rest.foldl Max.max first
      mean := Binary64.ofNat total / Binary64.ofNat values.length }

end HeapReplay.Trace
