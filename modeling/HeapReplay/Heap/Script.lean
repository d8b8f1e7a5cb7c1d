import HeapReplay.Heap.Tally

namespace HeapReplay.Heap

/-- A plan of what goes wrong. Calls of each kind are numbered from one. -/
structure Script where
  /-- Requests whose number is a multiple of this are refused. -/
  refuseEvery : Option Nat := none
  /-- Requests for more than this are refused. -/
  refuseOver : Option UInt64 := none
  faultAllocateAt : Option Nat := none
  faultFreeAt : Option Nat := none
  invalidFreeAt : Option Nat := none
  faultReportAt : Option Nat := none
  deriving DecidableEq, Repr

namespace Script

/-- Whether a request is refused. -/
def refuses (script : Script) (number : Nat) (size : UInt64) : Bool :=
  script.refuseEvery.any (number % · == 0) || script.refuseOver.any (· < size)

/-- The allocator that follows a script. It only counts its calls, and a granted
    request gets its number as its handle. -/
def allocator (script : Script) : Allocator Tally UInt64 where
  allocate _ size tally :=
    let number := tally.allocations + 1
    let answer :=
      if script.faultAllocateAt = some number then .error (.fault s!"allocate {number}")
      else if script.refuses number size then .ok none
      else .ok (some (UInt64.ofNat number))
    (answer, { tally with allocations := number })
  free id size handle tally :=
    let number := tally.frees + 1
    let answer :=
      if script.faultFreeAt = some number then .error (.fault s!"free {number}")
      else if script.invalidFreeAt = some number then .error (.invalidFree id handle size)
      else .ok ()
    (answer, { tally with frees := number })
  report tally :=
    let number := tally.reports + 1
    let answer :=
      if script.faultReportAt = some number then .error (.fault s!"report {number}") else .ok ()
    (answer, { tally with reports := number })

end Script
end HeapReplay.Heap
