import HeapReplay.Heap.Allocator

namespace HeapReplay.Heap

/-- A call that an allocator received. -/
inductive Call (Handle : Type) where
  | allocate (id : RequestId) (size : UInt64)
  | free (id : RequestId) (size : UInt64) (handle : Handle)
  | report
  deriving DecidableEq, Repr

/-- The state of an allocator with the calls that it received, in order. -/
structure Logged (State Handle : Type) where
  state : State
  calls : Array (Call Handle) := #[]

variable {State Handle : Type}

/-- The allocator that answers like another one and logs every call, also one on
    which it gives up. -/
def Allocator.logged (allocator : Allocator State Handle) :
    Allocator (Logged State Handle) Handle where
  allocate id size log :=
    let (answer, state) := allocator.allocate id size log.state
    (answer, { state, calls := log.calls.push (.allocate id size) })
  free id size handle log :=
    let (answer, state) := allocator.free id size handle log.state
    (answer, { state, calls := log.calls.push (.free id size handle) })
  report log :=
    let (answer, state) := allocator.report log.state
    (answer, { state, calls := log.calls.push .report })

end HeapReplay.Heap
