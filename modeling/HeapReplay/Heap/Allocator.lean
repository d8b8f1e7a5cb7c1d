import HeapReplay.Text.Numeral

namespace HeapReplay

/-- The number of an allocation request. -/
abbrev RequestId := UInt64

namespace Heap

/-- Why an allocator gives up: a block that it cannot take back, or a fault of
    its own. -/
inductive AllocatorError where
  | invalidFree (id : RequestId) (address size : UInt64)
  | fault (reason : String)
  deriving DecidableEq, Repr

def AllocatorError.message : AllocatorError → String
  | .invalidFree id address size =>
    s!"Invalid free of request {id}: {size} bytes at 0x{Text.hexadecimal address.toNat}"
  | .fault reason => "Allocator fault: " ++ reason

/-- An allocator as a state machine. It may grant a request by a handle, refuse
    it by none, or give up; it takes back a granted block by its handle; and it
    takes note of its statistics when asked. Each call leaves a state, also the
    one on which it gives up. -/
structure Allocator (State Handle : Type) where
  allocate : RequestId → UInt64 → State → Except AllocatorError (Option Handle) × State
  free : RequestId → UInt64 → Handle → State → Except AllocatorError Unit × State
  report : State → Except AllocatorError Unit × State

end Heap
end HeapReplay
