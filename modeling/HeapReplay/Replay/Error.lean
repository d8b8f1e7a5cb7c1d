import HeapReplay.Heap.Allocator

namespace HeapReplay.Replay

/-- Why a replay stops before its last event. -/
inductive ReplayError where
  | clockBack (now target : UInt64)
  | alreadyLive (id : RequestId)
  | allocator (error : Heap.AllocatorError)
  deriving DecidableEq, Repr

def ReplayError.message : ReplayError → String
  | .clockBack now target =>
    s!"Invalid event scheduling: cannot move clock back from {now} to {target}"
  | .alreadyLive id => s!"Request {id} is already live"
  | .allocator error => error.message

end HeapReplay.Replay
