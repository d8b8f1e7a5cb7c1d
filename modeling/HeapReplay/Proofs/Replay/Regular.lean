import HeapReplay.Proofs.Replay.Crowd
import Mathlib.Algebra.Order.Floor.Div
import Mathlib.Order.Interval.Finset.Nat

namespace HeapReplay.Replay

section Keys

variable {request newest : Request}

end Keys

namespace Regular

variable {gap lifetime : Nat} {requests : List Request} {request newest : Request}

end Regular
end HeapReplay.Replay
