import HeapReplay.Proofs.Replay.Regular
import HeapReplay.Proofs.Workload.Timeline

namespace HeapReplay.Workload

open HeapReplay.Random Replay

section Draws

variable {draw : Draw Float} {value : Float}

end Draws

section Regular

variable {alignment : PosWord} {sampled : Sampled} {count place : Nat} {interval duration : Float}
  {request : Request}

end Regular
end HeapReplay.Workload
