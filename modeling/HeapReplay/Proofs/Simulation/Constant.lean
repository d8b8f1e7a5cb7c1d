import HeapReplay.Proofs.Replay.Generous
import HeapReplay.Proofs.Simulation.Statistics
import HeapReplay.Proofs.Workload.Constant
import HeapReplay.Proofs.Workload.Parameters

namespace HeapReplay.Simulation

open Heap HeapReplay.Random Replay Workload

end HeapReplay.Simulation
