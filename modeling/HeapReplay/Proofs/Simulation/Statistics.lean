import HeapReplay.CommandLine.Machine
import HeapReplay.Proofs.CommandLine.Running
import HeapReplay.Proofs.Replay.Account
import HeapReplay.Proofs.Simulation.Run
import HeapReplay.Proofs.Workload.Requests

namespace HeapReplay.Simulation

open CommandLine Heap HeapReplay.Random Replay Workload

/-- A workload is fit for a replay, whatever its samples are. -/
theorem workload_fit {simulation : Simulation} {requests : List Request}
    (hworkload : simulation.workload = some requests) :
    requests.length = simulation.settings.eventCount ∧ (requests.map Request.id).Nodup ∧
      ∀ request ∈ requests, request.birth ≤ request.death := by
  have hfits : simulation.settings.eventCount < Draw.valueLimit := by
    rw [← simulation.isSome_workload, hworkload]
    rfl
  obtain ⟨⟨sampled, generator⟩, hsample, rfl⟩ := Option.map_eq_some_iff.1 hworkload
  refine ⟨?_, nodup_ids_requests _ (Nat.le_of_lt (Nat.lt_trans hfits (by decide))) _, ?_⟩
  · rw [length_requests, Sampler.length_sampleBy hsample, Nat.min_self]
  · intro request hmem
    exact birth_le_death_of_mem _ hmem

/-- A run on a new heap succeeds and accounts for all requests. -/
theorem Memoized.run_heap {simulation : Simulation} (hmemoized : simulation.Memoized)
    (hfits : simulation.settings.eventCount < Draw.valueLimit) (heapSize : UInt64) :
    ∃ report next heap,
      simulation.run FirstFit.allocator (.ofCapacity heapSize) = some (.ok report, next, heap) ∧
      Account simulation.settings.eventCount report ∧
      HeapAccount heapSize simulation.settings.reportThreshold report heap := by
  obtain ⟨requests, hworkload⟩ := exists_workload hfits
  obtain ⟨hlength, hids, htimes⟩ := workload_fit hworkload
  obtain ⟨report, hresult, haccount, hheap⟩ := replay_account hids htimes heapSize
    FirstFit.defaultAlignment simulation.settings.reportThreshold simulation.historyLimit
  obtain ⟨next, hrun⟩ := hmemoized.exists_run hworkload FirstFit.allocator (.ofCapacity heapSize)
  have hreplay : (replay requests FirstFit.allocator (.ofCapacity heapSize)
      simulation.settings.reportThreshold simulation.historyLimit).result = .ok report := hresult
  rw [hreplay] at hrun
  rw [hlength] at haccount
  exact ⟨_, next, _, hrun, { haccount with }, { hheap with }⟩

end HeapReplay.Simulation

namespace HeapReplay.CommandLine

open Heap HeapReplay.Random Replay Workload

end HeapReplay.CommandLine
