import HeapReplay.Proofs.Replay.Mirror
import HeapReplay.Proofs.Replay.Restore
import HeapReplay.Proofs.Replay.Totals

namespace HeapReplay.Replay

open Heap FirstFit

variable {State Handle : Type}

/-- How the counts of a replay stand to the number of its requests. -/
structure Account (count : Nat) (report : Report) : Prop where
  events_eq : report.eventsDispatched = 2 * count
  allocations_eq : report.allocationsSucceeded + report.allocationsFailed = count
  frees_eq : report.freesDispatched + report.untrackedFrees = count
  remaining_eq : report.liveObjectsRemaining = 0
  reports_le : report.periodicReports + report.failureReports ≤ count

/-- A replay that ends without an error has counted each request twice, and no request is
    live any more. -/
theorem account_of_replay_ok {requests : List Request} (hids : (requests.map Request.id).Nodup)
    (htimes : ∀ request ∈ requests, request.birth ≤ request.death)
    {allocator : Allocator State Handle} {state : State} {threshold : PosWord} {historyLimit : Nat}
    {report : Report}
    (hresult : (replay requests allocator state threshold historyLimit).result = .ok report) :
    Account requests.length report := by
  have hlogged := (replay_logged requests allocator state threshold historyLimit).1.trans hresult
  have hremaining : report.liveObjectsRemaining = 0 := by
    rcases replay_cases hids htimes allocator state threshold historyLimit with
      ⟨last, ⟨_, _, hphases⟩, _, hlast, _⟩ | ⟨error, _, _, herror, _⟩
    · rw [hlogged] at hlast
      cases hlast
      exact LiveTable.size_eq_zero_iff.2 fun id => (hphases id).settled.1
    · rw [hlogged] at herror
      cases herror
  obtain ⟨final, rfl, hwalk⟩ := Scheduler.walk_of_run_ok hlogged
  obtain ⟨hcounted, hpaced, htallied⟩ := counts_of_walk_ok hwalk
  obtain ⟨hallocations, hfrees, _⟩ := hcounted
  have hevents := htallied.dispatched_eq
  have hreports := reports_le hpaced htallied
  have hschedule (kind : EventKind) := countP_kind_schedule requests kind
  simp only [Scheduler.schedule, hschedule, List.countP_nil, Nat.add_zero] at hallocations hfrees
  refine ⟨?_, hallocations, hfrees, hremaining, ?_⟩
  · simp only [Progress.finalReport]
    omega
  · simp only [Progress.finalReport]
    omega

/-- How a heap that was new stands after a replay to the report of the replay. -/
structure HeapAccount (capacity : UInt64) (threshold : PosWord) (report : Report)
    (heap : FirstFit) : Prop where
  successes_eq : heap.successfulAllocations = report.allocationsSucceeded
  failures_eq : heap.failedAllocations = report.allocationsFailed
  reports_eq : heap.reports.size = report.periodicReports + report.failureReports
  snapshots : Snapshots threshold heap.reports
  free_eq : heap.free = .upTo capacity
  used_eq : heap.bytesInUse = 0
  live_eq : heap.liveAllocations = 0

/-- A replay on a new heap always ends, and ends with all blocks given back. -/
theorem replay_account {requests : List Request} (hids : (requests.map Request.id).Nodup)
    (htimes : ∀ request ∈ requests, request.birth ≤ request.death) (capacity : UInt64)
    (alignment threshold : PosWord) (historyLimit : Nat) :
    ∃ report,
      (replay requests FirstFit.allocator (ofCapacity capacity alignment) threshold
        historyLimit).result = .ok report ∧
      Account requests.length report ∧
      HeapAccount capacity threshold report
        (replay requests FirstFit.allocator (ofCapacity capacity alignment) threshold
          historyLimit).allocator := by
  obtain ⟨⟨report, hresult⟩, hledger⟩ := replay_restores (sound_ofCapacity capacity alignment) hids
    htimes threshold historyLimit
  obtain ⟨hfree, hused, hlive⟩ := hledger.restored
  obtain ⟨hsuccesses, hfailures, hreports, hsnapshots⟩ := mirrored_of_run_ok hresult
  exact ⟨report, hresult, account_of_replay_ok hids htimes hresult, hsuccesses, hfailures, hreports,
    hsnapshots, hfree, hused, hlive⟩

/-- The statistics of a heap from which nothing is taken: one free block, or none when
    there are no bytes. -/
theorem HeapAccount.statistics {capacity : UInt64} {threshold : PosWord} {report : Report}
    {heap : FirstFit} (haccount : HeapAccount capacity threshold report heap) :
    heap.statistics.bytesInUse = 0 ∧ heap.statistics.liveAllocations = 0 ∧
      heap.statistics.freeBlocks = (if capacity = 0 then 0 else 1) ∧
      heap.statistics.largestFreeBlock = capacity := by
  refine ⟨haccount.used_eq, haccount.live_eq, ?_, ?_⟩
  · simp only [FirstFit.statistics, haccount.free_eq, FreeList.length_upTo]
  · simp only [FirstFit.statistics, haccount.free_eq, FreeList.largest_upTo]

end HeapReplay.Replay
