import HeapReplay.Proofs.Heap.Block
import HeapReplay.Proofs.Replay.Cadence
import HeapReplay.Proofs.Replay.Walk

namespace HeapReplay.Heap.FirstFit

variable {heap next : FirstFit} {id : RequestId} {size address : UInt64}

theorem next_of_refused (hallocate : allocator.allocate id size heap = (.ok none, next)) :
    next = { heap with failedAllocations := heap.failedAllocations + 1 } := by
  cases hfind : heap.find? size with
  | none =>
    have hserved : allocator.serve heap (.allocate id size) = _ := serve_refused hfind
    exact (Prod.mk.inj (hserved.symm.trans hallocate)).2.symm
  | some found =>
    have hserved : allocator.serve heap (.allocate id size) = _ := serve_granted hfind
    cases hserved.symm.trans hallocate

/-- A granted request is counted as a success, and leaves the other counts alone. -/
theorem counts_of_granted
    (hallocate : allocator.allocate id size heap = (.ok (some address), next)) :
    next.successfulAllocations = heap.successfulAllocations + 1 ∧
      next.failedAllocations = heap.failedAllocations ∧ next.reports = heap.reports := by
  cases hfind : heap.find? size with
  | none =>
    have hserved : allocator.serve heap (.allocate id size) = _ := serve_refused hfind
    cases hserved.symm.trans hallocate
  | some found =>
    have hserved : allocator.serve heap (.allocate id size) = _ := serve_granted hfind
    cases hserved.symm.trans hallocate
    exact ⟨rfl, rfl, rfl⟩

theorem release?_of_free (hfree : allocator.free id size address heap = (.ok (), next)) :
    heap.release? size address = some next := by
  cases hrelease : heap.release? size address with
  | none => simp [allocator, hrelease] at hfree
  | some final =>
    simp only [allocator, hrelease, Prod.mk.injEq, true_and] at hfree
    rw [hfree]

/-- A free is not counted. -/
theorem counts_of_freed (hfree : allocator.free id size address heap = (.ok (), next)) :
    next.successfulAllocations = heap.successfulAllocations ∧
      next.failedAllocations = heap.failedAllocations ∧ next.reports = heap.reports := by
  obtain ⟨_, _, _, _, rfl⟩ := release?_eq_some_iff.1 (release?_of_free hfree)
  exact ⟨rfl, rfl, rfl⟩

theorem next_of_report {answer : Except AllocatorError Unit}
    (hreport : allocator.report heap = (answer, next)) :
    next = { heap with reports := heap.reports.push heap.statistics } :=
  (congrArg Prod.snd hreport).symm

end HeapReplay.Heap.FirstFit

namespace HeapReplay.Replay

open Heap FirstFit

/-- The snapshots that a heap keeps by the rule of a run: each success that completes the
    threshold adds one, and so does each failure. -/
def Snapshots (threshold : PosWord) (reports : Array Statistics) : Prop :=
  ∀ place snapshot, reports[place]? = some snapshot →
    place + 1 =
      snapshot.successfulAllocations / threshold.val.toNat + snapshot.failedAllocations

theorem snapshots_empty (threshold : PosWord) : Snapshots threshold #[] := by
  intro place snapshot hplace
  cases hplace

theorem Snapshots.push {threshold : PosWord} {reports : Array Statistics} {snapshot : Statistics}
    (hreports : Snapshots threshold reports)
    (hlast : reports.size + 1 =
      snapshot.successfulAllocations / threshold.val.toNat + snapshot.failedAllocations) :
    Snapshots threshold (reports.push snapshot) := by
  intro place kept hplace
  rw [Array.getElem?_push] at hplace
  split at hplace
  · next hsize =>
    cases hplace
    rw [hsize]
    exact hlast
  · exact hreports place kept hplace

/-- The heap and the run count alike, although neither sees the counts of the other. -/
structure Mirrored (threshold : PosWord) (progress : Progress FirstFit UInt64) : Prop where
  successes_eq : progress.allocator.successfulAllocations = progress.report.allocationsSucceeded
  failures_eq : progress.allocator.failedAllocations = progress.report.allocationsFailed
  reported_eq : progress.report.failureReports = progress.report.allocationsFailed
  reports_eq : progress.allocator.reports.size =
    progress.report.periodicReports + progress.report.failureReports
  snapshots : Snapshots threshold progress.allocator.reports

variable {plan : Plan FirstFit UInt64} {event : Event} {before after : Progress FirstFit UInt64}

theorem mirrored_start (threshold : PosWord) (capacity : UInt64) (alignment : PosWord)
    (live : LiveTable UInt64) :
    Mirrored threshold { allocator := ofCapacity capacity alignment, live } :=
  ⟨rfl, rfl, rfl, rfl, snapshots_empty threshold⟩

/-- What the heap notes when it is asked fits what the run has counted. -/
theorem Mirrored.dispatch (hplan : plan.allocator = FirstFit.allocator)
    (hmirrored : Mirrored plan.threshold before) (hpaced : Paced plan.threshold before)
    (hdispatch : plan.Dispatch event before (.ok ()) after) :
    Mirrored plan.threshold after := by
  have hpace := (hpaced.dispatch hdispatch).periodic_eq
  have hpeace := hpaced.periodic_eq
  obtain ⟨hsuccesses, hfailures, hreported, hreports, hsnapshots⟩ := hmirrored
  cases hdispatch with
  | refused hkind hallocate hreport =>
    rw [hplan] at hallocate hreport
    obtain rfl := next_of_refused hallocate
    obtain rfl := next_of_report hreport
    refine ⟨hsuccesses, ?_, ?_, ?_, hsnapshots.push ?_⟩
    · simp only [hfailures]
    · simp only [hreported]
    · simp only [Array.size_push, hreports, Nat.add_assoc]
    · simp only [statistics, hsuccesses, hfailures, hreports, hreported, hpeace, Nat.add_assoc]
  | granted hkind hallocate hlive hquiet =>
    rw [hplan] at hallocate
    obtain ⟨hsucceeded, hfailed, hkept⟩ := counts_of_granted hallocate
    refine ⟨?_, hfailed.trans hfailures, hreported, ?_, ?_⟩
    · simp only [hsucceeded, hsuccesses]
    · simp only [hkept, hreports]
    · simp only [hkept]
      exact hsnapshots
  | grantedReport hkind hallocate hlive hdue hreport =>
    rw [hplan] at hallocate hreport
    obtain ⟨hsucceeded, hfailed, hkept⟩ := counts_of_granted hallocate
    obtain rfl := next_of_report hreport
    refine ⟨?_, hfailed.trans hfailures, hreported, ?_, ?_⟩
    · simp only [hsucceeded, hsuccesses]
    · simp only [Array.size_push, hkept, hreports]
      omega
    · simp only [hkept]
      refine hsnapshots.push ?_
      simp only [statistics, hsucceeded, hfailed, hsuccesses, hfailures, hreports, hreported]
      simp only at hpace
      omega
  | untracked hkind hnone => exact ⟨hsuccesses, hfailures, hreported, hreports, hsnapshots⟩
  | freed hkind hsome hfree =>
    rw [hplan] at hfree
    obtain ⟨hsucceeded, hfailed, hkept⟩ := counts_of_freed hfree
    refine ⟨hsucceeded.trans hsuccesses, hfailed.trans hfailures, hreported, ?_, ?_⟩
    · simp only [hkept, hreports]
    · simp only [hkept]
      exact hsnapshots

/-- A run on a new heap leaves the counts of the heap and of the report equal, and a
    snapshot for each report. -/
theorem mirrored_of_run_ok {scheduler : Scheduler} {capacity : UInt64} {alignment : PosWord}
    {live : LiveTable UInt64} {report : Report}
    (hresult : (scheduler.run FirstFit.allocator (ofCapacity capacity alignment) live).result =
      .ok report) :
    let heap := (scheduler.run FirstFit.allocator (ofCapacity capacity alignment) live).allocator
    heap.successfulAllocations = report.allocationsSucceeded ∧
      heap.failedAllocations = report.allocationsFailed ∧
      heap.reports.size = report.periodicReports + report.failureReports ∧
      Snapshots scheduler.threshold heap.reports := by
  obtain ⟨final, rfl, hwalk⟩ := Scheduler.walk_of_run_ok hresult
  have hfinal := Plan.walk_invariant
    (fun progress => Mirrored scheduler.threshold progress ∧
      Paced scheduler.threshold progress) ?_
    ⟨mirrored_start scheduler.threshold capacity alignment live, paced_start _ _ live⟩ hwalk
  · obtain ⟨⟨hsuccesses, hfailures, _, hreports, hsnapshots⟩, _⟩ := hfinal
    rw [Scheduler.run_of_walk hwalk]
    exact ⟨hsuccesses, hfailures, hreports, hsnapshots⟩
  · rintro event before after ⟨hmirrored, hpaced⟩ hdispatch
    have hmoved : Mirrored scheduler.threshold { before with clock := ⟨event.time⟩ } :=
      { hmirrored with }
    have hpace : Paced scheduler.threshold { before with clock := ⟨event.time⟩ } :=
      { hpaced with }
    have hplan : (scheduler.plan FirstFit.allocator).allocator = FirstFit.allocator := rfl
    have hkept := Mirrored.dispatch hplan hmoved hpace hdispatch
    exact ⟨{ hkept with }, (hpace.dispatch hdispatch).record⟩

end HeapReplay.Replay
