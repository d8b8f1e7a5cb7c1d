import HeapReplay.Heap.Script
import HeapReplay.Proofs.Heap.Logged
import HeapReplay.Proofs.Replay.Alike
import HeapReplay.Proofs.Replay.Cadence
import HeapReplay.Proofs.Replay.Counts
import HeapReplay.Proofs.Replay.Keyed
import HeapReplay.Proofs.Replay.Walk

namespace HeapReplay.Heap.Tally

variable {State Handle : Type}

/-- Counts a call by its operation. -/
def count (tally : Tally) : Call Handle → Tally
  | .allocate _ _ => { tally with allocations := tally.allocations + 1 }
  | .free _ _ _ => { tally with frees := tally.frees + 1 }
  | .report => { tally with reports := tally.reports + 1 }

/-- How often each operation was called. -/
def ofCalls (calls : Array (Call Handle)) : Tally := calls.foldl count {}

@[simp] theorem ofCalls_push (calls : Array (Call Handle)) (call : Call Handle) :
    ofCalls (calls.push call) = (ofCalls calls).count call := by
  simp [ofCalls]

end HeapReplay.Heap.Tally

namespace HeapReplay.Replay

open Heap

variable {State Handle : Type} {allocator : Allocator State Handle}
  {plan : Plan (Logged State Handle) Handle} {event : Event}
  {before after : Progress (Logged State Handle) Handle}

/-- How the counts of a run stand to each other and to the calls that it made. -/
structure Tallied (progress : Progress (Logged State Handle) Handle) : Prop where
  dispatched_eq : progress.report.eventsDispatched =
    progress.report.allocationsSucceeded + progress.report.allocationsFailed +
      (progress.report.freesDispatched + progress.report.untrackedFrees)
  failures_eq : progress.report.failureReports = progress.report.allocationsFailed
  calls_eq : Tally.ofCalls progress.allocator.calls =
    { allocations := progress.report.allocationsSucceeded + progress.report.allocationsFailed
      frees := progress.report.freesDispatched
      reports := progress.report.periodicReports + progress.report.failureReports }

theorem tallied_start (state : State) (live : LiveTable Handle) :
    Tallied { allocator := { state }, live } :=
  ⟨rfl, rfl, rfl⟩

/-- Each dispatched event makes the calls that it is counted for. -/
theorem tallied_dispatch (hplan : plan.allocator = allocator.logged) (htallied : Tallied before)
    (hdispatch : plan.Dispatch event before (.ok ()) after) :
    Tallied (plan.record event after) := by
  obtain ⟨hdispatched, hfailures, hcalls⟩ := htallied
  cases hdispatch with
  | refused hkind hallocate hreport =>
    rw [hplan] at hallocate hreport
    refine ⟨?_, ?_, ?_⟩
    · simp only [Plan.record, hdispatched]
      omega
    · simp only [Plan.record, hfailures]
    · simp only [Plan.record, Logged.calls_of_report hreport, Logged.calls_of_allocate hallocate,
        Tally.ofCalls_push, hcalls, Tally.count, Nat.add_assoc]
  | granted hkind hallocate hlive hquiet =>
    rw [hplan] at hallocate
    refine ⟨?_, hfailures, ?_⟩
    · simp only [Plan.record, hdispatched]
      omega
    · simp only [Plan.record, Logged.calls_of_allocate hallocate, Tally.ofCalls_push, hcalls,
        Tally.count, Nat.add_right_comm]
  | grantedReport hkind hallocate hlive hdue hreport =>
    rw [hplan] at hallocate hreport
    refine ⟨?_, hfailures, ?_⟩
    · simp only [Plan.record, hdispatched]
      omega
    · simp only [Plan.record, Logged.calls_of_report hreport, Logged.calls_of_allocate hallocate,
        Tally.ofCalls_push, hcalls, Tally.count, Nat.add_right_comm]
  | untracked hkind hlive =>
    refine ⟨?_, hfailures, hcalls⟩
    simp only [Plan.record, hdispatched]
    omega
  | freed hkind hlive hfree =>
    rw [hplan] at hfree
    refine ⟨?_, hfailures, ?_⟩
    · simp only [Plan.record, hdispatched]
      omega
    · simp only [Plan.record, Logged.calls_of_free hfree, Tally.ofCalls_push, hcalls, Tally.count]

/-- There are no more reports than allocations. -/
theorem reports_le {threshold : PosWord} {progress : Progress (Logged State Handle) Handle}
    (hpaced : Paced threshold progress) (htallied : Tallied progress) :
    progress.report.periodicReports + progress.report.failureReports ≤
      progress.report.allocationsSucceeded + progress.report.allocationsFailed := by
  rw [htallied.failures_eq, hpaced.periodic_eq]
  exact Nat.add_le_add_right (Nat.div_le_self _ _) _

/-- An event that is about to be dispatched is one more to count. -/
theorem counted_concat {live : LiveTable Handle} {done : List Event}
    (hcounted : Counted live (done.countP (·.kind = .allocate)) (done.countP (·.kind = .free)) []
      before) (event : Event) :
    Counted live ((done ++ [event]).countP (·.kind = .allocate))
      ((done ++ [event]).countP (·.kind = .free)) [event]
      { before with clock := ⟨event.time⟩ } := by
  refine ⟨?_, ?_, hcounted.live_eq⟩
  · rw [List.countP_append, ← hcounted.allocations_eq]
    rfl
  · rw [List.countP_append, ← hcounted.frees_eq]
    rfl

/-- The laws that the counts of a run obey at its end. -/
theorem counts_of_walk_ok {threshold : PosWord} {historyLimit : Nat} {state : State}
    {live : LiveTable Handle} {events rest : List Event}
    {final : Progress (Logged State Handle) Handle}
    (hwalk : Plan.walk { allocator := allocator.logged, threshold, historyLimit }
      { allocator := { state }, live } events = (.ok (), final, rest)) :
    Counted live (events.countP (·.kind = .allocate)) (events.countP (·.kind = .free)) [] final ∧
      Paced threshold final ∧ Tallied final := by
  rw [← List.nil_append events]
  refine Plan.walk_induction
    (fun done progress =>
      Counted live (done.countP (·.kind = .allocate)) (done.countP (·.kind = .free)) [] progress ∧
        Paced threshold progress ∧ Tallied progress)
    ?_ ⟨counted_start _ live [], paced_start threshold _ live, tallied_start state live⟩ hwalk
  rintro done event before after ⟨hcounted, hpaced, htallied⟩ hdispatch
  have hcounts := counted_dispatch (counted_concat hcounted event) hdispatch
  have hpace : Paced threshold { before with clock := ⟨event.time⟩ } := { hpaced with }
  have htally : Tallied { before with clock := ⟨event.time⟩ } := { htallied with }
  exact ⟨{ hcounts with }, (hpace.dispatch hdispatch).record,
    tallied_dispatch rfl htally hdispatch⟩

/-- Whatever is queued, whatever the allocator answers and whatever the table holds, a run
    without an error counts each event once, as what it came to. Its reports are those of
    the refusals and of the full rounds of successes, and the allocator received the calls
    that are counted and no others. -/
theorem run_totals (scheduler : Scheduler) (allocator : Allocator State Handle) (state : State)
    (live : LiveTable Handle) (report : Report)
    (hreport : (scheduler.run allocator state live).result = .ok report) :
    let outcome := scheduler.run allocator state live
    let logged := scheduler.run allocator.logged { state } live
    let calls := Tally.ofCalls logged.allocator.calls
    let allocations := scheduler.queue.toList.countP (·.kind = .allocate)
    let frees := scheduler.queue.toList.countP (·.kind = .free)
    outcome.scheduler.queue = .empty ∧
      report.eventsDispatched = allocations + frees ∧
      report.allocationsSucceeded + report.allocationsFailed = allocations ∧
      report.freesDispatched + report.untrackedFrees = frees ∧
      report.failureReports = report.allocationsFailed ∧
      report.periodicReports = report.allocationsSucceeded / scheduler.threshold.val.toNat ∧
      outcome.scheduler.sinceReport =
        report.allocationsSucceeded % scheduler.threshold.val.toNat ∧
      report.liveObjectsRemaining + report.freesDispatched =
        live.size + report.allocationsSucceeded ∧
      report.liveObjectsRemaining = outcome.live.size ∧
      (logged.result = outcome.result ∧ logged.allocator.state = outcome.allocator) ∧
      calls.allocations = allocations ∧
      calls.frees = report.freesDispatched ∧
      calls.reports = report.periodicReports + report.failureReports ∧
      (scheduler.queue.size < UInt64.size → report.totalReports.toNat = calls.reports) := by
  intro outcome logged calls allocations frees
  obtain ⟨hresult, hscheduler, hstate, hlive⟩ := Scheduler.run_alike allocator.alike_logged state
    { state } rfl scheduler live
  obtain ⟨final, rfl, hwalk⟩ := Scheduler.walk_of_run_ok (hresult.symm.trans hreport)
  obtain ⟨⟨hallocations, hfrees, hremaining⟩, hpaced, htallied⟩ := counts_of_walk_ok hwalk
  have hrun := Scheduler.run_of_walk hwalk
  simp only [List.countP_nil, Nat.add_zero] at hallocations hfrees
  have hcalls : calls = Tally.ofCalls final.allocator.calls := by
    simp only [calls, logged, hrun]
  rw [htallied.calls_eq] at hcalls
  have hreports : final.report.periodicReports + final.report.failureReports ≤
      scheduler.queue.size :=
    (reports_le hpaced htallied).trans (hallocations.trans_le List.countP_le_length)
  refine ⟨?_, ?_, hallocations, hfrees, htallied.failures_eq, hpaced.periodic_eq, ?_, ?_, ?_, ?_,
    ?_, ?_, ?_, ?_⟩
  · simp only [outcome, hscheduler, hrun, Queue.ofEvents_nil]
  · simp only [allocations, frees, ← hallocations, ← hfrees]
    exact htallied.dispatched_eq
  · simp only [outcome, hscheduler, hrun]
    exact hpaced.since_eq
  · exact hremaining
  · simp only [outcome, hlive.size_eq, hrun, Progress.finalReport]
  · exact ⟨hresult.symm, hstate⟩
  · rw [hcalls]
    exact hallocations
  · rw [hcalls]
    rfl
  · rw [hcalls]
    rfl
  · intro hsize
    rw [hcalls]
    exact UInt64.toNat_ofNat_of_lt' (Nat.lt_of_le_of_lt hreports hsize)

/-- Request 7 was live before the run, request 5 is freed before it is allocated and stays
    live, request 4 is not freed, and request 2 is freed twice. -/
theorem run_totals_leftovers :
    let scheduler : Scheduler :=
      { threshold := ⟨2, by decide⟩
        sinceReport := 1
        clock := ⟨9⟩
        queue :=
          ⟨[⟨3, 5, 8, .free⟩, ⟨3, 7, 8, .free⟩, ⟨4, 5, 8, .allocate⟩, ⟨4, 6, 8, .allocate⟩,
              ⟨5, 6, 8, .free⟩, ⟨6, 2, 64, .allocate⟩, ⟨7, 4, 64, .allocate⟩, ⟨9, 2, 64, .free⟩,
              ⟨9, 2, 24, .free⟩],
            by decide⟩ }
    let allocator := Script.allocator { refuseEvery := some 2 }
    let live : LiveTable UInt64 := (({} : LiveTable UInt64).insert 7 100).2
    let calls := Tally.ofCalls (scheduler.run allocator.logged { state := {} } live).allocator.calls
    let report : Report :=
      { eventsDispatched := 9, allocationsSucceeded := 2, allocationsFailed := 2,
        freesDispatched := 2, untrackedFrees := 3, periodicReports := 1, failureReports := 2,
        peakLiveObjects := 2, liveObjectsRemaining := 1, finalTime := 9 }
    (scheduler.run allocator {} live).result = .ok report ∧
      (scheduler.run allocator {} live).scheduler.queue = .empty ∧
      (scheduler.run allocator {} live).scheduler.sinceReport = 0 ∧
      calls.allocations = 4 ∧ calls.frees = 2 ∧ calls.reports = 3 := by
  intro scheduler allocator live calls report
  have hreport : (scheduler.run allocator {} live).result = .ok report := by
    simp [scheduler, allocator, live, report, Scheduler.run, Plan.walk, Plan.step, Clock.advance,
      Plan.dispatchAllocate, Plan.dispatchFree, Plan.countSuccess, Plan.requestReport, Plan.record,
      Script.allocator, Script.refuses, LiveTable.insert, LiveTable.contains, LiveTable.get?,
      LiveTable.erase, LiveTable.size, Progress.finalReport, Except.map, Std.HashMap.size_erase,
      Std.HashMap.size_insert]
  obtain ⟨hempty, _, _, _, _, _, hsince, _, _, _, hallocations, hfrees, hreports, _⟩ :=
    run_totals scheduler allocator {} live report hreport
  exact ⟨hreport, hempty, hsince.trans (by decide), hallocations, hfrees, hreports⟩

end HeapReplay.Replay
