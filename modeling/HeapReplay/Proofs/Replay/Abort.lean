import HeapReplay.Heap.Script
import HeapReplay.Proofs.Replay.LiveTable
import HeapReplay.Proofs.Replay.Usage

namespace HeapReplay.Replay

open Heap

variable {State Handle : Type}

/-- The ways in which an event fails, given the allocator, the table and the count of
    successes since the last report, with the error and with what is left of the three. -/
inductive Abort (allocator : Allocator State Handle) (threshold : PosWord) (event : Event)
    (state : State) (live : LiveTable Handle) (sinceReport : Nat) :
    ReplayError → State → LiveTable Handle → Nat → Prop
  | allocateFault {fault : AllocatorError} {next : State} (hkind : event.kind = .allocate)
      (hallocate : allocator.allocate event.id event.size state = (.error fault, next)) :
      Abort allocator threshold event state live sinceReport (.allocator fault) next live
        sinceReport
  | failureReportFault {fault : AllocatorError} {next final : State}
      (hkind : event.kind = .allocate)
      (hallocate : allocator.allocate event.id event.size state = (.ok none, next))
      (hreport : allocator.report next = (.error fault, final)) :
      Abort allocator threshold event state live sinceReport (.allocator fault) final live
        sinceReport
  | alreadyLive {handle : Handle} {next : State} (hkind : event.kind = .allocate)
      (hallocate : allocator.allocate event.id event.size state = (.ok (some handle), next))
      (hlive : live.contains event.id = true) :
      Abort allocator threshold event state live sinceReport (.alreadyLive event.id) next live
        sinceReport
  | periodicReportFault {handle : Handle} {fault : AllocatorError} {next final : State}
      (hkind : event.kind = .allocate)
      (hallocate : allocator.allocate event.id event.size state = (.ok (some handle), next))
      (hlive : live.contains event.id = false)
      (hdue : threshold.val.toNat ≤ sinceReport + 1)
      (hreport : allocator.report next = (.error fault, final)) :
      Abort allocator threshold event state live sinceReport (.allocator fault) final
        (live.insert event.id handle).2 0
  | freeFault {handle : Handle} {fault : AllocatorError} {next : State}
      (hkind : event.kind = .free) (hlive : live.get? event.id = some handle)
      (hfree : allocator.free event.id event.size handle state = (.error fault, next)) :
      Abort allocator threshold event state live sinceReport (.allocator fault) next
        (live.erase event.id) sinceReport

section Dispatch

variable {allocator : Allocator State Handle} {threshold : PosWord} {plan : Plan State Handle}
  {event : Event} {before after : Progress State Handle} {error : ReplayError}

theorem abort_of_dispatch (hdispatch : plan.Dispatch event before (.error error) after) :
    Abort plan.allocator plan.threshold event before.allocator before.live before.sinceReport error
      after.allocator after.live after.sinceReport := by
  cases hdispatch with
  | allocateFault hkind hallocate => exact .allocateFault hkind hallocate
  | refusedFault hkind hallocate hreport => exact .failureReportFault hkind hallocate hreport
  | duplicate hkind hallocate hlive => exact .alreadyLive hkind hallocate hlive
  | grantedFault hkind hallocate hlive hdue hreport =>
    exact .periodicReportFault hkind hallocate hlive hdue hreport
  | freeFault hkind hlive hfree => exact .freeFault hkind hlive hfree

theorem dispatch_of_abort {state : State} {live : LiveTable Handle} {sinceReport : Nat}
    (habort : Abort plan.allocator plan.threshold event before.allocator before.live
      before.sinceReport error state live sinceReport) :
    ∃ after, plan.dispatch event before = (.error error, after) := by
  cases habort with
  | allocateFault hkind hallocate =>
    simp [Plan.dispatch, hkind, Plan.dispatchAllocate, hallocate]
  | failureReportFault hkind hallocate hreport =>
    simp [Plan.dispatch, hkind, Plan.dispatchAllocate, hallocate, Plan.requestReport, hreport]
  | alreadyLive hkind hallocate hlive =>
    simp [Plan.dispatch, hkind, Plan.dispatchAllocate, hallocate, LiveTable.insert, hlive]
  | periodicReportFault hkind hallocate hlive hdue hreport =>
    simp [Plan.dispatch, hkind, Plan.dispatchAllocate, hallocate, LiveTable.insert, hlive,
      Plan.countSuccess, hdue, Plan.requestReport, hreport]
  | freeFault hkind hlive hfree =>
    simp [Plan.dispatch, hkind, Plan.dispatchFree, hlive, hfree]

/-- An event fails with its request being live exactly when it is an allocation for a live
    request, and is granted. -/
theorem Abort.alreadyLive_iff {state next : State} {live table : LiveTable Handle}
    {sinceReport count : Nat}
    (habort : Abort allocator threshold event state live sinceReport error next table count) :
    (∃ id, error = .alreadyLive id) ↔ event.kind = .allocate ∧ live.contains event.id = true ∧
      ∃ handle granted,
        allocator.allocate event.id event.size state = (.ok (some handle), granted) := by
  cases habort with
  | allocateFault hkind hallocate => simp [hallocate]
  | failureReportFault hkind hallocate hreport => simp [hallocate]
  | alreadyLive hkind hallocate hlive => simp [hkind, hallocate, hlive]
  | periodicReportFault hkind hallocate hlive hdue hreport => simp [hlive]
  | freeFault hkind hlive hfree => simp [hkind]

end Dispatch

namespace Scheduler

variable {scheduler : Scheduler} {allocator : Allocator State Handle} {state : State}
  {live : LiveTable Handle} {done rest : List Event} {event : Event} {error : ReplayError}

/-- The run of a scheduler on the given events alone. -/
def runOn (scheduler : Scheduler) (allocator : Allocator State Handle) (state : State)
    (live : LiveTable Handle) (events : List Event) : Outcome State Handle :=
  ({ scheduler with queue := .ofEvents events } : Scheduler).run allocator state live

theorem runOn_of_walk {events : List Event} {result : Except ReplayError Unit}
    {final : Progress State Handle} (hordered : events.Pairwise fun a b => a.le b)
    (hwalk : (scheduler.plan allocator).walk { allocator := state, live } events =
      (result, final, rest)) :
    scheduler.runOn allocator state live events =
      { result := result.map fun () => final.finalReport
        scheduler :=
          { scheduler with
            queue := .ofEvents rest
            clock := final.clock
            sinceReport := final.sinceReport
            history := final.history }
        allocator := final.allocator
        live := final.live } := by
  apply run_of_walk
  rw [Queue.toList_ofEvents_of_ordered hordered]
  exact hwalk

theorem walk_of_runOn_ok {events : List Event} {report : Report}
    (hordered : events.Pairwise fun a b => a.le b)
    (hresult : (scheduler.runOn allocator state live events).result = .ok report) :
    ∃ final, (scheduler.plan allocator).walk { allocator := state, live } events =
      (.ok (), final, []) := by
  obtain ⟨final, _, hwalk⟩ := walk_of_run_ok hresult
  rw [Queue.toList_ofEvents_of_ordered hordered] at hwalk
  exact ⟨final, hwalk⟩

/-- A run with an error dispatched the events before the one that failed, and consumed
    that one. -/
theorem exists_abort_of_run (hresult : (scheduler.run allocator state live).result = .error error) :
    let outcome := scheduler.run allocator state live
    let first := scheduler.runOn allocator state live
    ∃ done event, scheduler.queue.toList = done ++ event :: outcome.scheduler.queue.toList ∧
      (∃ report, (first done).result = .ok report) ∧
      Abort allocator scheduler.threshold event (first done).allocator (first done).live
        (first done).scheduler.sinceReport error outcome.allocator outcome.live
        outcome.scheduler.sinceReport ∧
      outcome.scheduler.clock.now = event.time ∧
      outcome.scheduler.history.toList = done.take scheduler.historyLimit := by
  intro outcome first
  obtain ⟨final, rest, hwalk⟩ := walk_of_run_error hresult
  obtain ⟨done, event, before, hevents, hdone, hstep⟩ := Plan.walk_split hwalk
  have hordered := scheduler.queue.ordered
  rw [hevents] at hordered
  have hdispatch := Plan.dispatch_of_step_error (Plan.clock_le_of_walk_ok hdone hordered) hstep
  refine ⟨done, event, ?_⟩
  simp only [outcome, first]
  rw [queue_of_walk hwalk, runOn_of_walk (List.pairwise_append.1 hordered).1 hdone,
    run_of_walk hwalk]
  refine ⟨hevents, ⟨_, rfl⟩, abort_of_dispatch hdispatch, ?_, ?_⟩
  · simp only [hdispatch.clock_eq]
  · simp only [hdispatch.history_eq]
    exact Plan.history_of_walk_ok hdone

/-- A run fails with an event that fails when those before it are dispatched. -/
theorem run_error_of_abort {report : Report} {next : State} {table : LiveTable Handle}
    {count : Nat} (hevents : scheduler.queue.toList = done ++ event :: rest)
    (hdone : (scheduler.runOn allocator state live done).result = .ok report)
    (habort : Abort allocator scheduler.threshold event
      (scheduler.runOn allocator state live done).allocator
      (scheduler.runOn allocator state live done).live
      (scheduler.runOn allocator state live done).scheduler.sinceReport error next table count) :
    (scheduler.run allocator state live).result = .error error := by
  have hordered := scheduler.queue.ordered
  rw [hevents] at hordered
  have hfront := (List.pairwise_append.1 hordered).1
  obtain ⟨before, hwalk⟩ := walk_of_runOn_ok hfront hdone
  rw [runOn_of_walk hfront hwalk] at habort
  obtain ⟨after, hdispatch⟩ :
      ∃ after, (scheduler.plan allocator).dispatch event { before with clock := ⟨event.time⟩ } =
        (.error error, after) := dispatch_of_abort habort
  have hstep := Plan.step_error (Plan.clock_le_of_walk_ok hwalk hordered) hdispatch
  have hrun : (scheduler.plan allocator).walk { allocator := state, live } scheduler.queue.toList =
      (.error error, after, rest) := by
    rw [hevents, Plan.walk_append hwalk, Plan.walk, hstep]
  rw [run_of_walk hrun]
  rfl

end Scheduler

/-- A run fails at the first event that does, with all events before it dispatched, that
    one consumed and all behind it queued. However often a scheduler is filled and run,
    each event that was scheduled was taken once or is queued still. -/
theorem run_abort (scheduler : Scheduler) (allocator : Allocator State Handle) (state : State)
    (live : LiveTable Handle) (events : List Event) (hqueued : events.Perm scheduler.queue.toList)
    (hordered : events.Pairwise fun a b => a.le b) (hkeyed : Keyed events) :
    let outcome := scheduler.run allocator state live
    let first := scheduler.runOn allocator state live
    (∀ error, outcome.result = .error error → ∃ done event rest,
      events = done ++ event :: rest ∧
      (∃ report, (first done).result = .ok report) ∧
      Abort allocator scheduler.threshold event (first done).allocator (first done).live
        (first done).scheduler.sinceReport error outcome.allocator outcome.live
        outcome.scheduler.sinceReport ∧
      ((∃ id, error = .alreadyLive id) ↔
        event.kind = .allocate ∧ (first done).live.contains event.id = true ∧
          ∃ handle next, allocator.allocate event.id event.size (first done).allocator =
            (.ok (some handle), next)) ∧
      scheduler.taken (.run allocator state live) = done ++ [event] ∧
      outcome.scheduler.queue.toList = rest ∧
      outcome.scheduler.clock.now = event.time ∧
      outcome.scheduler.history.toList = done.take scheduler.historyLimit) ∧
    (∀ done event rest report error next table count, events = done ++ event :: rest →
      (first done).result = .ok report →
      Abort allocator scheduler.threshold event (first done).allocator (first done).live
        (first done).scheduler.sinceReport error next table count →
      outcome.result = .error error) ∧
    (∀ report, outcome.result = .ok report →
      scheduler.taken (.run allocator state live) = events ∧ outcome.scheduler.queue = .empty) ∧
    ∀ uses, (scheduler.takenBy uses ++ (scheduler.after uses).queue.toList).Perm
      (events ++ uses.flatMap Use.events) := by
  intro outcome first
  obtain rfl := hkeyed.eq_of_perm hqueued hordered scheduler.queue.ordered
  refine ⟨?_, ?_, ?_, scheduler.takenBy_append_queue⟩
  · intro error herror
    obtain ⟨done, event, hevents, hdone, habort, hclock, hhistory⟩ :=
      Scheduler.exists_abort_of_run herror
    have htaken : scheduler.taken (.run allocator state live) = done ++ [event] := by
      apply Scheduler.taken_eq_of_append
      rw [List.append_assoc]
      exact hevents
    exact ⟨done, event, _, hevents, hdone, habort, habort.alreadyLive_iff, htaken, rfl, hclock,
      hhistory⟩
  · intro done event rest report error next table count hevents hdone habort
    exact Scheduler.run_error_of_abort hevents hdone habort
  · intro report hreport
    have hempty : outcome.scheduler.queue = .empty := Scheduler.queue_eq_empty_of_run_ok hreport
    refine ⟨?_, hempty⟩
    apply Scheduler.taken_eq_of_append
    rw [hempty]
    exact (List.append_nil _).symm

/-- The first periodic report faults: its request stays in the table, and the event behind
    it stays queued. -/
theorem run_abort_periodic_report :
    let events : List Event :=
      [⟨0, 2, 16, .allocate⟩, ⟨5, 7, 24, .allocate⟩, ⟨5, 7, 24, .free⟩, ⟨6, 2, 16, .free⟩]
    let scheduler : Scheduler :=
      { threshold := ⟨2, by decide⟩, historyLimit := 4, queue := ⟨events, by decide⟩ }
    let allocator := Script.allocator { faultReportAt := some 1 }
    let outcome := scheduler.run allocator {} {}
    events.Perm scheduler.queue.toList ∧ events.Pairwise (fun a b => a.le b) ∧ Keyed events ∧
      outcome.result = .error (.allocator (.fault "report 1")) ∧
      ∃ done event, events = done ++ event :: outcome.scheduler.queue.toList ∧
        outcome.scheduler.clock.now = event.time ∧
        outcome.scheduler.history.toList = done.take 4 := by
  intro events scheduler allocator outcome
  have hqueued : events.Perm scheduler.queue.toList := .refl _
  have hordered : events.Pairwise fun a b => a.le b := by decide
  have hkeyed : Keyed events := by decide
  have herror : outcome.result = .error (.allocator (.fault "report 1")) := by
    simp [outcome, scheduler, events, allocator, Scheduler.run, Plan.walk, Plan.step,
      Clock.advance, Plan.dispatchAllocate, Plan.countSuccess, Plan.requestReport, Plan.record,
      Script.allocator, Script.refuses, LiveTable.insert, LiveTable.contains, Except.map]
    rfl
  obtain ⟨hfails, _⟩ := run_abort scheduler allocator {} {} events hqueued hordered hkeyed
  obtain ⟨done, event, rest, hevents, _, _, _, _, hrest, hclock, hhistory⟩ := hfails _ herror
  rw [← hrest] at hevents
  exact ⟨hqueued, hordered, hkeyed, herror, done, event, hevents, hclock, hhistory⟩

end HeapReplay.Replay
