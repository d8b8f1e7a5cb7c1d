import HeapReplay.Replay.Clock
import HeapReplay.Replay.LiveTable
import HeapReplay.Replay.Queue
import HeapReplay.Replay.Report
import HeapReplay.Word

namespace HeapReplay.Replay

open Heap

/-- A run under way: the allocator's state, the live requests, the time, the
    successful allocations since the last periodic report, the first events
    dispatched, and the counts so far. -/
structure Progress (State Handle : Type) where
  allocator : State
  live : LiveTable Handle
  clock : Clock := {}
  sinceReport : Nat := 0
  history : Array Event := #[]
  report : Report := {}

/-- What stays the same throughout a run. -/
structure Plan (State Handle : Type) where
  allocator : Allocator State Handle
  threshold : PosWord
  historyLimit : Nat

namespace Plan

variable {State Handle : Type}

/-- Asks the allocator for its statistics and counts the report by `count`. -/
def requestReport (plan : Plan State Handle) (count : Report → Report)
    (progress : Progress State Handle) : Except ReplayError Unit × Progress State Handle :=
  match plan.allocator.report progress.allocator with
  | (.error error, allocator) => (.error (.allocator error), { progress with allocator })
  | (.ok (), allocator) =>
    (.ok (), { progress with allocator, report := count progress.report })

/-- Counts a granted request, and asks for statistics when it completes the
    threshold. -/
def countSuccess (plan : Plan State Handle) (progress : Progress State Handle) :
    Except ReplayError Unit × Progress State Handle :=
  let report :=
    { progress.report with allocationsSucceeded := progress.report.allocationsSucceeded + 1 }
  let sinceReport := progress.sinceReport + 1
  if plan.threshold.val.toNat ≤ sinceReport then
    plan.requestReport (fun report => { report with periodicReports := report.periodicReports + 1 })
      { progress with report, sinceReport := 0 }
  else (.ok (), { progress with report, sinceReport })

/-- Dispatches an allocation. A refused one is followed by a request for
    statistics at once. -/
def dispatchAllocate (plan : Plan State Handle) (event : Event) :
    Progress State Handle → Except ReplayError Unit × Progress State Handle
  | ⟨state, live, clock, sinceReport, history, report⟩ =>
    match plan.allocator.allocate event.id event.size state with
    | (.error error, state) =>
      (.error (.allocator error), ⟨state, live, clock, sinceReport, history, report⟩)
    | (.ok none, state) =>
      let report := { report with allocationsFailed := report.allocationsFailed + 1 }
      plan.requestReport (fun report => { report with failureReports := report.failureReports + 1 })
        ⟨state, live, clock, sinceReport, history, report⟩
    | (.ok (some handle), state) =>
      match live.insert event.id handle with
      | (.error error, live) => (.error error, ⟨state, live, clock, sinceReport, history, report⟩)
      | (.ok (), live) =>
        plan.countSuccess ⟨state, live, clock, sinceReport, history, report⟩

/-- Dispatches a free. One for a request that is not live reaches no
    allocator. -/
def dispatchFree (plan : Plan State Handle) (event : Event) :
    Progress State Handle → Except ReplayError Unit × Progress State Handle
  | ⟨state, live, clock, sinceReport, history, report⟩ =>
    match live.get? event.id with
    | none =>
      let report := { report with untrackedFrees := report.untrackedFrees + 1 }
      (.ok (), ⟨state, live, clock, sinceReport, history, report⟩)
    | some handle =>
      let live := live.erase event.id
      match plan.allocator.free event.id event.size handle state with
      | (.error error, state) =>
        (.error (.allocator error), ⟨state, live, clock, sinceReport, history, report⟩)
      | (.ok (), state) =>
        let report := { report with freesDispatched := report.freesDispatched + 1 }
        (.ok (), ⟨state, live, clock, sinceReport, history, report⟩)

/-- Counts a dispatched event and keeps it while there is room. -/
def record (plan : Plan State Handle) (event : Event) :
    Progress State Handle → Progress State Handle
  | ⟨state, live, clock, sinceReport, history, report⟩ =>
    let history := if history.size < plan.historyLimit then history.push event else history
    let report := { report with eventsDispatched := report.eventsDispatched + 1 }
    ⟨state, live, clock, sinceReport, history, report⟩

/-- Moves the clock to an event and dispatches it. -/
def step (plan : Plan State Handle) (event : Event) (progress : Progress State Handle) :
    Except ReplayError Unit × Progress State Handle :=
  match progress.clock.advance event.time with
  | .error error => (.error error, progress)
  | .ok clock =>
    let progress := { progress with clock }
    let dispatched :=
      match event.kind with
      | .allocate => plan.dispatchAllocate event progress
      | .free => plan.dispatchFree event progress
    match dispatched with
    | (.error error, progress) => (.error error, progress)
    | (.ok (), progress) => (.ok (), plan.record event progress)

/-- Dispatches events one after the other. The first error stops the walk; the
    events behind the one that failed are left over. -/
def walk (plan : Plan State Handle) (progress : Progress State Handle) :
    List Event → Except ReplayError Unit × Progress State Handle × List Event
  | [] => (.ok (), progress, [])
  | event :: events =>
    match plan.step event progress with
    | (.error error, progress) => (.error error, progress, events)
    | (.ok (), progress) => plan.walk progress events

end Plan

/-- The counts of a finished run, with what its table and its clock say at the
    end. -/
def Progress.finalReport {State Handle : Type} (progress : Progress State Handle) : Report :=
  { progress.report with
    peakLiveObjects := progress.live.peak
    liveObjectsRemaining := progress.live.size
    finalTime := progress.clock.now }

/-- A queue of events with how to run them, and what the last run left behind. -/
structure Scheduler where
  threshold : PosWord
  historyLimit : Nat := 0
  queue : Queue := .empty
  clock : Clock := {}
  sinceReport : Nat := 0
  history : Array Event := #[]

/-- The answer of a run, and all that it leaves behind. -/
structure Outcome (State Handle : Type) where
  result : Except ReplayError Report
  scheduler : Scheduler
  allocator : State
  live : LiveTable Handle

namespace Scheduler

variable {State Handle : Type}

/-- Adds the events of requests. -/
def schedule (scheduler : Scheduler) (requests : List Request) : Scheduler :=
  { scheduler with queue := scheduler.queue.schedule requests }

/-- Runs all queued events in the order of replay. Time, counts and history start
    afresh. After an error they stay as they were at the failure, and the events
    behind it stay queued. -/
def run (scheduler : Scheduler) (allocator : Allocator State Handle) (state : State)
    (live : LiveTable Handle) : Outcome State Handle :=
  let plan : Plan State Handle :=
    { allocator, threshold := scheduler.threshold, historyLimit := scheduler.historyLimit }
  let (result, progress, rest) :=
    plan.walk { allocator := state, live } scheduler.queue.toList
  { result := result.map fun () => progress.finalReport
    scheduler :=
      { scheduler with
        queue := .ofEvents rest
        clock := progress.clock
        sinceReport := progress.sinceReport
        history := progress.history }
    allocator := progress.allocator
    live := progress.live }

end Scheduler

/-- Replays requests with a table of their own. -/
def replay {State Handle : Type} (requests : List Request) (allocator : Allocator State Handle)
    (state : State) (threshold : PosWord) (historyLimit : Nat := 0) : Outcome State Handle :=
  (({ threshold, historyLimit } : Scheduler).schedule requests).run allocator state {}

end HeapReplay.Replay
