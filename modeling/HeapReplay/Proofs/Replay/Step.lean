import HeapReplay.Replay.Scheduler

namespace HeapReplay.Replay

open Heap

namespace Plan

variable {State Handle : Type}

/-- All that the dispatch of an event can do, with its answer and what it leaves. -/
inductive Dispatch (plan : Plan State Handle) (event : Event) (before : Progress State Handle) :
    Except ReplayError Unit → Progress State Handle → Prop
  | allocateFault {error : AllocatorError} {state : State} (hkind : event.kind = .allocate)
      (hallocate : plan.allocator.allocate event.id event.size before.allocator =
        (.error error, state)) :
      Dispatch plan event before (.error (.allocator error)) { before with allocator := state }
  | refusedFault {error : AllocatorError} {state final : State} (hkind : event.kind = .allocate)
      (hallocate : plan.allocator.allocate event.id event.size before.allocator = (.ok none, state))
      (hreport : plan.allocator.report state = (.error error, final)) :
      Dispatch plan event before (.error (.allocator error))
        { before with
          allocator := final
          report :=
            { before.report with allocationsFailed := before.report.allocationsFailed + 1 } }
  | refused {state final : State} (hkind : event.kind = .allocate)
      (hallocate : plan.allocator.allocate event.id event.size before.allocator = (.ok none, state))
      (hreport : plan.allocator.report state = (.ok (), final)) :
      Dispatch plan event before (.ok ())
        { before with
          allocator := final
          report :=
            { before.report with
              allocationsFailed := before.report.allocationsFailed + 1
              failureReports := before.report.failureReports + 1 } }
  | duplicate {handle : Handle} {state : State} (hkind : event.kind = .allocate)
      (hallocate : plan.allocator.allocate event.id event.size before.allocator =
        (.ok (some handle), state))
      (hlive : before.live.contains event.id = true) :
      Dispatch plan event before (.error (.alreadyLive event.id)) { before with allocator := state }
  | granted {handle : Handle} {state : State} (hkind : event.kind = .allocate)
      (hallocate : plan.allocator.allocate event.id event.size before.allocator =
        (.ok (some handle), state))
      (hlive : before.live.contains event.id = false)
      (hquiet : ¬ plan.threshold.val.toNat ≤ before.sinceReport + 1) :
      Dispatch plan event before (.ok ())
        { before with
          allocator := state
          live := (before.live.insert event.id handle).2
          sinceReport := before.sinceReport + 1
          report :=
            { before.report with
              allocationsSucceeded := before.report.allocationsSucceeded + 1 } }
  | grantedFault {handle : Handle} {error : AllocatorError} {state final : State}
      (hkind : event.kind = .allocate)
      (hallocate : plan.allocator.allocate event.id event.size before.allocator =
        (.ok (some handle), state))
      (hlive : before.live.contains event.id = false)
      (hdue : plan.threshold.val.toNat ≤ before.sinceReport + 1)
      (hreport : plan.allocator.report state = (.error error, final)) :
      Dispatch plan event before (.error (.allocator error))
        { before with
          allocator := final
          live := (before.live.insert event.id handle).2
          sinceReport := 0
          report :=
            { before.report with
              allocationsSucceeded := before.report.allocationsSucceeded + 1 } }
  | grantedReport {handle : Handle} {state final : State} (hkind : event.kind = .allocate)
      (hallocate : plan.allocator.allocate event.id event.size before.allocator =
        (.ok (some handle), state))
      (hlive : before.live.contains event.id = false)
      (hdue : plan.threshold.val.toNat ≤ before.sinceReport + 1)
      (hreport : plan.allocator.report state = (.ok (), final)) :
      Dispatch plan event before (.ok ())
        { before with
          allocator := final
          live := (before.live.insert event.id handle).2
          sinceReport := 0
          report :=
            { before.report with
              allocationsSucceeded := before.report.allocationsSucceeded + 1
              periodicReports := before.report.periodicReports + 1 } }
  | untracked (hkind : event.kind = .free) (hlive : before.live.get? event.id = none) :
      Dispatch plan event before (.ok ())
        { before with
          report := { before.report with untrackedFrees := before.report.untrackedFrees + 1 } }
  | freeFault {handle : Handle} {error : AllocatorError} {state : State}
      (hkind : event.kind = .free) (hlive : before.live.get? event.id = some handle)
      (hfree : plan.allocator.free event.id event.size handle before.allocator =
        (.error error, state)) :
      Dispatch plan event before (.error (.allocator error))
        { before with
          allocator := state
          live := before.live.erase event.id }
  | freed {handle : Handle} {state : State}
      (hkind : event.kind = .free) (hlive : before.live.get? event.id = some handle)
      (hfree : plan.allocator.free event.id event.size handle before.allocator = (.ok (), state)) :
      Dispatch plan event before (.ok ())
        { before with
          allocator := state
          live := before.live.erase event.id
          report := { before.report with freesDispatched := before.report.freesDispatched + 1 } }

variable {plan : Plan State Handle} {event : Event}

theorem Dispatch.clock_eq {before after : Progress State Handle} {result : Except ReplayError Unit}
    (hdispatch : plan.Dispatch event before result after) : after.clock = before.clock := by
  cases hdispatch <;> rfl

theorem Dispatch.history_eq {before after : Progress State Handle}
    {result : Except ReplayError Unit} (hdispatch : plan.Dispatch event before result after) :
    after.history = before.history := by
  cases hdispatch <;> rfl

theorem dispatchAllocate_cases (before : Progress State Handle) (hkind : event.kind = .allocate) :
    plan.Dispatch event before (plan.dispatchAllocate event before).1
      (plan.dispatchAllocate event before).2 := by
  cases hallocate : plan.allocator.allocate event.id event.size before.allocator with
  | mk answer state =>
    match answer with
    | .error error =>
      simpa [dispatchAllocate, hallocate] using Dispatch.allocateFault hkind hallocate
    | .ok none =>
      match hreport : plan.allocator.report state with
      | (.error error, final) =>
        simpa [dispatchAllocate, requestReport, hallocate, hreport] using
          Dispatch.refusedFault hkind hallocate hreport
      | (.ok (), final) =>
        simpa [dispatchAllocate, requestReport, hallocate, hreport] using
          Dispatch.refused hkind hallocate hreport
    | .ok (some handle) =>
      cases hlive : before.live.contains event.id with
      | true =>
        simpa [dispatchAllocate, LiveTable.insert, hallocate, hlive] using
          Dispatch.duplicate hkind hallocate hlive
      | false =>
        by_cases hdue : plan.threshold.val.toNat ≤ before.sinceReport + 1
        · match hreport : plan.allocator.report state with
          | (.error error, final) =>
            simpa [dispatchAllocate, countSuccess, requestReport, LiveTable.insert, hallocate,
              hlive, hdue, hreport] using Dispatch.grantedFault hkind hallocate hlive hdue hreport
          | (.ok (), final) =>
            simpa [dispatchAllocate, countSuccess, requestReport, LiveTable.insert, hallocate,
              hlive, hdue, hreport] using Dispatch.grantedReport hkind hallocate hlive hdue hreport
        · simpa [dispatchAllocate, countSuccess, LiveTable.insert, hallocate, hlive, hdue] using
            Dispatch.granted hkind hallocate hlive hdue

theorem dispatchFree_cases (before : Progress State Handle) (hkind : event.kind = .free) :
    plan.Dispatch event before (plan.dispatchFree event before).1
      (plan.dispatchFree event before).2 := by
  cases hlive : before.live.get? event.id with
  | none => simpa [dispatchFree, hlive] using Dispatch.untracked hkind hlive
  | some handle =>
    match hfree : plan.allocator.free event.id event.size handle before.allocator with
    | (.error error, state) =>
      simpa [dispatchFree, hlive, hfree] using Dispatch.freeFault hkind hlive hfree
    | (.ok (), state) => simpa [dispatchFree, hlive, hfree] using Dispatch.freed hkind hlive hfree

/-- Dispatches an event by its kind. -/
def dispatch (plan : Plan State Handle) (event : Event) (progress : Progress State Handle) :
    Except ReplayError Unit × Progress State Handle :=
  match event.kind with
  | .allocate => plan.dispatchAllocate event progress
  | .free => plan.dispatchFree event progress

theorem dispatch_cases (plan : Plan State Handle) (event : Event) (before : Progress State Handle) :
    plan.Dispatch event before (plan.dispatch event before).1 (plan.dispatch event before).2 := by
  cases hkind : event.kind with
  | allocate => simpa only [dispatch, hkind] using dispatchAllocate_cases before hkind
  | free => simpa only [dispatch, hkind] using dispatchFree_cases before hkind

section Step

variable {before after : Progress State Handle} {error : ReplayError}

/-- A step refuses an event of the past. -/
theorem step_late (hlate : event.time < before.clock.now) :
    plan.step event before = (.error (.clockBack before.clock.now event.time), before) := by
  simp [step, Clock.advance, hlate]

/-- A step dispatches any other event at its time, and records it if that succeeds. -/
theorem step_dispatch {result : Except ReplayError Unit}
    (hclock : before.clock.now ≤ event.time)
    (hdispatch : plan.dispatch event { before with clock := ⟨event.time⟩ } = (result, after)) :
    plan.step event before =
      (result,
        match result with
        | .error _ => after
        | .ok () => plan.record event after) := by
  have hadvance : before.clock.advance event.time = .ok ⟨event.time⟩ :=
    if_neg (UInt64.not_lt.2 hclock)
  unfold dispatch at hdispatch
  cases hkind : event.kind with
  | allocate =>
    simp only [hkind] at hdispatch
    cases result <;> simp only [step, hadvance, hkind, hdispatch]
  | free =>
    simp only [hkind] at hdispatch
    cases result <;> simp only [step, hadvance, hkind, hdispatch]

theorem step_error (hclock : before.clock.now ≤ event.time)
    (hdispatch :
      plan.dispatch event { before with clock := ⟨event.time⟩ } = (.error error, after)) :
    plan.step event before = (.error error, after) :=
  step_dispatch hclock hdispatch

theorem step_ok (hclock : before.clock.now ≤ event.time)
    (hdispatch : plan.dispatch event { before with clock := ⟨event.time⟩ } = (.ok (), after)) :
    plan.step event before = (.ok (), plan.record event after) :=
  step_dispatch hclock hdispatch

end Step

/-- What holds of the events left and the progress before each step holds at the end of
    a walk without an error. -/
theorem walk_cases {plan : Plan State Handle}
    {invariant : List Event → Progress State Handle → Prop}
    {failed : ReplayError → Progress State Handle → Prop}
    (hlateFails : ∀ event events before, invariant (event :: events) before →
      event.time < before.clock.now → failed (.clockBack before.clock.now event.time) before)
    (hok : ∀ event events before after, invariant (event :: events) before →
      before.clock.now ≤ event.time →
      plan.Dispatch event { before with clock := ⟨event.time⟩ } (.ok ()) after →
      invariant events (plan.record event after))
    (hfailed : ∀ event events before error after, invariant (event :: events) before →
      before.clock.now ≤ event.time →
      plan.Dispatch event { before with clock := ⟨event.time⟩ } (.error error) after →
      failed error after)
    {events : List Event} {progress : Progress State Handle} (hstart : invariant events progress) :
    (∃ final, plan.walk progress events = (.ok (), final, []) ∧ invariant [] final) ∨
      ∃ error final rest, plan.walk progress events = (.error error, final, rest) ∧
        failed error final := by
  induction events generalizing progress with
  | nil => exact Or.inl ⟨progress, rfl, hstart⟩
  | cons event events ih =>
    by_cases hlate : event.time < progress.clock.now
    · right
      exact ⟨_, _, events, by rw [walk, step_late hlate],
        hlateFails event events progress hstart hlate⟩
    · have hclock := UInt64.not_lt.1 hlate
      have hcases := dispatch_cases plan event { progress with clock := ⟨event.time⟩ }
      rcases hdispatch : plan.dispatch event { progress with clock := ⟨event.time⟩ } with
        ⟨error | _, after⟩
      · rw [hdispatch] at hcases
        right
        exact ⟨error, after, events, by rw [walk, step_error hclock hdispatch],
          hfailed event events progress error after hstart hclock hcases⟩
      · rw [hdispatch] at hcases
        have hwalk : plan.walk progress (event :: events) =
            plan.walk (plan.record event after) events := by
          rw [walk, step_ok hclock hdispatch]
        rw [hwalk]
        exact ih (hok event events progress after hstart hclock hcases)

end Plan

namespace Scheduler

variable {State Handle : Type}

/-- The plan by which a scheduler runs. -/
def plan (scheduler : Scheduler) (allocator : Allocator State Handle) : Plan State Handle :=
  { allocator, threshold := scheduler.threshold, historyLimit := scheduler.historyLimit }

/-- A run ends with what each step of its walk kept, or with what the failure of a step
    left. -/
theorem run_cases (scheduler : Scheduler) (allocator : Allocator State Handle) (state : State)
    (live : LiveTable Handle) (invariant : List Event → Progress State Handle → Prop)
    (failed : ReplayError → Progress State Handle → Prop)
    (hlate : ∀ event events before, invariant (event :: events) before →
      event.time < before.clock.now → failed (.clockBack before.clock.now event.time) before)
    (hok : ∀ event events before after, invariant (event :: events) before →
      before.clock.now ≤ event.time →
      (scheduler.plan allocator).Dispatch event { before with clock := ⟨event.time⟩ }
        (.ok ()) after →
      invariant events ((scheduler.plan allocator).record event after))
    (hfailed : ∀ event events before error after, invariant (event :: events) before →
      before.clock.now ≤ event.time →
      (scheduler.plan allocator).Dispatch event { before with clock := ⟨event.time⟩ }
        (.error error) after →
      failed error after)
    (hstart : invariant scheduler.queue.toList { allocator := state, live }) :
    (∃ final, invariant [] final ∧
        (scheduler.run allocator state live).result = .ok final.finalReport ∧
        (scheduler.run allocator state live).allocator = final.allocator ∧
        (scheduler.run allocator state live).live = final.live) ∨
      ∃ error final, failed error final ∧
        (scheduler.run allocator state live).result = .error error ∧
        (scheduler.run allocator state live).allocator = final.allocator ∧
        (scheduler.run allocator state live).live = final.live := by
  rcases Plan.walk_cases hlate hok hfailed hstart with
    ⟨final, hwalk, hfinal⟩ | ⟨error, final, rest, hwalk, hfinal⟩
  · left
    rw [plan] at hwalk
    exact ⟨final, hfinal, by simp [run, hwalk, Except.map]⟩
  · right
    rw [plan] at hwalk
    exact ⟨error, final, hfinal, by simp [run, hwalk, Except.map]⟩

end Scheduler
end HeapReplay.Replay
