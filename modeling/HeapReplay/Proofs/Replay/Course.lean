import HeapReplay.Heap.Script
import HeapReplay.Proofs.Replay.Abort
import Mathlib.Algebra.Order.Group.Nat
import Mathlib.Order.Lattice.Nat

namespace HeapReplay.Replay

open Heap

variable {State Handle : Type}

namespace Plan

/-- The course of a walk: the events that it takes, each with the progress that it
    leaves. -/
def course (plan : Plan State Handle) (progress : Progress State Handle) :
    List Event → List (Event × Progress State Handle)
  | [] => []
  | event :: events =>
    match plan.step event progress with
    | (.error _, next) => [(event, next)]
    | (.ok (), next) => (event, next) :: plan.course next events

variable {plan : Plan State Handle} {event : Event} {events rest : List Event}
  {progress next final : Progress State Handle} {result : Except ReplayError Unit}

/-- A walk takes the events of its course and leaves all others, and it ends with what its
    course ends with. -/
theorem course_of_walk (hwalk : plan.walk progress events = (result, final, rest)) :
    (plan.course progress events).map Prod.fst ++ rest = events ∧
      ((plan.course progress events).getLast?.map Prod.snd).getD progress = final := by
  induction events generalizing progress with
  | nil =>
    cases hwalk
    exact ⟨rfl, rfl⟩
  | cons event events ih =>
    rcases hstep : plan.step event progress with ⟨_ | _, next⟩
    · simp only [walk, hstep] at hwalk
      cases hwalk
      simp [course, hstep]
    · simp only [walk, hstep] at hwalk
      obtain ⟨htaken, hlast⟩ := ih hwalk
      simp only [course, hstep]
      refine ⟨congrArg (event :: ·) htaken, ?_⟩
      rw [← hlast, List.getLast?_cons]
      cases (plan.course next events).getLast? <;> rfl

/-- A step moves the clock to its event, and leaves no later event in the past of the
    clock, also when the event fails. -/
theorem timely_step (htimely : Timely (event :: events) progress)
    (hstep : plan.step event progress = (result, next)) :
    next.clock.now = event.time ∧ Timely events next := by
  have hclock := htimely.2 event List.mem_cons_self
  obtain ⟨hlater, hevents⟩ := List.pairwise_cons.1 htimely.1
  have hnow : next.clock.now = event.time := by
    cases result with
    | error error => rw [(dispatch_of_step_error hclock hstep).clock_eq]
    | ok _ =>
      obtain ⟨_, dispatched, hdispatch, rfl⟩ := dispatch_of_step_ok hstep
      exact congrArg Clock.now hdispatch.clock_eq
  refine ⟨hnow, hevents, ?_⟩
  rw [hnow]
  exact hlater

/-- While no event is in the past, each event taken is where the clock then stands. -/
theorem clock_of_mem_course (htimely : Timely events progress)
    (hmem : (event, next) ∈ plan.course progress events) : next.clock.now = event.time := by
  induction events generalizing progress with
  | nil => cases hmem
  | cons first events ih =>
    rcases hstep : plan.step first progress with ⟨_ | _, behind⟩
    · simp only [course, hstep, List.mem_singleton] at hmem
      cases hmem
      exact (timely_step htimely hstep).1
    · obtain ⟨hclock, hbehind⟩ := timely_step htimely hstep
      simp only [course, hstep, List.mem_cons] at hmem
      rcases hmem with hfirst | hmem
      · cases hfirst
        exact hclock
      · exact ih hbehind hmem

end Plan

namespace Scheduler

/-- The course of a run. -/
def course (scheduler : Scheduler) (allocator : Allocator State Handle) (state : State)
    (live : LiveTable Handle) : List (Event × Progress State Handle) :=
  (scheduler.plan allocator).course { allocator := state, live } scheduler.queue.toList

variable (scheduler : Scheduler) (allocator : Allocator State Handle) (state : State)
  (live : LiveTable Handle)

theorem map_fst_course :
    (scheduler.course allocator state live).map Prod.fst =
      scheduler.taken (.run allocator state live) := by
  rcases hwalk : (scheduler.plan allocator).walk { allocator := state, live }
    scheduler.queue.toList with ⟨result, final, rest⟩
  obtain ⟨htaken, _⟩ := Plan.course_of_walk hwalk
  refine (taken_eq_of_append ?_).symm
  rw [queue_of_walk hwalk]
  exact htaken.symm

theorem clock_run :
    (scheduler.run allocator state live).scheduler.clock =
      ((scheduler.course allocator state live).getLast?.map fun pass => pass.2.clock).getD {} := by
  rcases hwalk : (scheduler.plan allocator).walk { allocator := state, live }
    scheduler.queue.toList with ⟨result, final, rest⟩
  obtain ⟨_, hlast⟩ := Plan.course_of_walk hwalk
  rw [run_of_walk hwalk, course, ← hlast]
  cases (Plan.course _ _ scheduler.queue.toList).getLast? <;> rfl

theorem clock_course :
    (scheduler.course allocator state live).map (fun pass => pass.2.clock.now) =
      (scheduler.taken (.run allocator state live)).map Event.time := by
  rw [← map_fst_course, List.map_map]
  refine List.map_congr_left ?_
  rintro ⟨event, progress⟩ hmem
  exact Plan.clock_of_mem_course (timely_start scheduler.queue state live) hmem

theorem taken_run_prefix :
    scheduler.taken (.run allocator state live) <+: scheduler.queue.toList :=
  List.take_prefix _ _

/-- No event is ever in the past. -/
theorem run_ne_clockBack (now target : UInt64) :
    (scheduler.run allocator state live).result ≠ .error (.clockBack now target) := by
  intro herror
  obtain ⟨_, _, _, _, habort, _⟩ := exists_abort_of_run herror
  cases habort

end Scheduler

/-- The last time of an ascending list is the largest one. -/
theorem getLast?_times_eq_max? {times : List Nat} (hascend : times.Pairwise (· ≤ ·)) :
    times.getLast? = times.max? := by
  cases hlast : times.getLast? with
  | none =>
    rw [List.getLast?_eq_none_iff] at hlast
    rw [hlast]
    rfl
  | some last =>
    refine (List.max?_eq_some_iff.2 ⟨List.mem_of_getLast? hlast, ?_⟩).symm
    intro time hmem
    obtain ⟨before, rfl⟩ := List.getLast?_eq_some_iff.1 hlast
    rcases List.mem_append.1 hmem with hbefore | hlast
    · exact (List.pairwise_append.1 hascend).2.2 time hbefore last List.mem_cons_self
    · rw [List.mem_singleton.1 hlast]

/-- Whatever a scheduler was used for before, a run finds no event in the past. Its clock
    starts at zero, stands at the time of the event taken last, and so never goes back. A
    run without an error ends at the largest time that was queued. -/
theorem run_clock (scheduler : Scheduler) (uses : List Use) (allocator : Allocator State Handle)
    (state : State) (live : LiveTable Handle) :
    let used := scheduler.after uses
    let outcome := used.run allocator state live
    let course := used.course allocator state live
    let latest := (used.queue.toList.map (·.time.toNat)).max?.getD 0
    (∀ now target, outcome.result ≠ .error (.clockBack now target)) ∧
      course.map Prod.fst = used.taken (.run allocator state live) ∧
      (∀ event progress, (event, progress) ∈ course → progress.clock.now = event.time) ∧
      (course.map fun pass => pass.2.clock.now).Pairwise (· ≤ ·) ∧
      outcome.scheduler.clock = (course.getLast?.map fun pass => pass.2.clock).getD {} ∧
      ∀ report, outcome.result = .ok report →
        outcome.scheduler.clock.now.toNat = latest ∧ report.finalTime.toNat = latest := by
  intro used outcome course latest
  refine ⟨used.run_ne_clockBack allocator state live, used.map_fst_course allocator state live,
    ?_, ?_, used.clock_run allocator state live, ?_⟩
  · intro event progress hmem
    exact Plan.clock_of_mem_course (timely_start used.queue state live) hmem
  · rw [used.clock_course, List.pairwise_map]
    exact used.queue.times_ascend.sublist (used.taken_run_prefix allocator state live).sublist
  · intro report hreport
    obtain ⟨final, rfl, hwalk⟩ := Scheduler.walk_of_run_ok hreport
    -- The queue ascends, so the time of its last event is the largest one.
    have hnow : final.clock.now.toNat = latest := by
      have hascend : (used.queue.toList.map (·.time.toNat)).Pairwise (· ≤ ·) :=
        List.pairwise_map.2 used.queue.times_ascend
      simp only [latest, ← getLast?_times_eq_max? hascend, List.getLast?_map,
        Plan.clock_of_walk_ok hwalk]
      cases used.queue.toList.getLast? <;> rfl
    refine ⟨?_, hnow⟩
    simp only [outcome, Scheduler.run_of_walk hwalk]
    exact hnow

/-- The first run fails at time 100 and leaves the free at time 200 queued. The requests
    that follow begin before that, and one of them ends with the last word. -/
theorem run_clock_earlier_batch :
    let scheduler : Scheduler := { threshold := ⟨1, by decide⟩ }
    let last : UInt64 := 0xffffffffffffffff
    let uses : List Use :=
      [.schedule [⟨7, 8, 100, 200⟩],
        .run (Script.allocator { faultReportAt := some 1 }) {} {},
        .schedule [⟨2, 8, 0, last⟩]]
    let used := scheduler.after uses
    let outcome := used.run (Script.allocator {}) {} {}
    let report : Report :=
      { eventsDispatched := 3, allocationsSucceeded := 1, freesDispatched := 1, untrackedFrees := 1,
        periodicReports := 1, peakLiveObjects := 1, finalTime := last }
    (scheduler.after (uses.take 2)).clock.now = 100 ∧ outcome.result = .ok report ∧
      (outcome.scheduler.clock.now.toNat = last.toNat ∧ report.finalTime.toNat = last.toNat) := by
  intro scheduler last uses used outcome report
  let first : Queue := ⟨[⟨100, 7, 8, .allocate⟩, ⟨200, 7, 8, .free⟩], by decide⟩
  have hfirst : first = (scheduler.after (uses.take 1)).queue :=
    Queue.eq_of_perm (by decide) (Queue.toList_schedule_perm .empty [⟨7, 8, 100, 200⟩]).symm
  have hfailed : scheduler.after (uses.take 2) = ({ scheduler with queue := first }.run
      (Script.allocator { faultReportAt := some 1 }) {} {}).scheduler := by
    rw [hfirst]
    rfl
  obtain ⟨hclock, hleft⟩ : (scheduler.after (uses.take 2)).clock.now = 100 ∧
      (scheduler.after (uses.take 2)).queue.toList = [⟨200, 7, 8, .free⟩] := by
    simp [hfailed, scheduler, first, Scheduler.run, Plan.walk, Plan.step, Clock.advance,
      Plan.dispatchAllocate, Plan.countSuccess, Plan.requestReport, Script.allocator,
      Script.refuses, LiveTable.insert, LiveTable.contains, Queue.ofEvents]
  have hqueue : used.queue.toList =
      [⟨0, 2, 8, .allocate⟩, ⟨200, 7, 8, .free⟩, ⟨last, 2, 8, .free⟩] := by
    have hperm := (scheduler.after (uses.take 2)).queue.toList_schedule_perm [⟨2, 8, 0, last⟩]
    rw [hleft] at hperm
    have hkeyed : Keyed [⟨0, 2, 8, .allocate⟩, ⟨200, 7, 8, .free⟩, ⟨last, 2, 8, .free⟩] := by decide
    exact (hkeyed.eq_of_perm (hperm.trans (by decide)).symm (by decide) used.queue.ordered).symm
  have hthreshold : used.threshold = ⟨1, by decide⟩ := rfl
  have hreport : outcome.result = .ok report := by
    simp [outcome, report, last, Scheduler.run, hqueue, hthreshold, Plan.walk, Plan.step,
      Clock.advance, Plan.dispatchAllocate, Plan.dispatchFree, Plan.countSuccess,
      Plan.requestReport, Plan.record, Script.allocator, Script.refuses, LiveTable.insert,
      LiveTable.contains, LiveTable.get?, LiveTable.erase, LiveTable.size, Progress.finalReport,
      Except.map, Std.HashMap.size_insert, Std.HashMap.size_erase]
  obtain ⟨_, _, _, _, _, hend⟩ := run_clock scheduler uses (Script.allocator {}) {} {}
  refine ⟨hclock, hreport, ?_⟩
  have hlatest := hend report hreport
  rw [hqueue] at hlatest
  exact hlatest

end HeapReplay.Replay
