import HeapReplay.Proofs.Heap.Alike
import HeapReplay.Proofs.Replay.LiveTable
import HeapReplay.Proofs.Replay.Step

namespace HeapReplay.Replay

open Heap

variable {State Other Handle : Type}

/-- Progress that differs in the allocator alone, where it is related, and in how its
    table was filled. -/
structure Progress.Alike (related : State → Other → Prop) (progress : Progress State Handle)
    (twin : Progress Other Handle) : Prop where
  allocator : related progress.allocator twin.allocator
  live : progress.live.Alike twin.live
  clock : progress.clock = twin.clock
  sinceReport : progress.sinceReport = twin.sinceReport
  history : progress.history = twin.history
  report : progress.report = twin.report

namespace Plan

/-- Plans for allocators that answer alike. -/
structure Alike (related : State → Other → Prop) (plan : Plan State Handle)
    (twin : Plan Other Handle) : Prop where
  allocator : plan.allocator.Alike twin.allocator related
  threshold : plan.threshold = twin.threshold
  historyLimit : plan.historyLimit = twin.historyLimit

variable {related : State → Other → Prop} {plan : Plan State Handle} {twin : Plan Other Handle}
  {before : Progress State Handle} {other : Progress Other Handle}

theorem requestReport_alike (hplan : Alike related plan twin)
    (hbefore : Progress.Alike related before other) (count : Report → Report) :
    (plan.requestReport count before).1 = (twin.requestReport count other).1 ∧
      Progress.Alike related (plan.requestReport count before).2
        (twin.requestReport count other).2 := by
  rcases hfirst : plan.allocator.report before.allocator with ⟨answer, state⟩
  obtain ⟨final, hsecond, hrelated⟩ := hplan.allocator.report hbefore.allocator hfirst
  cases answer with
  | error error =>
    simp only [requestReport, hfirst, hsecond]
    exact ⟨trivial, { hbefore with allocator := hrelated }⟩
  | ok _ =>
    simp only [requestReport, hfirst, hsecond]
    exact ⟨trivial, { hbefore with allocator := hrelated, report := by rw [hbefore.report] }⟩

theorem countSuccess_alike (hplan : Alike related plan twin)
    (hbefore : Progress.Alike related before other) :
    (plan.countSuccess before).1 = (twin.countSuccess other).1 ∧
      Progress.Alike related (plan.countSuccess before).2 (twin.countSuccess other).2 := by
  simp only [countSuccess, hplan.threshold, hbefore.report, hbefore.sinceReport]
  split
  · refine requestReport_alike hplan ?_ _
    exact { hbefore with sinceReport := rfl, report := rfl }
  · exact ⟨rfl, { hbefore with sinceReport := rfl, report := rfl }⟩

theorem dispatchAllocate_alike (hplan : Alike related plan twin)
    (hbefore : Progress.Alike related before other) (event : Event) :
    (plan.dispatchAllocate event before).1 = (twin.dispatchAllocate event other).1 ∧
      Progress.Alike related (plan.dispatchAllocate event before).2
        (twin.dispatchAllocate event other).2 := by
  rcases hfirst : plan.allocator.allocate event.id event.size before.allocator with ⟨answer, state⟩
  obtain ⟨final, hsecond, hrelated⟩ := hplan.allocator.allocate hbefore.allocator hfirst
  match answer with
  | .error error =>
    simp only [dispatchAllocate, hfirst, hsecond]
    exact ⟨trivial, { hbefore with allocator := hrelated }⟩
  | .ok none =>
    simp only [dispatchAllocate, hfirst, hsecond, hbefore.report]
    refine requestReport_alike hplan ?_ _
    exact { hbefore with allocator := hrelated, report := rfl }
  | .ok (some handle) =>
    obtain ⟨hinsert, hlive⟩ := hbefore.live.insert event.id handle
    simp only [dispatchAllocate, hfirst, hsecond]
    -- The tables answer alike, so only the matching pairs of answers are left.
    rcases hown : before.live.insert event.id handle with ⟨_ | _, live⟩ <;>
      rcases hother : other.live.insert event.id handle with ⟨_ | _, table⟩ <;>
        simp only [hown, hother, reduceCtorEq] at hinsert hlive ⊢
    · exact ⟨hinsert, { hbefore with allocator := hrelated, live := hlive }⟩
    · exact countSuccess_alike hplan { hbefore with allocator := hrelated, live := hlive }

theorem dispatchFree_alike (hplan : Alike related plan twin)
    (hbefore : Progress.Alike related before other) (event : Event) :
    (plan.dispatchFree event before).1 = (twin.dispatchFree event other).1 ∧
      Progress.Alike related (plan.dispatchFree event before).2
        (twin.dispatchFree event other).2 := by
  simp only [dispatchFree, hbefore.live.get?_eq]
  cases other.live.get? event.id with
  | none => exact ⟨rfl, { hbefore with report := by simp only [hbefore.report] }⟩
  | some handle =>
    have hlive := hbefore.live.erase event.id
    rcases hfirst : plan.allocator.free event.id event.size handle before.allocator with
      ⟨answer, state⟩
    obtain ⟨final, hsecond, hrelated⟩ := hplan.allocator.free hbefore.allocator hfirst
    simp only [hfirst, hsecond, hbefore.report]
    cases answer with
    | error error =>
      exact ⟨rfl, { hbefore with allocator := hrelated, live := hlive, report := rfl }⟩
    | ok _ => exact ⟨rfl, { hbefore with allocator := hrelated, live := hlive, report := rfl }⟩

theorem record_alike (hplan : Alike related plan twin)
    (hbefore : Progress.Alike related before other) (event : Event) :
    Progress.Alike related (plan.record event before) (twin.record event other) := by
  simp only [record, hbefore.history, hbefore.report, hplan.historyLimit]
  exact { hbefore with history := rfl, report := rfl }

theorem dispatch_alike (hplan : Alike related plan twin)
    (hbefore : Progress.Alike related before other) (event : Event) :
    (plan.dispatch event before).1 = (twin.dispatch event other).1 ∧
      Progress.Alike related (plan.dispatch event before).2 (twin.dispatch event other).2 := by
  rw [dispatch, dispatch]
  cases event.kind with
  | allocate => exact dispatchAllocate_alike hplan hbefore event
  | free => exact dispatchFree_alike hplan hbefore event

theorem step_alike (hplan : Alike related plan twin)
    (hbefore : Progress.Alike related before other) (event : Event) :
    (plan.step event before).1 = (twin.step event other).1 ∧
      Progress.Alike related (plan.step event before).2 (twin.step event other).2 := by
  by_cases hlate : event.time < before.clock.now
  · rw [step_late hlate, step_late (hbefore.clock ▸ hlate), hbefore.clock]
    exact ⟨rfl, hbefore⟩
  · have hclock := UInt64.not_lt.1 hlate
    have hmoved : Progress.Alike related { before with clock := ⟨event.time⟩ }
        { other with clock := ⟨event.time⟩ } := { hbefore with clock := rfl }
    obtain ⟨hanswer, hafter⟩ := dispatch_alike hplan hmoved event
    rcases hfirst : plan.dispatch event { before with clock := ⟨event.time⟩ } with
      ⟨error | _, after⟩
    · rw [hfirst] at hanswer hafter
      rw [step_error hclock hfirst,
        step_error (hbefore.clock ▸ hclock) (Prod.ext hanswer.symm rfl)]
      exact ⟨rfl, hafter⟩
    · rw [hfirst] at hanswer hafter
      rw [step_ok hclock hfirst, step_ok (hbefore.clock ▸ hclock) (Prod.ext hanswer.symm rfl)]
      exact ⟨rfl, record_alike hplan hafter event⟩

/-- Walks with allocators that answer alike stay together to the end. -/
theorem walk_alike (hplan : Alike related plan twin)
    (hbefore : Progress.Alike related before other) (events : List Event) :
    (plan.walk before events).1 = (twin.walk other events).1 ∧
      Progress.Alike related (plan.walk before events).2.1 (twin.walk other events).2.1 ∧
      (plan.walk before events).2.2 = (twin.walk other events).2.2 := by
  induction events generalizing before other with
  | nil => exact ⟨rfl, hbefore, rfl⟩
  | cons event events ih =>
    obtain ⟨hanswer, hafter⟩ := step_alike hplan hbefore event
    rcases hfirst : plan.step event before with ⟨_ | _, after⟩ <;>
      rcases hsecond : twin.step event other with ⟨_ | _, final⟩ <;>
        simp only [walk, hfirst, hsecond, reduceCtorEq] at hanswer hafter ⊢
    · exact ⟨hanswer, hafter, trivial⟩
    · exact ih hafter

end Plan

namespace Scheduler

variable {first : Allocator State Handle} {second : Allocator Other Handle}
  {related : State → Other → Prop}

/-- Runs with allocators that answer alike, on tables with the same handles, differ in the
    allocator alone and in how their tables were filled. -/
theorem run_alike_of_alike (halike : first.Alike second related) {state : State} {other : Other}
    (hrelated : related state other) (scheduler : Scheduler) {live table : LiveTable Handle}
    (htables : live.Alike table) :
    (scheduler.run first state live).result = (scheduler.run second other table).result ∧
      (scheduler.run first state live).scheduler = (scheduler.run second other table).scheduler ∧
      related (scheduler.run first state live).allocator
        (scheduler.run second other table).allocator ∧
      (scheduler.run first state live).live.Alike (scheduler.run second other table).live := by
  have hplan : Plan.Alike related (scheduler.plan first) (scheduler.plan second) :=
    ⟨halike, rfl, rfl⟩
  have hstart : Progress.Alike related { allocator := state, live }
      { allocator := other, live := table } :=
    ⟨hrelated, htables, rfl, rfl, rfl, rfl⟩
  obtain ⟨hresult, hfinal, hrest⟩ := Plan.walk_alike hplan hstart scheduler.queue.toList
  simp only [plan] at hresult hfinal hrest
  simp only [run, Progress.finalReport, hresult, hrest, hfinal.live.peak_eq, hfinal.live.size_eq,
    hfinal.clock, hfinal.report, hfinal.sinceReport, hfinal.history]
  exact ⟨trivial, trivial, hfinal.allocator, hfinal.live⟩

/-- Runs with allocators that answer alike differ in the allocator alone. -/
theorem run_alike (halike : first.Alike second related) (state : State) (other : Other)
    (hrelated : related state other) (scheduler : Scheduler) (live : LiveTable Handle) :
    (scheduler.run first state live).result = (scheduler.run second other live).result ∧
      (scheduler.run first state live).scheduler = (scheduler.run second other live).scheduler ∧
      related (scheduler.run first state live).allocator
        (scheduler.run second other live).allocator ∧
      (scheduler.run first state live).live.Alike (scheduler.run second other live).live :=
  run_alike_of_alike halike hrelated scheduler (.refl live)

end Scheduler

/-- A replay is the same when the calls are logged. -/
theorem replay_logged (requests : List Request) (allocator : Allocator State Handle) (state : State)
    (threshold : PosWord) (historyLimit : Nat) :
    let outcome := replay requests allocator state threshold historyLimit
    let logged := replay requests allocator.logged { state } threshold historyLimit
    logged.result = outcome.result ∧ logged.allocator.state = outcome.allocator := by
  obtain ⟨hresult, _, hstate, _⟩ := Scheduler.run_alike allocator.alike_logged state { state } rfl
    (({ threshold, historyLimit } : Scheduler).schedule requests) {}
  exact ⟨hresult.symm, hstate⟩

end HeapReplay.Replay
