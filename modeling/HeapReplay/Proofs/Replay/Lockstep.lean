import HeapReplay.Heap.Tally
import HeapReplay.Proofs.Replay.LiveTable
import HeapReplay.Proofs.Replay.Walk

namespace HeapReplay.Replay

open Heap

variable {State Handle Token : Type}

namespace LiveTable

/-- Tables in which the same requests are live, whatever their handles. -/
structure InStep (table : LiveTable Handle) (twin : LiveTable Token) : Prop where
  contains_eq : ∀ id, table.contains id = twin.contains id
  size_eq : table.size = twin.size
  peak_eq : table.peak = twin.peak

namespace InStep

variable {table : LiveTable Handle} {twin : LiveTable Token} {id : RequestId}

theorem empty : InStep ({} : LiveTable Handle) ({} : LiveTable Token) := by
  refine ⟨?_, rfl, rfl⟩
  intro id
  rw [contains_eq_isSome, contains_eq_isSome, get?_empty, get?_empty]
  rfl

theorem insert (hstep : InStep table twin) (habsent : table.contains id = false) (handle : Handle)
    (token : Token) : InStep (table.insert id handle).2 (twin.insert id token).2 := by
  have hother : twin.contains id = false := (hstep.contains_eq id).symm.trans habsent
  constructor
  · intro asked
    by_cases hasked : asked = id
    · rw [hasked, contains_eq_isSome, contains_eq_isSome, get?_insert_self habsent,
        get?_insert_self hother]
      rfl
    · rw [contains_eq_isSome, contains_eq_isSome, get?_insert_of_ne habsent hasked,
        get?_insert_of_ne hother hasked, ← contains_eq_isSome, ← contains_eq_isSome,
        hstep.contains_eq]
  · rw [size_insert habsent, size_insert hother, hstep.size_eq]
  · rw [peak_insert habsent, peak_insert hother, hstep.peak_eq, hstep.size_eq]

theorem get?_eq_none (hstep : InStep table twin) (hnone : table.get? id = none) :
    twin.get? id = none := by
  rwa [← contains_eq_false_iff, ← hstep.contains_eq, contains_eq_false_iff]

theorem get?_eq_some (hstep : InStep table twin) {handle : Handle}
    (hlive : table.get? id = some handle) : ∃ token, twin.get? id = some token := by
  rw [← Option.isSome_iff_exists, ← contains_eq_isSome, ← hstep.contains_eq, contains_eq_isSome,
    hlive, Option.isSome_some]

theorem erase (hstep : InStep table twin) {handle : Handle} (hlive : table.get? id = some handle) :
    InStep (table.erase id) (twin.erase id) := by
  obtain ⟨token, htoken⟩ := hstep.get?_eq_some hlive
  constructor
  · intro asked
    by_cases hasked : asked = id
    · rw [hasked, contains_eq_isSome, contains_eq_isSome, get?_erase_self, get?_erase_self]
      rfl
    · rw [contains_eq_isSome, contains_eq_isSome, get?_erase_of_ne hasked,
        get?_erase_of_ne hasked, ← contains_eq_isSome, ← contains_eq_isSome, hstep.contains_eq]
  · have hsize := size_erase hlive
    have hother := size_erase htoken
    have hsame := hstep.size_eq
    omega
  · exact hstep.peak_eq

end InStep
end LiveTable

/-- Progress that shows the same to the one who reads the report, up to the handles. -/
structure Progress.InStep (progress : Progress State Handle) (twin : Progress Tally Unit) :
    Prop where
  live : progress.live.InStep twin.live
  clock : progress.clock = twin.clock
  sinceReport : progress.sinceReport = twin.sinceReport
  report : progress.report = twin.report

namespace Plan

variable {plan : Plan State Handle} {event : Event} {events rest : List Event}
  {before after final : Progress State Handle} {other : Progress Tally Unit}

/-- The plan that asks the allocator without memory instead. -/
def onTally (plan : Plan State Handle) : Plan Tally Unit where
  allocator := Tally.allocator
  threshold := plan.threshold
  historyLimit := plan.historyLimit

theorem failed_le_of_dispatch (hdispatch : plan.Dispatch event before (.ok ()) after) :
    before.report.allocationsFailed ≤ after.report.allocationsFailed := by
  cases hdispatch with
  | refused => exact Nat.le_succ _
  | granted => exact Nat.le_refl _
  | grantedReport => exact Nat.le_refl _
  | untracked => exact Nat.le_refl _
  | freed => exact Nat.le_refl _

/-- A refusal stays counted to the end. -/
theorem failed_le_of_walk_ok (hwalk : plan.walk before events = (.ok (), final, rest)) :
    before.report.allocationsFailed ≤ final.report.allocationsFailed := by
  refine walk_invariant
    (fun progress => before.report.allocationsFailed ≤ progress.report.allocationsFailed) ?_
    (Nat.le_refl _) hwalk
  intro event progress after hle hdispatch
  have hhere := failed_le_of_dispatch hdispatch
  exact Nat.le_trans hle hhere

/-- A dispatch that is not refused goes the same way when every request is granted. -/
theorem dispatch_inStep (hstep : before.InStep other)
    (hdispatch : plan.Dispatch event before (.ok ()) after)
    (hfailed : after.report.allocationsFailed = before.report.allocationsFailed) :
    ∃ next, plan.onTally.dispatch event other = (.ok (), next) ∧ after.InStep next := by
  obtain ⟨hlive, hclock, hsince, hreport⟩ := hstep
  cases hdispatch with
  | refused => exact absurd hfailed (Nat.succ_ne_self _)
  | @granted handle state hkind _ habsent hquiet =>
    have hother := (hlive.contains_eq event.id).symm.trans habsent
    rw [hsince] at hquiet
    refine ⟨{ other with
        allocator := { other.allocator with allocations := other.allocator.allocations + 1 }
        live := (other.live.insert event.id ()).2
        sinceReport := other.sinceReport + 1
        report := { other.report with
          allocationsSucceeded := other.report.allocationsSucceeded + 1 } }, ?_, ?_⟩
    · simp [dispatch, hkind, dispatchAllocate, onTally, Tally.allocator, countSuccess,
        LiveTable.insert_of_absent hother, hquiet]
    · exact ⟨hlive.insert habsent handle (), hclock, by rw [hsince], by rw [hreport]⟩
  | @grantedReport handle state final hkind _ habsent hdue _ =>
    have hother := (hlive.contains_eq event.id).symm.trans habsent
    rw [hsince] at hdue
    refine ⟨{ other with
        allocator := { other.allocator with
          allocations := other.allocator.allocations + 1
          reports := other.allocator.reports + 1 }
        live := (other.live.insert event.id ()).2
        sinceReport := 0
        report := { other.report with
          allocationsSucceeded := other.report.allocationsSucceeded + 1
          periodicReports := other.report.periodicReports + 1 } }, ?_, ?_⟩
    · simp [dispatch, hkind, dispatchAllocate, onTally, Tally.allocator, countSuccess,
        requestReport, LiveTable.insert_of_absent hother, hdue]
    · exact ⟨hlive.insert habsent handle (), hclock, rfl, by rw [hreport]⟩
  | untracked hkind hnone =>
    refine ⟨{ other with
        report := { other.report with untrackedFrees := other.report.untrackedFrees + 1 } }, ?_, ?_⟩
    · simp [dispatch, hkind, dispatchFree, hlive.get?_eq_none hnone]
    · exact ⟨hlive, hclock, hsince, by rw [hreport]⟩
  | freed hkind hsome hfree =>
    obtain ⟨token, htoken⟩ := hlive.get?_eq_some hsome
    refine ⟨{ other with
        allocator := { other.allocator with frees := other.allocator.frees + 1 }
        live := other.live.erase event.id
        report := { other.report with freesDispatched := other.report.freesDispatched + 1 } },
      ?_, ?_⟩
    · simp [dispatch, hkind, dispatchFree, onTally, Tally.allocator, htoken]
    · exact ⟨hlive.erase hsome, hclock, hsince, by rw [hreport]⟩

/-- A walk without a refusal goes the same way when every request is granted. -/
theorem walk_inStep (hstep : before.InStep other)
    (hwalk : plan.walk before events = (.ok (), final, rest))
    (hfailed : final.report.allocationsFailed = before.report.allocationsFailed) :
    ∃ last, plan.onTally.walk other events = (.ok (), last, []) ∧ final.InStep last := by
  induction events generalizing before other with
  | nil =>
    cases hwalk
    exact ⟨other, rfl, hstep⟩
  | cons event events ih =>
    rcases hfirst : plan.step event before with ⟨_ | _, next⟩
    · simp only [walk, hfirst] at hwalk
      cases hwalk
    · simp only [walk, hfirst] at hwalk
      obtain ⟨hclock, dispatched, hdispatch, rfl⟩ := dispatch_of_step_ok hfirst
      -- Refusals only add up, so there is none in this step and none behind it.
      have hhere := failed_le_of_dispatch hdispatch
      have hlater := failed_le_of_walk_ok hwalk
      have hmoved : Progress.InStep { before with clock := ⟨event.time⟩ }
          { other with clock := ⟨event.time⟩ } := { hstep with clock := rfl }
      simp only [record] at hhere hlater
      obtain ⟨next, hdispatched, hnext⟩ := dispatch_inStep hmoved hdispatch (by simp only; omega)
      have hrecorded : Progress.InStep (plan.record event dispatched)
          (plan.onTally.record event next) :=
        { hnext with report := by simp only [record, hnext.report] }
      obtain ⟨last, hlast, hfinal⟩ := ih hrecorded hwalk (by simp only [record]; omega)
      refine ⟨last, ?_, hfinal⟩
      rw [walk, step_ok (hstep.clock ▸ hclock) hdispatched]
      exact hlast

end Plan

/-- A run in which no request is refused has the same report on the allocator without
    memory. -/
theorem Scheduler.run_tally {scheduler : Scheduler} {allocator : Allocator State Handle}
    {state : State} {live : LiveTable Handle} {report : Report}
    (hresult : (scheduler.run allocator state live).result = .ok report)
    (hfailed : report.allocationsFailed = 0) {table : LiveTable Unit} (htables : live.InStep table)
    (tally : Tally) : (scheduler.run Tally.allocator tally table).result = .ok report := by
  obtain ⟨final, rfl, hwalk⟩ := walk_of_run_ok hresult
  have hstart : Progress.InStep { allocator := state, live }
      { allocator := tally, live := table } := ⟨htables, rfl, rfl, rfl⟩
  obtain ⟨last, hlast, hlive, hclock, _, hreport⟩ := Plan.walk_inStep hstart hwalk hfailed
  rw [run_of_walk hlast]
  simp only [Except.map, Progress.finalReport, hreport, hclock, hlive.size_eq, hlive.peak_eq]

end HeapReplay.Replay
