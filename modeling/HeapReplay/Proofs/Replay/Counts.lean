import HeapReplay.Proofs.Replay.LiveTable
import HeapReplay.Proofs.Replay.Step

namespace HeapReplay.Replay

open Heap

variable {State Handle : Type}

/-- How the counts of a run stand to the events still to come and to the table. -/
structure Counted (live : LiveTable Handle) (allocations frees : Nat) (events : List Event)
    (progress : Progress State Handle) : Prop where
  allocations_eq : progress.report.allocationsSucceeded + progress.report.allocationsFailed +
    events.countP (·.kind = .allocate) = allocations
  frees_eq : progress.report.freesDispatched + progress.report.untrackedFrees +
    events.countP (·.kind = .free) = frees
  live_eq : progress.live.size + progress.report.freesDispatched =
    live.size + progress.report.allocationsSucceeded

variable {plan : Plan State Handle} {event : Event} {events : List Event}
  {before after : Progress State Handle}

theorem counted_start (state : State) (live : LiveTable Handle) (events : List Event) :
    Counted live (events.countP (·.kind = .allocate)) (events.countP (·.kind = .free)) events
      { allocator := state, live } := by
  constructor <;> simp

/-- Each event is counted once, as what it came to. -/
theorem counted_dispatch {live : LiveTable Handle} {allocations frees : Nat}
    (hcounted : Counted live allocations frees (event :: events) before)
    (hdispatch : plan.Dispatch event before (.ok ()) after) :
    Counted live allocations frees events after := by
  obtain ⟨hallocations, hfrees, hlive⟩ := hcounted
  cases hdispatch with
  | refused hkind hallocate hreport =>
    simp [hkind] at hallocations hfrees
    refine ⟨?_, hfrees, hlive⟩
    simp only
    omega
  | granted hkind hallocate hfresh hquiet =>
    simp [hkind] at hallocations hfrees
    refine ⟨?_, hfrees, ?_⟩
    · simp only
      omega
    · simp only [LiveTable.size_insert hfresh]
      omega
  | grantedReport hkind hallocate hfresh hdue hreport =>
    simp [hkind] at hallocations hfrees
    refine ⟨?_, hfrees, ?_⟩
    · simp only
      omega
    · simp only [LiveTable.size_insert hfresh]
      omega
  | untracked hkind hnone =>
    simp [hkind] at hallocations hfrees
    refine ⟨hallocations, ?_, hlive⟩
    simp only
    omega
  | freed hkind hsome hfree =>
    have hsize := LiveTable.size_erase hsome
    simp [hkind] at hallocations hfrees
    refine ⟨hallocations, ?_, ?_⟩ <;> simp only <;> omega

end HeapReplay.Replay
