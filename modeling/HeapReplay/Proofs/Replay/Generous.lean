import HeapReplay.Proofs.Replay.Account
import HeapReplay.Proofs.Replay.Peak

namespace HeapReplay.Replay

open Heap

variable {State Handle : Type}

/-- An allocator that grants every request. -/
structure Generous (allocator : Allocator State Handle) : Prop where
  faultless : Faultless allocator
  never_refuses : ∀ id size state, (allocator.allocate id size state).1 ≠ .ok none

section Dispatch

variable {allocator : Allocator State Handle} {start : State}
  {plan : Plan (Logged State Handle) Handle} {before after : Progress (Logged State Handle) Handle}
  {log more : List (Exchange Handle)} {done : List Event} {event : Event}

/-- What a walk keeps when nothing is refused: each allocation so far was granted. -/
structure Granting (allocator : Allocator State Handle) (start : State) (done : List Event)
    (progress : Progress (Logged State Handle) Handle) : Prop where
  none_failed : progress.report.allocationsFailed = 0
  all_granted : ∃ log, Logged.Heard allocator start progress.allocator log ∧
    ∀ event ∈ done, event.kind = .allocate → log.any (Exchange.grants event.id)

theorem all_granted_concat
    (hdone : ∀ event ∈ done, event.kind = .allocate → log.any (Exchange.grants event.id))
    (hevent : event.kind = .allocate → more.any (Exchange.grants event.id)) :
    ∀ other ∈ done ++ [event], other.kind = .allocate →
      (log ++ more).any (Exchange.grants other.id) := by
  intro other hmem hkind
  rw [List.any_append, Bool.or_eq_true]
  rcases List.mem_append.1 hmem with hearlier | hlast
  · exact .inl (hdone other hearlier hkind)
  · obtain rfl := List.mem_singleton.1 hlast
    exact .inr (hevent hkind)

theorem Granting.dispatch (hgenerous : Generous allocator)
    (hplan : plan.allocator = allocator.logged) (hgranting : Granting allocator start done before)
    (hdispatch : plan.Dispatch event before (.ok ()) after) :
    Granting allocator start (done ++ [event]) after := by
  obtain ⟨hnone, log, hheard, hdone⟩ := hgranting
  cases hdispatch with
  | refused hkind hallocate hreport =>
    rw [hplan] at hallocate
    have hanswer := congrArg Prod.fst (Logged.serve_allocate hallocate)
    exact absurd hanswer (hgenerous.never_refuses _ _ _)
  | granted hkind hallocate hlive hquiet =>
    rw [hplan] at hallocate
    refine ⟨hnone, _, hheard.allocate hallocate, all_granted_concat hdone ?_⟩
    simp [Exchange.grants]
  | grantedReport hkind hallocate hlive hdue hreport =>
    rw [hplan] at hallocate hreport
    refine ⟨hnone, _, hheard.allocate_report hallocate hreport, all_granted_concat hdone ?_⟩
    simp [Exchange.grants]
  | untracked hkind hlive =>
    rw [← List.append_nil log] at hheard
    refine ⟨hnone, _, hheard, all_granted_concat hdone ?_⟩
    simp [hkind]
  | freed hkind hlive hfree =>
    rw [hplan] at hfree
    refine ⟨hnone, _, hheard.free hfree, all_granted_concat hdone ?_⟩
    simp [hkind]

theorem granting_of_walk_ok (hgenerous : Generous allocator) {threshold : PosWord}
    {historyLimit : Nat} {events rest : List Event}
    {final : Progress (Logged State Handle) Handle}
    (hwalk : Plan.walk { allocator := allocator.logged, threshold, historyLimit }
      { allocator := { state := start }, live := {} } events = (.ok (), final, rest)) :
    Granting allocator start events final := by
  rw [← List.nil_append events]
  refine Plan.walk_induction (Granting allocator start) ?_ ⟨rfl, [], .refl, by simp⟩ hwalk
  intro done event before after hgranting hdispatch
  have hmoved : Granting allocator start done { before with clock := ⟨event.time⟩ } :=
    { hgranting with }
  have hkept := hmoved.dispatch hgenerous rfl hdispatch
  exact { hkept with }

/-- Once all events are done, all requests are granted. -/
theorem Granting.granted_eq {requests : List Request}
    (hgranting : Granting allocator start (Queue.empty.schedule requests).toList after) :
    granted requests (allocator.transcript start after.allocator.calls.toList) =
      requests.toFinset := by
  obtain ⟨_, log, hheard, hall⟩ := hgranting
  rw [← hheard.exchanges_eq]
  ext request
  rw [mem_granted, List.mem_toFinset, and_iff_left_iff_imp]
  intro hmem
  exact hall request.allocation (mem_schedule.2 ⟨request, hmem, .inl rfl⟩) rfl

end Dispatch

section Replay

variable {allocator : Allocator State Handle} {requests : List Request} {state : State}
  {threshold : PosWord} {historyLimit : Nat} {report : Report}

/-- What the report of a replay says when all requests are granted. -/
structure Complete (requests : List Request) (threshold : PosWord) (report : Report) : Prop where
  account : Account requests.length report
  succeeded_eq : report.allocationsSucceeded = requests.length
  frees_eq : report.freesDispatched = requests.length
  periodic_eq : report.periodicReports = requests.length / threshold.val.toNat
  failures_eq : report.failureReports = 0
  peak_eq : report.peakLiveObjects = mostLive requests.toFinset

/-- A replay in which all requests are granted. -/
theorem Generous.replay_ok (hgenerous : Generous allocator) (hids : (requests.map Request.id).Nodup)
    (htimes : ∀ request ∈ requests, request.birth ≤ request.death) (state : State)
    (threshold : PosWord) (historyLimit : Nat) :
    ∃ report, (replay requests allocator state threshold historyLimit).result = .ok report ∧
      Complete requests threshold report := by
  obtain ⟨report, hresult⟩ :=
    hgenerous.faultless.replay_ok hids htimes state threshold historyLimit
  have hlogged := (replay_logged requests allocator state threshold historyLimit).1.trans hresult
  have haccount := account_of_replay_ok hids htimes hresult
  have hpeak := peak_of_replay_ok hids htimes hlogged
  refine ⟨report, hresult, ?_⟩
  obtain ⟨final, rfl, hwalk⟩ := Scheduler.walk_of_run_ok hlogged
  obtain ⟨hcounted, hpaced, htallied⟩ := counts_of_walk_ok hwalk
  have hgranting := granting_of_walk_ok hgenerous hwalk
  have hnone := hgranting.none_failed
  have hsucceeded : final.report.allocationsSucceeded = requests.length := by
    have hcount := haccount.allocations_eq
    simp only [Progress.finalReport] at hcount
    omega
  refine ⟨haccount, hsucceeded, ?_, ?_, htallied.failures_eq.trans hnone, ?_⟩
  · have hlive := hcounted.live_eq
    have hremaining := haccount.remaining_eq
    have hzero : ({} : LiveTable Handle).size = 0 := rfl
    simp only [Progress.finalReport] at hremaining ⊢
    omega
  · have hperiodic := hpaced.periodic_eq
    rwa [hsucceeded] at hperiodic
  · rw [hpeak, replay, Scheduler.run_of_walk hwalk, hgranting.granted_eq]

end Replay

end HeapReplay.Replay
