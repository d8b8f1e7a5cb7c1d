import HeapReplay.Proofs.Replay.Crowd
import HeapReplay.Proofs.Replay.Faultless
import Mathlib.Data.Finset.Card
import Mathlib.Data.Finset.Lattice.Fold
import Mathlib.Order.Lattice.Nat

namespace HeapReplay.Replay

open Heap

variable {State Handle : Type}

/-- A table is as large as the set of the requests in it. -/
theorem LiveTable.size_eq_card {table : LiveTable Handle} {ids : Finset RequestId}
    (hids : ∀ id, table.contains id ↔ id ∈ ids) : table.size = ids.card := by
  have hkeys : table.entries.keys.toFinset = ids := by
    ext id
    rw [List.mem_toFinset, Std.HashMap.mem_keys, ← hids, contains, Std.HashMap.contains_iff_mem]
  rw [← hkeys, List.toFinset_card_of_nodup Std.HashMap.nodup_keys, Std.HashMap.length_keys, size]

section Moment

variable {requests : List Request} {request newest : Request} {done events rest : List Event}
  {log : List (Exchange Handle)} {live : LiveTable Handle}

/-- A granted request has been allocated. -/
theorem allocation_not_mem_of_granted
    (hphases : ∀ id, Phase id (eventsOf id events) (exchangesOf id log) (live.get? id))
    (hgranted : request ∈ granted requests log) : request.allocation ∉ events := by
  intro hmem
  have hgrants := (mem_granted.1 hgranted).2
  rw [← any_grants_exchangesOf] at hgrants
  have hown : request.allocation ∈ eventsOf request.id events :=
    List.mem_filter.2 ⟨hmem, decide_eq_true rfl⟩
  cases (hphases request.id).kind_of_grants hgrants _ hown

/-- Once a request has been allocated, the live requests are those of the crowd around it. -/
theorem contains_iff_mem_crowd (hids : (requests.map Request.id).Nodup)
    (hsplit : done ++ newest.allocation :: rest = (Queue.empty.schedule requests).toList)
    (hphases : ∀ id, Phase id (eventsOf id rest) (exchangesOf id log) (live.get? id))
    (hmem : request ∈ requests) :
    live.contains request.id ↔ request ∈ crowd (granted requests log) newest := by
  have hallocation : request.allocation ∈ (Queue.empty.schedule requests).toList :=
    mem_schedule.2 ⟨request, hmem, .inl rfl⟩
  have hrelease : request.release ∈ (Queue.empty.schedule requests).toList :=
    mem_schedule.2 ⟨request, hmem, .inr rfl⟩
  have hrest : ∀ event ∈ rest, event ∈ (Queue.empty.schedule requests).toList := by
    intro event hevent
    rw [← hsplit]
    exact List.mem_append_right _ (List.mem_cons_of_mem _ hevent)
  have hlater : (∃ event ∈ eventsOf request.id rest, event.kind = .free) ↔
      newest.allocation.key < request.release.key := by
    rw [← mem_rest_iff hids hsplit hrelease]
    constructor
    · rintro ⟨event, hevent, hkind⟩
      obtain ⟨hbehind, hid⟩ := List.mem_filter.1 hevent
      rwa [← eq_release_of_free hids hmem (hrest event hbehind) (of_decide_eq_true hid) hkind]
    · intro hbehind
      exact ⟨request.release, List.mem_filter.2 ⟨hbehind, decide_eq_true rfl⟩, rfl⟩
  rw [LiveTable.contains_eq_isSome, (hphases request.id).isSome_iff, any_grants_exchangesOf, hlater,
    crowd, Finset.mem_filter, mem_granted]
  constructor
  · rintro ⟨hgrants, hfree⟩
    refine ⟨⟨hmem, hgrants⟩, ?_, hfree⟩
    have hnot := allocation_not_mem_of_granted hphases (mem_granted.2 ⟨hmem, hgrants⟩)
    rwa [mem_rest_iff hids hsplit hallocation, not_lt] at hnot
  · rintro ⟨⟨-, hgrants⟩, -, hfree⟩
    exact ⟨hgrants, hfree⟩

/-- Once a request has been allocated, the table is as large as the crowd around it. -/
theorem size_eq_card_crowd (hids : (requests.map Request.id).Nodup)
    (hsplit : done ++ newest.allocation :: rest = (Queue.empty.schedule requests).toList)
    (hphases : ∀ id, Phase id (eventsOf id rest) (exchangesOf id log) (live.get? id)) :
    live.size = (crowd (granted requests log) newest).card := by
  have hcrowd : ∀ request ∈ crowd (granted requests log) newest, request ∈ requests := by
    intro request hrequest
    exact (mem_granted.1 (Finset.mem_filter.1 hrequest).1).1
  have hinj : Set.InjOn Request.id (crowd (granted requests log) newest) := by
    intro a ha b hb hid
    exact List.inj_on_of_nodup_map hids (hcrowd a ha) (hcrowd b hb) hid
  rw [← Finset.card_image_of_injOn hinj]
  refine LiveTable.size_eq_card ?_
  intro id
  rw [Finset.mem_image]
  constructor
  · intro hlive
    have hsome := hlive
    rw [LiveTable.contains_eq_isSome, (hphases id).isSome_iff] at hsome
    -- A live request has its free to come, so that it is one of those scheduled.
    obtain ⟨-, event, hevent, -⟩ := hsome
    obtain ⟨hbehind, hid⟩ := List.mem_filter.1 hevent
    have hscheduled : event ∈ (Queue.empty.schedule requests).toList := by
      rw [← hsplit]
      exact List.mem_append_right _ (List.mem_cons_of_mem _ hbehind)
    obtain ⟨request, hrequest, hown⟩ := mem_schedule.1 hscheduled
    obtain rfl : request.id = id := by
      rw [← of_decide_eq_true hid]
      rcases hown with rfl | rfl <;> rfl
    exact ⟨request, (contains_iff_mem_crowd hids hsplit hphases hrequest).1 hlive, rfl⟩
  · rintro ⟨request, hrequest, rfl⟩
    exact (contains_iff_mem_crowd hids hsplit hphases (hcrowd request hrequest)).2 hrequest

end Moment

section Walk

variable {requests : List Request} {event : Event} {events : List Event}
  {allocator : Allocator State Handle} {start : State}
  {plan : Plan (Logged State Handle) Handle} {before after : Progress (Logged State Handle) Handle}

/-- What a walk keeps: each request stands where its events left say, and the peak is that of the
    requests granted so far. -/
def Peaked (allocator : Allocator State Handle) (start : State) (requests : List Request)
    (events : List Event) (progress : Progress (Logged State Handle) Handle) : Prop :=
  ∃ log, Logged.Heard allocator start progress.allocator log ∧
    (∀ id, Phase id (eventsOf id events) (exchangesOf id log) (progress.live.get? id)) ∧
    events <:+ (Queue.empty.schedule requests).toList ∧
    progress.live.peak = mostLive (granted requests log)

/-- With a further grant, the peak is that of all requests granted. -/
theorem peak_insert_eq_mostLive {newest : Request} {done : List Event}
    {log more : List (Exchange Handle)} {live : LiveTable Handle} {handle : Handle}
    (hids : (requests.map Request.id).Nodup) (hnewest : newest ∈ requests)
    (hsplit : done ++ newest.allocation :: events = (Queue.empty.schedule requests).toList)
    (hphases : ∀ id, Phase id (eventsOf id (newest.allocation :: events)) (exchangesOf id log)
      (live.get? id))
    (hafter : ∀ id, Phase id (eventsOf id events) (exchangesOf id (log ++ more))
      ((live.insert newest.id handle).2.get? id))
    (hlive : live.contains newest.id = false)
    (hmore : ∀ id, more.any (Exchange.grants id) = decide (newest.id = id))
    (hpeak : live.peak = mostLive (granted requests log)) :
    (live.insert newest.id handle).2.peak = mostLive (granted requests (log ++ more)) := by
  have hgranted := granted_append_of_grant log hids hnewest hmore
  have hsize := size_eq_card_crowd hids hsplit hafter
  rw [LiveTable.size_insert hlive, hgranted] at hsize
  rw [LiveTable.peak_insert hlive, hpeak, hsize, hgranted, mostLive_insert]
  intro request hrequest
  have hscheduled : request.allocation ∈ (Queue.empty.schedule requests).toList :=
    mem_schedule.2 ⟨request, (mem_granted.1 hrequest).1, .inl rfl⟩
  exact lt_of_not_mem_behind hids hsplit hscheduled (allocation_not_mem_of_granted hphases hrequest)

theorem exists_request_of_allocation (hmem : event ∈ (Queue.empty.schedule requests).toList)
    (hkind : event.kind = .allocate) : ∃ request ∈ requests, event = request.allocation := by
  obtain ⟨request, hrequest, rfl | rfl⟩ := mem_schedule.1 hmem
  · exact ⟨request, hrequest, rfl⟩
  · cases hkind

theorem peaked_dispatch (hids : (requests.map Request.id).Nodup)
    (hplan : plan.allocator = allocator.logged)
    (hpeaked : Peaked allocator start requests (event :: events) before)
    (hdispatch : plan.Dispatch event before (.ok ()) after) :
    Peaked allocator start requests events after := by
  obtain ⟨log, hheard, hphases, ⟨done, hsplit⟩, hpeak⟩ := hpeaked
  obtain ⟨later, hlater, hafter⟩ := standing_dispatch hplan ⟨log, hheard, hphases⟩ hdispatch
  have hevent : event ∈ (Queue.empty.schedule requests).toList := by
    rw [← hsplit]
    exact List.mem_append_right _ List.mem_cons_self
  refine ⟨later, hlater, hafter, ⟨done ++ [event], (List.append_cons ..).symm.trans hsplit⟩, ?_⟩
  -- What is heard later is the log with the exchanges of this case, since a log is heard only once.
  cases hdispatch with
  | refused hkind hallocate hreport =>
    rw [hplan] at hallocate hreport
    obtain rfl := hlater.unique (hheard.allocate_report hallocate hreport)
    rw [granted_append_of_none (by simp [Exchange.grants])]
    exact hpeak
  | granted hkind hallocate hlive hquiet =>
    rw [hplan] at hallocate
    obtain rfl := hlater.unique (hheard.allocate hallocate)
    obtain ⟨newest, hnewest, rfl⟩ := exists_request_of_allocation hevent hkind
    exact peak_insert_eq_mostLive hids hnewest hsplit hphases hafter hlive
      (by simp [Exchange.grants, Request.allocation]) hpeak
  | grantedReport hkind hallocate hlive hdue hreport =>
    rw [hplan] at hallocate hreport
    obtain rfl := hlater.unique (hheard.allocate_report hallocate hreport)
    obtain ⟨newest, hnewest, rfl⟩ := exists_request_of_allocation hevent hkind
    exact peak_insert_eq_mostLive hids hnewest hsplit hphases hafter hlive
      (by simp [Exchange.grants, Request.allocation]) hpeak
  | untracked hkind hlive =>
    obtain rfl := hlater.unique hheard
    exact hpeak
  | @freed handle state hkind hlive hfree =>
    rw [hplan] at hfree
    obtain rfl := hlater.unique (hheard.free hfree)
    rw [granted_append_of_none (by simp [Exchange.grants])]
    exact hpeak

end Walk

section Replay

variable {requests : List Request} {allocator : Allocator State Handle} {state : State}
  {threshold : PosWord} {historyLimit : Nat} {report : Report}

theorem peaked_start (hids : (requests.map Request.id).Nodup)
    (htimes : ∀ request ∈ requests, request.birth ≤ request.death) :
    Peaked allocator state requests (Queue.empty.schedule requests).toList
      { allocator := { state }, live := {} } := by
  obtain ⟨log, hheard, hphases⟩ := standing_start hids htimes allocator state
  refine ⟨log, hheard, hphases, List.suffix_refl _, ?_⟩
  obtain rfl := hheard.unique .refl
  have hnone : granted requests ([] : List (Exchange Handle)) = ∅ := by simp [granted]
  rw [hnone]
  rfl

/-- The peak of a replay is that of the requests granted in it. -/
theorem peak_of_replay_ok (hids : (requests.map Request.id).Nodup)
    (htimes : ∀ request ∈ requests, request.birth ≤ request.death)
    (hresult : (replay requests allocator.logged { state } threshold historyLimit).result =
      .ok report) :
    let logged := replay requests allocator.logged { state } threshold historyLimit
    report.peakLiveObjects =
      mostLive (granted requests (allocator.transcript state logged.allocator.calls.toList)) := by
  intro logged
  have hrun := Scheduler.run_cases (({ threshold, historyLimit } : Scheduler).schedule requests)
    allocator.logged { state } {} (Peaked allocator state requests) (fun _ _ => True)
    ?_ ?_ ?_ (peaked_start hids htimes)
  · rcases hrun with ⟨final, ⟨log, hheard, _, _, hpeak⟩, hfinal, hallocator, _⟩ |
      ⟨_, _, _, herror, _⟩
    · rw [replay, hfinal] at hresult
      cases hresult
      have hlogged : logged.allocator = final.allocator := hallocator
      rw [hlogged, ← hheard.exchanges_eq]
      exact hpeak
    · rw [replay, herror] at hresult
      cases hresult
  · intros
    trivial
  · intro event events before after hpeaked _ hdispatch
    have hmoved : Peaked allocator state requests (event :: events)
        { before with clock := ⟨event.time⟩ } := hpeaked
    have hkept : Peaked allocator state requests events after :=
      peaked_dispatch hids rfl hmoved hdispatch
    exact hkept
  · intros
    trivial

end Replay

/-- When the allocator does not give up, a replay ends, and its peak is the largest number of
    granted requests that are live at a time: at the allocation of one of them, those that are
    allocated no later and freed later. What comes first at one time is told by the request, and
    for one request it is the allocation. -/
theorem replay_peak (allocator : Allocator State Handle) (state : State) (threshold : PosWord)
    (historyLimit : Nat) (requests : List Request) (hids : (requests.map Request.id).Nodup)
    (htimes : ∀ request ∈ requests, request.birth ≤ request.death) :
    let outcome := replay requests allocator state threshold historyLimit
    let logged := replay requests allocator.logged { state } threshold historyLimit
    let log := allocator.transcript state logged.allocator.calls.toList
    let granted : Finset Request :=
      {request ∈ requests.toFinset | ∃ exchange ∈ log, exchange.grants request.id}
    (logged.result = outcome.result ∧ logged.allocator.state = outcome.allocator) ∧
      (Faultless allocator → ∃ report, outcome.result = .ok report) ∧
      ∀ report, outcome.result = .ok report →
        report.peakLiveObjects = granted.sup fun newest =>
          Finset.card {request ∈ granted | request.allocation.key ≤ newest.allocation.key ∧
            newest.allocation.key < request.release.key} := by
  intro outcome logged log granted
  have hlogged := replay_logged requests allocator state threshold historyLimit
  refine ⟨hlogged, ?_, ?_⟩
  · intro hfaultless
    exact hfaultless.replay_ok hids htimes state threshold historyLimit
  · intro report hreport
    have hpeak := peak_of_replay_ok hids htimes (hlogged.1.trans hreport)
    have hgranted : Replay.granted requests log = granted := by
      ext request
      rw [mem_granted, Finset.mem_filter, List.mem_toFinset, List.any_eq_true]
    rw [hpeak, ← hgranted]
    rfl

/-- Of the requests that would be live at time five one is refused, and the last comes when the
    first is free again. -/
theorem replay_peak_refused :
    let requests : List Request := [⟨2, 16, 0, 5⟩, ⟨0, 64, 5, 9⟩, ⟨1, 24, 5, 6⟩, ⟨7, 24, 5, 5⟩]
    let allocator := Script.allocator { refuseOver := some 50 }
    (requests.map Request.id).Nodup ∧ (∀ request ∈ requests, request.birth ≤ request.death) ∧
      Faultless allocator ∧ ∃ report, report.peakLiveObjects = 2 ∧
        (replay requests allocator {} ⟨9, by decide⟩ 4).result = .ok report := by
  intro requests allocator
  have hids : (requests.map Request.id).Nodup := by decide
  have htimes : ∀ request ∈ requests, request.birth ≤ request.death := by decide
  have hcalls :
      (replay requests allocator.logged { state := {} } ⟨9, by decide⟩ 4).allocator.calls =
        #[.allocate 2 16, .allocate 0 64, .report, .allocate 1 24, .free 2 16 1, .allocate 7 24,
          .free 7 24 4, .free 1 24 3] := by
    let queue : Queue :=
      ⟨[⟨0, 2, 16, .allocate⟩, ⟨5, 0, 64, .allocate⟩, ⟨5, 1, 24, .allocate⟩, ⟨5, 2, 16, .free⟩,
        ⟨5, 7, 24, .allocate⟩, ⟨5, 7, 24, .free⟩, ⟨6, 1, 24, .free⟩, ⟨9, 0, 64, .free⟩], by decide⟩
    have hqueue : queue = Queue.empty.schedule requests :=
      Queue.eq_of_perm (by decide) ((Queue.toList_schedule_perm .empty requests).trans
        (by decide)).symm
    simp [replay, Scheduler.schedule, ← hqueue, queue, Scheduler.run, Plan.walk, Plan.step,
      Clock.advance, Plan.dispatchAllocate, Plan.dispatchFree, Plan.countSuccess,
      Plan.requestReport, Plan.record, allocator, Script.allocator, Script.refuses,
      Allocator.logged, LiveTable.insert, LiveTable.contains, LiveTable.get?, LiveTable.erase,
      Std.HashMap.getElem_insert, Std.HashMap.getElem_erase]
  have hfaultless : Faultless allocator := faultless_script none (some 50)
  obtain ⟨-, hok, hpeak⟩ := replay_peak allocator {} ⟨9, by decide⟩ 4 requests hids htimes
  obtain ⟨report, hreport⟩ := hok hfaultless
  refine ⟨hids, htimes, hfaultless, report, (hpeak report hreport).trans ?_, hreport⟩
  rw [hcalls]
  decide +kernel

end HeapReplay.Replay
