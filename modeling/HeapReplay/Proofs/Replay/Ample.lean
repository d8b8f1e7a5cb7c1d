import HeapReplay.Proofs.Heap.Room
import HeapReplay.Proofs.Replay.Lockstep
import HeapReplay.Proofs.Replay.Mirror
import HeapReplay.Proofs.Replay.Restore

namespace HeapReplay.Replay

open Heap FirstFit FreeList

/-- The bytes of all blocks that events ask for. -/
def demand (alignment : PosWord) (events : List Event) : Nat :=
  ((events.filter (·.kind = .allocate)).map (blockBytes alignment ·.size)).sum

theorem demand_allocate (alignment : PosWord) {event : Event} (hkind : event.kind = .allocate)
    (events : List Event) :
    demand alignment (event :: events) = blockBytes alignment event.size + demand alignment events := by
  simp [demand, hkind]

theorem demand_free (alignment : PosWord) {event : Event} (hkind : event.kind = .free)
    (events : List Event) : demand alignment (event :: events) = demand alignment events := by
  simp [demand, hkind]

/-- Requests ask for one block each. -/
theorem demand_schedule (alignment : PosWord) (requests : List Request) :
    demand alignment (Queue.empty.schedule requests).toList =
      (requests.map (blockBytes alignment ·.size)).sum := by
  have hrequests : demand alignment (requests.flatMap Request.events) =
      (requests.map (blockBytes alignment ·.size)).sum := by
    induction requests with
    | nil => rfl
    | cons request requests ih =>
      rw [demand] at ih
      simp [demand, Request.events, ih]
  have hperm := (Queue.toList_schedule_perm Queue.empty requests).filter (·.kind = .allocate)
  rw [← hrequests, demand, (hperm.map _).sum_eq]
  rfl

/-- A run in which no request has been refused, on a heap with room for all that are still
    to come. -/
structure Ample (alignment : PosWord) (events : List Event)
    (progress : Progress FirstFit UInt64) : Prop where
  alignment_eq : progress.allocator.alignment = alignment
  roomy : progress.allocator.Roomy (demand alignment events)
  sizes : ∀ event ∈ events,
    max event.size.toNat 1 + (alignment.val.toNat - 1) < UInt64.size
  handles : ∀ id address, progress.live.get? id = some address →
    alignment.val.toNat ∣ address.toNat
  none_failed : progress.report.allocationsFailed = 0

variable {alignment : PosWord} {plan : Plan FirstFit UInt64} {event : Event}
  {events : List Event} {before after : Progress FirstFit UInt64}

/-- The answer to an allocation while there is room. -/
theorem Ample.granted (hample : Ample alignment (event :: events) before)
    (hkind : event.kind = .allocate) {answer : Except AllocatorError (Option UInt64)}
    {heap : FirstFit}
    (hallocate : FirstFit.allocator.allocate event.id event.size before.allocator =
      (answer, heap)) :
    ∃ address, answer = .ok (some address) ∧ alignment.val.toNat ∣ address.toNat ∧
      heap.alignment = alignment ∧ heap.Roomy (demand alignment events) := by
  obtain ⟨rfl, hroomy, hsizes, _, _⟩ := hample
  rw [demand_allocate _ hkind] at hroomy
  obtain ⟨address, next, hserved, haligned, hsame, hnext⟩ :=
    hroomy.allocate event.id (hsizes event List.mem_cons_self)
  rw [hserved] at hallocate
  cases hallocate
  exact ⟨address, rfl, haligned, hsame, hnext⟩

theorem Ample.handles_insert (hample : Ample alignment (event :: events) before)
    (habsent : before.live.contains event.id = false) {address : UInt64}
    (haligned : alignment.val.toNat ∣ address.toNat) (id : RequestId) (other : UInt64)
    (hlive : (before.live.insert event.id address).2.get? id = some other) :
    alignment.val.toNat ∣ other.toNat := by
  by_cases hid : id = event.id
  · rw [hid, LiveTable.get?_insert_self habsent] at hlive
    cases hlive
    exact haligned
  · rw [LiveTable.get?_insert_of_ne habsent hid] at hlive
    exact hample.handles id other hlive

theorem Ample.handles_erase (hample : Ample alignment (event :: events) before) (id : RequestId)
    (other : UInt64) (hlive : (before.live.erase event.id).get? id = some other) :
    alignment.val.toNat ∣ other.toNat := by
  by_cases hid : id = event.id
  · rw [hid, LiveTable.get?_erase_self] at hlive
    cases hlive
  · rw [LiveTable.get?_erase_of_ne hid] at hlive
    exact hample.handles id other hlive

/-- With room for all that is to come, the next event leaves room for all behind it. -/
theorem Ample.dispatch (hplan : plan.allocator = FirstFit.allocator)
    (hample : Ample alignment (event :: events) before)
    (hdispatch : plan.Dispatch event before (.ok ()) after) : Ample alignment events after := by
  have hsizes := (List.forall_mem_cons.1 hample.sizes).2
  cases hdispatch with
  | refused hkind hallocate hreport =>
    rw [hplan] at hallocate
    obtain ⟨_, hanswer, _⟩ := hample.granted hkind hallocate
    cases hanswer
  | granted hkind hallocate hlive hquiet =>
    rw [hplan] at hallocate
    obtain ⟨_, hanswer, haligned, hsame, hroomy⟩ := hample.granted hkind hallocate
    cases hanswer
    exact ⟨hsame, hroomy, hsizes, hample.handles_insert hlive haligned, hample.none_failed⟩
  | grantedReport hkind hallocate hlive hdue hreport =>
    rw [hplan] at hallocate hreport
    obtain ⟨_, hanswer, haligned, hsame, hroomy⟩ := hample.granted hkind hallocate
    cases hanswer
    obtain rfl := next_of_report hreport
    exact ⟨hsame, hroomy.report _, hsizes, hample.handles_insert hlive haligned,
      hample.none_failed⟩
  | untracked hkind hnone =>
    obtain ⟨hsame, hroomy, _, hhandles, hfailed⟩ := hample
    rw [demand_free _ hkind] at hroomy
    exact ⟨hsame, hroomy, hsizes, hhandles, hfailed⟩
  | freed hkind hsome hfree =>
    rw [hplan] at hfree
    have hroomy := hample.roomy
    rw [demand_free _ hkind] at hroomy
    have haddress := hample.handles event.id _ hsome
    rw [← hample.alignment_eq] at haddress
    obtain ⟨hsame, hnext⟩ := hroomy.release haddress (release?_of_free hfree)
    exact ⟨hsame.trans hample.alignment_eq, hnext, hsizes, hample.handles_erase,
      hample.none_failed⟩

/-- A size that leaves room for rounding leaves it also when it is raised to one. -/
theorem max_add_lt {size : UInt64} (alignment : PosWord)
    (hsize : size.toNat + alignment.val.toNat - 1 < UInt64.size) :
    max size.toNat 1 + (alignment.val.toNat - 1) < UInt64.size := by
  have hpos := Word.unit_pos alignment
  have hword := alignment.val.toNat_lt
  simp only [UInt64.size] at hsize ⊢
  omega

theorem ample_start {requests : List Request} {capacity : UInt64} {alignment : PosWord}
    (hsizes : ∀ request ∈ requests,
      request.size.toNat + alignment.val.toNat - 1 < UInt64.size)
    (hroom : (requests.map (blockBytes alignment ·.size)).sum ≤ capacity.toNat) :
    Ample alignment (Queue.empty.schedule requests).toList
      { allocator := FirstFit.ofCapacity capacity alignment, live := {} } := by
  rw [← demand_schedule] at hroom
  refine ⟨rfl, roomy_ofCapacity hroom alignment, ?_, ?_, rfl⟩
  · intro event hmem
    rw [(Queue.toList_schedule_perm Queue.empty requests).mem_iff] at hmem
    simp only [Queue.empty, List.nil_append, List.mem_flatMap, Request.events, List.mem_cons,
      List.not_mem_nil, or_false] at hmem
    obtain ⟨request, hrequest, rfl | rfl⟩ := hmem
    · exact max_add_lt alignment (hsizes request hrequest)
    · exact max_add_lt alignment (hsizes request hrequest)
  · intro id address hlive
    rw [LiveTable.get?_empty] at hlive
    cases hlive

/-- On a heap as large as all blocks together no request of a replay is refused, however
    blocks come and go. -/
theorem none_refused {requests : List Request} {capacity : UInt64} {alignment : PosWord}
    (hsizes : ∀ request ∈ requests,
      request.size.toNat + alignment.val.toNat - 1 < UInt64.size)
    (hroom : (requests.map (blockBytes alignment ·.size)).sum ≤ capacity.toNat)
    {threshold : PosWord} {historyLimit : Nat} {report : Report}
    (hresult : (replay requests FirstFit.allocator (.ofCapacity capacity alignment) threshold
      historyLimit).result = .ok report) : report.allocationsFailed = 0 := by
  have hrun := Scheduler.run_cases (({ threshold, historyLimit } : Scheduler).schedule requests)
    FirstFit.allocator (.ofCapacity capacity alignment) {} (Ample alignment) (fun _ _ => True)
    ?_ ?_ ?_ (ample_start hsizes hroom)
  · rcases hrun with ⟨final, hample, hfinal, _⟩ | ⟨error, final, _, herror, _⟩
    · rw [replay, hfinal] at hresult
      cases hresult
      exact hample.none_failed
    · rw [replay, herror] at hresult
      cases hresult
  · intros
    trivial
  · intro event events before after hample _ hdispatch
    have hmoved : Ample alignment (event :: events) { before with clock := ⟨event.time⟩ } :=
      { hample with }
    have hkept := hmoved.dispatch rfl hdispatch
    exact { hkept with }
  · intros
    trivial

/-- When all blocks together fit into the capacity, first fit refuses nothing, and its
    report is the one that the allocator without memory gets. The heap may break into holes
    on the way: none of them pushes a block behind the sum of the blocks so far. -/
theorem replay_ample (capacity : UInt64) (alignment : PosWord) (threshold : PosWord)
    (historyLimit : Nat) (tally : Tally) (requests : List Request)
    (hids : (requests.map Request.id).Nodup)
    (htimes : ∀ request ∈ requests, request.birth ≤ request.death)
    (hsizes : ∀ request ∈ requests,
      request.size.toNat + alignment.val.toNat - 1 < UInt64.size)
    (hroom : (requests.map (blockBytes alignment ·.size)).sum ≤ capacity.toNat) :
    let outcome :=
      replay requests FirstFit.allocator (.ofCapacity capacity alignment) threshold historyLimit
    ∃ report, outcome.result = .ok report ∧ report.allocationsFailed = 0 ∧
      outcome.allocator.failedAllocations = 0 ∧
      (replay requests Tally.allocator tally threshold historyLimit).result = .ok report := by
  intro outcome
  obtain ⟨⟨report, hresult⟩, _⟩ := replay_restores (sound_ofCapacity capacity alignment) hids
    htimes threshold historyLimit
  have hfailed := none_refused hsizes hroom hresult
  obtain ⟨_, hmirrored, _⟩ := mirrored_of_run_ok hresult
  exact ⟨report, hresult, hfailed, hmirrored.trans hfailed,
    Scheduler.run_tally hresult hfailed .empty tally⟩

/-- The blocks fill the heap to the last byte, and the third one cannot use the hole that
    the first one leaves. -/
theorem replay_ample_exact :
    let requests : List Request := [⟨4, 3, 0, 5⟩, ⟨2, 16, 1, 9⟩, ⟨9, 17, 6, 7⟩, ⟨5, 0, 7, 7⟩]
    let alignment : PosWord := ⟨8, by decide⟩
    let outcome := replay requests FirstFit.allocator (.ofCapacity 56 alignment) ⟨2, by decide⟩
    (requests.map Request.id).Nodup ∧ (∀ request ∈ requests, request.birth ≤ request.death) ∧
      (∀ request ∈ requests, request.size.toNat + alignment.val.toNat - 1 < UInt64.size) ∧
      (requests.map (blockBytes alignment ·.size)).sum = 56 ∧
      ∃ report, outcome.result = .ok report ∧ report.allocationsFailed = 0 ∧
        (replay requests Tally.allocator {} ⟨2, by decide⟩).result = .ok report := by
  intro requests alignment outcome
  have hids : (requests.map Request.id).Nodup := by decide
  have htimes : ∀ request ∈ requests, request.birth ≤ request.death := by decide
  have hsizes : ∀ request ∈ requests,
      request.size.toNat + alignment.val.toNat - 1 < UInt64.size := by decide
  have hroom : (requests.map (blockBytes alignment ·.size)).sum = 56 := by decide
  obtain ⟨report, hresult, hfailed, _, htally⟩ := replay_ample 56 alignment ⟨2, by decide⟩ 0 {}
    requests hids htimes hsizes hroom.le
  exact ⟨hids, htimes, hsizes, hroom, report, hresult, hfailed, htally⟩

end HeapReplay.Replay
