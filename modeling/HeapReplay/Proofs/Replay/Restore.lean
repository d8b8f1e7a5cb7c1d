import HeapReplay.Proofs.Heap.Holders
import HeapReplay.Proofs.Replay.Protocol

namespace HeapReplay.Replay

open Heap FirstFit

/-- When all requests are settled, no block is outstanding. -/
theorem outstanding_eq_nil {log : List (Exchange UInt64)} (hheld : Held log)
    (hphases : ∀ id, ∃ live, Phase id [] (exchangesOf id log) live) : outstanding log = [] := by
  have hempty : holders log = [] := by
    rw [List.eq_nil_iff_forall_not_mem]
    rintro ⟨id, grant⟩ hmem
    obtain ⟨live, hphase⟩ := hphases id
    rw [(hheld.mem_iff id grant).1 hmem] at hphase
    cases hphase
  have hperm := hheld.perm
  rw [hempty] at hperm
  exact hperm.eq_nil

/-- A replay on a sound heap has no error, and gives back all that it takes. -/
theorem replay_restores {heap : FirstFit} (hsound : heap.Sound) {requests : List Request}
    (hids : (requests.map Request.id).Nodup)
    (htimes : ∀ request ∈ requests, request.birth ≤ request.death) (threshold : PosWord)
    (historyLimit : Nat) :
    (∃ report,
        (replay requests FirstFit.allocator heap threshold historyLimit).result = .ok report) ∧
      Ledger heap (replay requests FirstFit.allocator heap threshold historyLimit).allocator [] := by
  obtain ⟨hresult, hstate⟩ :=
    replay_logged requests FirstFit.allocator heap threshold historyLimit
  rcases replay_cases hids htimes FirstFit.allocator heap threshold historyLimit with
    ⟨final, ⟨log, hheard, hphases⟩, _, hlogged, hallocator⟩ |
    ⟨error, final, ⟨log, fault, call, hheard, hlives, _, hfault⟩, _, _⟩
  · have hlives (id : RequestId) : Life id (exchangesOf id log) := (hphases id).life
    have hexchanges := hheard.exchanges_eq
    subst hexchanges
    obtain ⟨hhonest, hfaultless⟩ := honest_of_lives hsound _ hlives
    obtain ⟨hledger, _⟩ := ledger_after hsound _ hhonest
    rw [outstanding_eq_nil (held_of_lives hlives hfaultless) fun id => ⟨_, hphases id⟩,
      ← hheard.state_eq] at hledger
    constructor
    · exact ⟨final.finalReport, hresult.symm.trans hlogged⟩
    · have hfinal : final.allocator.state =
          (replay requests FirstFit.allocator heap threshold historyLimit).allocator := by
        rw [← hallocator]
        exact hstate
      rwa [hfinal] at hledger
  · have hexchanges := hheard.exchanges_eq
    subst hexchanges
    exact absurd hfault ((honest_of_lives hsound _ hlives).2 call fault)

/-- Replaying requests on a heap that any calls have led to, again and again, never fails.
    Each time the free spans, the bytes in use and the live allocations come back as they
    were, and the report is the same. -/
theorem replay_again (capacity : UInt64) (alignment : PosWord) (calls : List (Call UInt64))
    (threshold : PosWord) (historyLimit : Nat) (requests : List Request)
    (hids : (requests.map Request.id).Nodup)
    (htimes : ∀ request ∈ requests, request.birth ≤ request.death) :
    let heap := FirstFit.allocator.after (FirstFit.ofCapacity capacity alignment) calls
    let again := fun heap : FirstFit =>
      (replay requests FirstFit.allocator heap threshold historyLimit).allocator
    ∃ report, ∀ times,
      (replay requests FirstFit.allocator (again^[times] heap) threshold historyLimit).result =
          .ok report ∧
        (again^[times] heap).free = heap.free ∧
        (again^[times] heap).bytesInUse = heap.bytesInUse ∧
        (again^[times] heap).liveAllocations = heap.liveAllocations := by
  intro heap again
  have hsound : heap.Sound := (sound_ofCapacity capacity alignment).after calls
  obtain ⟨⟨report, hreport⟩, _⟩ := replay_restores hsound hids htimes threshold historyLimit
  have hback (times : Nat) : (again^[times] heap).Sound ∧ SameFree (again^[times] heap) heap ∧
      (again^[times] heap).bytesInUse = heap.bytesInUse ∧
      (again^[times] heap).liveAllocations = heap.liveAllocations := by
    induction times with
    | zero => exact ⟨hsound, ⟨rfl, rfl, rfl⟩, rfl, rfl⟩
    | succ times ih =>
      obtain ⟨hbefore, hsame, hused, hlive⟩ := ih
      obtain ⟨_, hledger⟩ := replay_restores hbefore hids htimes threshold historyLimit
      obtain ⟨hfree, hrestored, hreturned⟩ := hledger.restored
      rw [Function.iterate_succ_apply']
      exact ⟨hledger.sound,
        ⟨hledger.capacity.trans hsame.capacity, hledger.alignment.trans hsame.alignment,
          hfree.trans hsame.free⟩,
        hrestored.trans hused, hreturned.trans hlive⟩
  refine ⟨report, ?_⟩
  intro times
  obtain ⟨_, hsame, hused, hlive⟩ := hback times
  obtain ⟨hresult, _⟩ := Scheduler.run_alike alike_sameFree (again^[times] heap) heap hsame
    (({ threshold, historyLimit } : Scheduler).schedule requests) {}
  exact ⟨hresult.trans hreport, hsame.free, hused, hlive⟩

/-- A block was freed in part by a call with another size, and another call was refused. -/
theorem replay_again_fragmented :
    let requests : List Request := [⟨7, 24, 5, 5⟩, ⟨2, 16, 0, 5⟩, ⟨9, 64, 5, 9⟩]
    let heap := FirstFit.allocator.after (FirstFit.ofCapacity 64 ⟨8, by decide⟩)
      [.allocate 0 24, .allocate 1 8, .free 0 8 0, .free 1 16 100]
    let again := fun heap : FirstFit =>
      (replay requests FirstFit.allocator heap ⟨2, by decide⟩ 0).allocator
    (requests.map Request.id).Nodup ∧ (∀ request ∈ requests, request.birth ≤ request.death) ∧
      ∃ report, ∀ times,
        (replay requests FirstFit.allocator (again^[times] heap) ⟨2, by decide⟩ 0).result =
            .ok report ∧
          (again^[times] heap).free = [⟨0, 8⟩, ⟨32, 64⟩] ∧
          (again^[times] heap).bytesInUse = 24 := by
  intro requests heap again
  have hids : (requests.map Request.id).Nodup := by decide
  have htimes : ∀ request ∈ requests, request.birth ≤ request.death := by decide
  have hfree : heap.free = [⟨0, 8⟩, ⟨32, 64⟩] := by decide +kernel
  have hused : heap.bytesInUse = 24 := by decide +kernel
  obtain ⟨report, hagain⟩ := replay_again 64 ⟨8, by decide⟩
    [.allocate 0 24, .allocate 1 8, .free 0 8 0, .free 1 16 100] ⟨2, by decide⟩ 0 requests
    hids htimes
  refine ⟨hids, htimes, report, ?_⟩
  intro times
  obtain ⟨hresult, hsame, hkept, _⟩ := hagain times
  exact ⟨hresult, hsame.trans hfree, hkept.trans hused⟩

end HeapReplay.Replay
