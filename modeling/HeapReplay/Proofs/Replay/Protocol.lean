import HeapReplay.Heap.FirstFit
import HeapReplay.Proofs.Replay.Alike
import HeapReplay.Proofs.Replay.Counts
import HeapReplay.Proofs.Replay.Phase
import HeapReplay.Proofs.Replay.Walk

namespace HeapReplay.Replay

open Heap

variable {State Handle : Type}

theorem standing_start {requests : List Request} (hids : (requests.map Request.id).Nodup)
    (htimes : ∀ request ∈ requests, request.birth ≤ request.death)
    (allocator : Allocator State Handle) (start : State) :
    Standing allocator start (Queue.empty.schedule requests).toList
      { allocator := { state := start }, live := {} } := by
  refine ⟨[], Logged.Heard.refl, ?_⟩
  intro id
  rw [LiveTable.get?_empty]
  cases eventsOf_schedule hids htimes id with
  | inl hfound =>
    obtain ⟨request, _, rfl, hevents⟩ := hfound
    rw [hevents]
    exact .waiting request.size request.birth request.death
  | inr hnone =>
    rw [hnone]
    exact .absent

/-- A replay of different requests ends with all of them settled, or at a fault of the
    allocator itself. -/
theorem replay_cases {requests : List Request} (hids : (requests.map Request.id).Nodup)
    (htimes : ∀ request ∈ requests, request.birth ≤ request.death)
    (allocator : Allocator State Handle) (start : State) (threshold : PosWord)
    (historyLimit : Nat) :
    (∃ final, Standing allocator start [] final ∧
        Counted ({} : LiveTable Handle) requests.length requests.length [] final ∧
        (replay requests allocator.logged { state := start } threshold historyLimit).result =
          .ok final.finalReport ∧
        (replay requests allocator.logged { state := start } threshold historyLimit).allocator =
          final.allocator) ∨
      ∃ error final, Halted allocator start error final ∧
        (replay requests allocator.logged { state := start } threshold historyLimit).result =
          .error error ∧
        (replay requests allocator.logged { state := start } threshold historyLimit).allocator =
          final.allocator := by
  have hrun := Scheduler.run_cases (({ threshold, historyLimit } : Scheduler).schedule requests)
    allocator.logged { state := start } {}
    (fun events progress => Standing allocator start events progress ∧
      Counted ({} : LiveTable Handle) requests.length requests.length events progress ∧
      Timely events progress)
    (Halted allocator start) ?_ ?_ ?_ ?_
  · rcases hrun with ⟨final, ⟨hstanding, hcounted, _⟩, hresult, hallocator, _⟩ |
      ⟨error, final, hhalted, hresult, hallocator, _⟩
    · exact Or.inl ⟨final, hstanding, hcounted, hresult, hallocator⟩
    · exact Or.inr ⟨error, final, hhalted, hresult, hallocator⟩
  · rintro event events before ⟨_, _, _, hclock⟩ hpast
    exact absurd (hclock event List.mem_cons_self) (UInt64.not_le.2 hpast)
  · rintro event events before after ⟨hstanding, hcounted, htimely⟩ _ hdispatch
    have hmoved : Standing allocator start (event :: events)
        { before with clock := ⟨event.time⟩ } := hstanding
    have hstands : Standing allocator start events after := standing_dispatch rfl hmoved hdispatch
    have hmovedCounts : Counted ({} : LiveTable Handle) requests.length requests.length
        (event :: events) { before with clock := ⟨event.time⟩ } := { hcounted with }
    have hcounts := counted_dispatch hmovedCounts hdispatch
    exact ⟨hstands, { hcounts with }, timely_record htimely hdispatch⟩
  · rintro event events before error after ⟨hstanding, _, _⟩ _ hdispatch
    have hmoved : Standing allocator start (event :: events)
        { before with clock := ⟨event.time⟩ } := hstanding
    exact halted_dispatch rfl hmoved hdispatch
  · refine ⟨standing_start hids htimes allocator start, ?_, ?_⟩
    · have hcounted := counted_start ({ state := start } : Logged State Handle)
        ({} : LiveTable Handle) (Queue.empty.schedule requests).toList
      rwa [countP_kind_schedule, countP_kind_schedule] at hcounted
    · exact timely_start _ _ _

/-- All exchanges of a replay are heard in the order in which a request lives. -/
theorem replay_lives {requests : List Request} (hids : (requests.map Request.id).Nodup)
    (htimes : ∀ request ∈ requests, request.birth ≤ request.death)
    (allocator : Allocator State Handle) (state : State) (threshold : PosWord)
    (historyLimit : Nat) (id : RequestId) :
    Life id (exchangesOf id (allocator.transcript state (replay requests allocator.logged { state }
      threshold historyLimit).allocator.calls.toList)) := by
  rcases replay_cases hids htimes allocator state threshold historyLimit with
    ⟨final, ⟨log, hheard, hphases⟩, _, _, hallocator⟩ |
    ⟨error, final, ⟨log, fault, call, hheard, hlives, _, _⟩, _, hallocator⟩
  · rw [hallocator, ← hheard.exchanges_eq]
    exact (hphases id).life
  · rw [hallocator, ← hheard.exchanges_eq]
    exact hlives id

/-- Whatever an allocator answers, a replay of different requests that do not end before
    they begin asks it at most once for the block of a request, and frees only granted
    blocks, each at most once, with the handle and the size of the grant. A replay without
    an error frees all of them. -/
theorem replay_protocol (allocator : Allocator State Handle) (state : State) (threshold : PosWord)
    (historyLimit : Nat) (requests : List Request) (hids : (requests.map Request.id).Nodup)
    (htimes : ∀ request ∈ requests, request.birth ≤ request.death) :
    let outcome := replay requests allocator.logged { state } threshold historyLimit
    let log := allocator.transcript state outcome.allocator.calls.toList
    let unlogged := replay requests allocator state threshold historyLimit
    (outcome.result = unlogged.result ∧ outcome.allocator.state = unlogged.allocator) ∧
      (∀ id, log.countP (Exchange.allocates id) ≤ 1) ∧
      (∀ id, log.countP (Exchange.frees id) ≤ 1) ∧
      (∀ earlier id size handle answer later,
        log = earlier ++ ⟨.free id size handle, answer⟩ :: later →
          ⟨.allocate id size, .ok (some handle)⟩ ∈ earlier) ∧
      (∀ id size answer, ⟨.allocate id size, answer⟩ ∈ log →
        (∀ handle, answer ≠ .ok (some handle)) → log.countP (Exchange.frees id) = 0) ∧
      ∀ report, outcome.result = .ok report →
        (∀ id size handle, ⟨.allocate id size, .ok (some handle)⟩ ∈ log →
          ⟨.free id size handle, .ok none⟩ ∈ log ∧ log.countP (Exchange.frees id) = 1) ∧
        report.freesDispatched = report.allocationsSucceeded ∧
        report.untrackedFrees = report.allocationsFailed ∧
        report.liveObjectsRemaining = 0 := by
  intro outcome log unlogged
  have halike := Scheduler.run_alike allocator.alike_logged state { state } rfl
    (({ threshold, historyLimit } : Scheduler).schedule requests) {}
  have hlives : ∀ id, Life id (exchangesOf id log) :=
    replay_lives hids htimes allocator state threshold historyLimit
  refine ⟨⟨halike.1.symm, halike.2.2.1⟩, ?_, ?_, ?_, ?_, ?_⟩
  · intro id
    rw [← countP_exchangesOf id?_of_allocates]
    exact (hlives id).allocates_le_one
  · intro id
    rw [← countP_exchangesOf id?_of_frees]
    exact (hlives id).frees_le_one
  · intro earlier id size handle answer later hlog
    exact granted_of_free (hlives id) hlog
  · intro id size answer hmem hnone
    rw [← countP_exchangesOf id?_of_frees]
    exact (hlives id).frees_eq_zero (mem_exchangesOf.2 ⟨hmem, rfl⟩) hnone
  · intro report hreport
    rcases replay_cases hids htimes allocator state threshold historyLimit with
      ⟨final, ⟨heard, hheard, hphases⟩, hcounted, hresult, hallocator⟩ |
      ⟨error, final, _, hresult, _⟩
    · have hlog : heard = log := by
        rw [hheard.exchanges_eq, ← hallocator]
      subst hlog
      obtain rfl : final.finalReport = report := by
        rw [hresult, Except.ok.injEq] at hreport
        exact hreport
      have hempty : final.live.size = 0 :=
        LiveTable.size_eq_zero_iff.2 fun id => (hphases id).settled.1
      obtain ⟨hallocations, hfreed, hlive⟩ := hcounted
      simp only [List.countP_nil, hempty] at hallocations hfreed hlive
      have hzero : ({} : LiveTable Handle).size = 0 := rfl
      refine ⟨?_, ?_, ?_, hempty⟩
      · intro id size handle hmem
        obtain ⟨hfree, honce⟩ := (hphases id).settled.2 size handle (mem_exchangesOf.2 ⟨hmem, rfl⟩)
        rw [countP_exchangesOf id?_of_frees] at honce
        exact ⟨(mem_exchangesOf.1 hfree).1, honce⟩
      · simp only [Progress.finalReport]
        omega
      · simp only [Progress.finalReport]
        omega
    · rw [hresult] at hreport
      cases hreport

/-- One request ends as it begins, two begin together, and two end together. -/
theorem replay_protocol_overlapping :
    let requests : List Request := [⟨7, 24, 5, 5⟩, ⟨2, 16, 0, 5⟩, ⟨9, 64, 5, 9⟩]
    let outcome := replay requests FirstFit.allocator.logged
      { state := FirstFit.ofCapacity 64 ⟨8, by decide⟩ } ⟨2, by decide⟩ 4
    let log := FirstFit.allocator.transcript (FirstFit.ofCapacity 64 ⟨8, by decide⟩)
      outcome.allocator.calls.toList
    (requests.map Request.id).Nodup ∧ (∀ request ∈ requests, request.birth ≤ request.death) ∧
      log.countP (Exchange.allocates 7) ≤ 1 ∧ log.countP (Exchange.frees 7) ≤ 1 ∧
      ∀ report, outcome.result = .ok report →
        report.freesDispatched = report.allocationsSucceeded ∧ report.liveObjectsRemaining = 0 := by
  intro requests outcome log
  have hids : (requests.map Request.id).Nodup := by decide
  have htimes : ∀ request ∈ requests, request.birth ≤ request.death := by decide
  obtain ⟨_, hallocates, hfrees, _, _, hok⟩ := replay_protocol FirstFit.allocator
    (FirstFit.ofCapacity 64 ⟨8, by decide⟩) ⟨2, by decide⟩ 4 requests hids htimes
  refine ⟨hids, htimes, hallocates 7, hfrees 7, ?_⟩
  intro report hreport
  obtain ⟨_, hfreed, _, hremaining⟩ := hok report hreport
  exact ⟨hfreed, hremaining⟩

end HeapReplay.Replay
