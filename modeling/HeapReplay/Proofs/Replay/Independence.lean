import HeapReplay.Heap.Script
import HeapReplay.Proofs.Replay.Alike
import HeapReplay.Proofs.Replay.Usage

namespace HeapReplay.Replay

open Heap

variable {State Handle : Type}

namespace Scheduler

/-- Uses leave the settings of a scheduler as they are. -/
theorem settings_after (scheduler : Scheduler) (uses : List Use) :
    (scheduler.after uses).threshold = scheduler.threshold ∧
      (scheduler.after uses).historyLimit = scheduler.historyLimit := by
  induction uses generalizing scheduler with
  | nil => exact ⟨rfl, rfl⟩
  | cons use uses ih =>
    obtain ⟨hthreshold, hlimit⟩ := ih (scheduler.use use)
    cases use <;> exact ⟨hthreshold, hlimit⟩

theorem takenBy_schedule (scheduler : Scheduler) (batches : List (List Request)) :
    scheduler.takenBy (batches.map .schedule) = [] := by
  induction batches generalizing scheduler with
  | nil => rfl
  | cons batch batches ih => exact ih _

/-- Requests in batches are queued as they are at once. -/
theorem queue_after_schedule_perm (scheduler : Scheduler) (batches : List (List Request)) :
    (scheduler.after (batches.map .schedule)).queue.toList.Perm
      (scheduler.queue.toList ++ batches.flatten.flatMap Request.events) := by
  have hperm := scheduler.takenBy_append_queue (batches.map .schedule)
  have hevents : (batches.map Use.schedule).flatMap Use.events =
      batches.flatten.flatMap Request.events := by
    rw [List.flatMap_map, List.flatten_eq_flatMap, List.flatMap_assoc]
    rfl
  rwa [takenBy_schedule, List.nil_append, hevents] at hperm

/-- A run looks at the queue, the threshold and the limit of its scheduler alone. -/
theorem run_eq_of_queue {first second : Scheduler} (hthreshold : first.threshold = second.threshold)
    (hlimit : first.historyLimit = second.historyLimit) (hqueue : first.queue = second.queue)
    (allocator : Allocator State Handle) (state : State) (live : LiveTable Handle) :
    first.run allocator state live = second.run allocator state live := by
  simp only [run, hthreshold, hlimit, hqueue]

/-- A scheduler without events, filled in batches, runs like a replay of all requests. -/
theorem run_after_schedule {scheduler : Scheduler} (hempty : scheduler.queue = .empty)
    {batches : List (List Request)} {requests : List Request}
    (hkeyed : Keyed (requests.flatMap Request.events)) (hbatches : batches.flatten.Perm requests)
    (allocator : Allocator State Handle) (state : State) :
    (scheduler.after (batches.map .schedule)).run allocator state {} =
      replay requests allocator state scheduler.threshold scheduler.historyLimit := by
  have hfilled := scheduler.queue_after_schedule_perm batches
  rw [hempty] at hfilled
  have hqueue : (scheduler.after (batches.map .schedule)).queue = Queue.empty.schedule requests :=
    Queue.eq_schedule_of_perm hkeyed (hfilled.trans (hbatches.flatMap_right _))
  obtain ⟨hthreshold, hlimit⟩ := scheduler.settings_after (batches.map .schedule)
  apply run_eq_of_queue
  · exact hthreshold
  · exact hlimit
  · exact hqueue

end Scheduler

/-- A run depends on what is queued, and not on how it came to be queued: schedulers with
    the same events run alike, whatever they were used for before. So requests replay alike
    in any order, and a scheduler that was emptied and filled again, in any batches, runs
    like a replay of its own. -/
theorem run_independent (allocator : Allocator State Handle) (state : State) :
    (∀ (first second : Scheduler) (live table : LiveTable Handle),
      first.threshold = second.threshold → first.historyLimit = second.historyLimit →
      first.queue.toList.Perm second.queue.toList → Keyed first.queue.toList →
      live.Alike table →
      let outcome := first.run allocator state live
      let twin := second.run allocator state table
      outcome.result = twin.result ∧ outcome.allocator = twin.allocator ∧
        outcome.live.Alike twin.live ∧ outcome.scheduler = twin.scheduler) ∧
    (∀ (requests others : List Request) (threshold : PosWord) (historyLimit : Nat),
      (requests.map Request.id).Nodup → requests.Perm others →
      replay others allocator state threshold historyLimit =
        replay requests allocator state threshold historyLimit) ∧
    ∀ (scheduler : Scheduler) (uses : List Use) (batches : List (List Request))
      (requests : List Request), (scheduler.after uses).queue = .empty →
      Keyed (requests.flatMap Request.events) → batches.flatten.Perm requests →
      ((scheduler.after uses).after (batches.map .schedule)).run allocator state {} =
        replay requests allocator state scheduler.threshold scheduler.historyLimit := by
  refine ⟨?_, ?_, ?_⟩
  · intro first second live table hthreshold hlimit hqueues hkeyed htables outcome twin
    obtain ⟨hresult, hscheduler, hstate, hlive⟩ :=
      Scheduler.run_alike_of_alike allocator.alike_self (@rfl _ state) first htables
    have htwin : first.run allocator state table = twin :=
      Scheduler.run_eq_of_queue hthreshold hlimit (Queue.eq_of_perm hkeyed hqueues) allocator state
        table
    rw [htwin] at hresult hscheduler hstate hlive
    exact ⟨hresult, hstate, hlive, hscheduler⟩
  · intro requests others threshold historyLimit hids hothers
    have hfilled := Queue.toList_schedule_perm Queue.empty others
    have hqueue : Queue.empty.schedule others = Queue.empty.schedule requests :=
      Queue.eq_schedule_of_perm (keyed_events hids) (hfilled.trans (hothers.symm.flatMap_right _))
    simp only [replay, Scheduler.schedule, hqueue]
  · intro scheduler uses batches requests hempty hkeyed hbatches
    obtain ⟨hthreshold, hlimit⟩ := scheduler.settings_after uses
    rw [← hthreshold, ← hlimit]
    exact Scheduler.run_after_schedule hempty hkeyed hbatches allocator state

/-- The second scheduler and its table were filled in another order, and its last run left
    a time, a count and a history. The third scheduler was emptied by a run that failed and
    one that did not, and is filled with earlier requests. -/
theorem run_independent_refilled :
    let events : List Event :=
      [⟨0, 2, 16, .allocate⟩, ⟨5, 2, 16, .free⟩, ⟨5, 9, 64, .allocate⟩, ⟨6, 7, 24, .free⟩]
    let first : Scheduler :=
      { threshold := ⟨2, by decide⟩, historyLimit := 3, queue := .ofEvents events }
    let second : Scheduler :=
      { threshold := ⟨2, by decide⟩
        historyLimit := 3
        queue := .ofEvents events.reverse
        clock := ⟨9⟩
        sinceReport := 1
        history := #[⟨9, 9, 64, .free⟩] }
    let third : Scheduler :=
      { threshold := ⟨2, by decide⟩
        historyLimit := 3
        queue := ⟨[⟨100, 4, 8, .allocate⟩, ⟨200, 4, 8, .free⟩], by decide⟩ }
    let live : LiveTable UInt64 := ((({} : LiveTable UInt64).insert 7 1).2.insert 3 2).2
    let table : LiveTable UInt64 := ((({} : LiveTable UInt64).insert 3 2).2.insert 7 1).2
    let requests : List Request := [⟨7, 24, 5, 5⟩, ⟨2, 16, 0, 5⟩]
    let allocator := Script.allocator { refuseOver := some 32 }
    let uses : List Use :=
      [.run (Script.allocator { faultAllocateAt := some 1 }) {} {}, .run allocator {} {}]
    (first.run allocator {} live).result = (second.run allocator {} table).result ∧
      (first.run allocator {} live).scheduler = (second.run allocator {} table).scheduler ∧
      replay requests.reverse allocator {} ⟨2, by decide⟩ 3 =
        replay requests allocator {} ⟨2, by decide⟩ 3 ∧
      ((third.after uses).after [.schedule [⟨2, 16, 0, 5⟩], .schedule [⟨7, 24, 5, 5⟩]]).run
        allocator {} {} = replay requests allocator {} ⟨2, by decide⟩ 3 := by
  intro events first second third live table requests allocator uses
  have hqueues : first.queue.toList.Perm second.queue.toList := by
    refine (Queue.toList_ofEvents_perm _).trans (.trans ?_ (Queue.toList_ofEvents_perm _).symm)
    exact events.reverse_perm.symm
  have hkeyed : Keyed first.queue.toList := by
    have hevents : Keyed events := by decide
    exact hevents.of_perm (Queue.toList_ofEvents_perm events).symm
  have htables : live.Alike table :=
    LiveTable.Alike.insert_comm (by simp [LiveTable.contains]) (by simp [LiveTable.contains])
      (by decide) 1 2
  have hempty : (third.after uses).queue = .empty := by
    refine @Scheduler.queue_eq_empty_of_run_ok _ _ _ allocator {} {}
      { eventsDispatched := 1, untrackedFrees := 1, finalTime := 200 } ?_
    simp [third, allocator, Scheduler.run, Scheduler.use, Plan.walk, Plan.step, Clock.advance,
      Plan.dispatchAllocate, Plan.dispatchFree, Plan.record, Script.allocator, Queue.ofEvents,
      LiveTable.get?, LiveTable.size, Progress.finalReport, Except.map]
  obtain ⟨hruns, hreplays, hrefilled⟩ := run_independent allocator {}
  obtain ⟨hresult, _, _, hscheduler⟩ := hruns first second live table rfl rfl hqueues hkeyed htables
  refine ⟨hresult, hscheduler, ?_, ?_⟩
  · exact hreplays requests requests.reverse ⟨2, by decide⟩ 3 (by decide) requests.reverse_perm.symm
  · exact hrefilled third uses [[⟨2, 16, 0, 5⟩], [⟨7, 24, 5, 5⟩]] requests hempty (by decide)
      (by decide)

end HeapReplay.Replay
