import HeapReplay.Proofs.Replay.Keyed
import HeapReplay.Proofs.Replay.Walk

namespace HeapReplay.Replay

open Heap

/-- What a scheduler is used for: it takes requests, or it runs, with any allocator and
    any table. -/
inductive Use : Type 1
  | schedule (requests : List Request)
  | run {State Handle : Type} (allocator : Allocator State Handle) (state : State)
      (live : LiveTable Handle)

/-- The events that a use adds to the queue. -/
def Use.events : Use → List Event
  | .schedule requests => requests.flatMap Request.events
  | .run _ _ _ => []

namespace Scheduler

/-- The scheduler behind a use. -/
def use (scheduler : Scheduler) : Use → Scheduler
  | .schedule requests => scheduler.schedule requests
  | .run allocator state live => (scheduler.run allocator state live).scheduler

/-- The scheduler behind uses. -/
def after (scheduler : Scheduler) (uses : List Use) : Scheduler := uses.foldl use scheduler

/-- The events that a use takes from the front of the queue. -/
def taken (scheduler : Scheduler) (use : Use) : List Event :=
  match use with
  | .schedule _ => []
  | .run allocator state live =>
    scheduler.queue.toList.take
      (scheduler.queue.size - (scheduler.run allocator state live).scheduler.queue.size)

/-- The events that uses take, in the order in which they are taken. -/
def takenBy (scheduler : Scheduler) : List Use → List Event
  | [] => []
  | use :: uses => scheduler.taken use ++ (scheduler.use use).takenBy uses

section Run

variable {State Handle : Type} (scheduler : Scheduler) (allocator : Allocator State Handle)
  (state : State) (live : LiveTable Handle)

/-- What a run leaves queued is the end of what was queued. -/
theorem exists_append_queue_run :
    ∃ front, scheduler.queue.toList =
      front ++ (scheduler.run allocator state live).scheduler.queue.toList := by
  rcases hwalk : (scheduler.plan allocator).walk { allocator := state, live }
    scheduler.queue.toList with ⟨result, final, rest⟩
  obtain ⟨front, hfront⟩ := Plan.suffix_of_walk hwalk
  exact ⟨front, by rw [queue_of_walk hwalk, hfront]⟩

variable {scheduler allocator state live}

theorem queue_eq_empty_of_run_ok {report : Report}
    (hresult : (scheduler.run allocator state live).result = .ok report) :
    (scheduler.run allocator state live).scheduler.queue = .empty := by
  obtain ⟨final, _, hwalk⟩ := walk_of_run_ok hresult
  exact Queue.eq_of_toList_eq (queue_of_walk hwalk)

theorem taken_eq_of_append {front : List Event}
    (hfront : scheduler.queue.toList =
      front ++ (scheduler.run allocator state live).scheduler.queue.toList) :
    scheduler.taken (.run allocator state live) = front := by
  have hsize : scheduler.queue.size -
      (scheduler.run allocator state live).scheduler.queue.size = front.length := by
    rw [Queue.size, Queue.size, hfront, List.length_append, Nat.add_sub_cancel]
  rw [taken, hsize, hfront, List.take_left]

end Run

/-- A use takes events from the queue, adds events to it, and leaves all others. -/
theorem taken_append_queue (scheduler : Scheduler) (use : Use) :
    (scheduler.taken use ++ (scheduler.use use).queue.toList).Perm
      (scheduler.queue.toList ++ use.events) := by
  cases use with
  | schedule requests => exact Queue.toList_schedule_perm scheduler.queue requests
  | run allocator state live =>
    obtain ⟨front, hfront⟩ := exists_append_queue_run scheduler allocator state live
    rw [taken_eq_of_append hfront, Use.events, List.append_nil, use, ← hfront]

/-- Each event that was queued or scheduled was taken once or is queued still. -/
theorem takenBy_append_queue (scheduler : Scheduler) (uses : List Use) :
    (scheduler.takenBy uses ++ (scheduler.after uses).queue.toList).Perm
      (scheduler.queue.toList ++ uses.flatMap Use.events) := by
  induction uses generalizing scheduler with
  | nil => simp [takenBy, after]
  | cons use uses ih =>
    have hfirst := taken_append_queue scheduler use
    have hlater := ih (scheduler.use use)
    rw [takenBy, List.append_assoc, List.flatMap_cons, ← List.append_assoc scheduler.queue.toList]
    -- What the later uses start from is what the first one left.
    refine (hlater.append_left _).trans ?_
    rw [← List.append_assoc]
    exact hfirst.append_right _

end Scheduler
end HeapReplay.Replay
