import HeapReplay.Proofs.Replay.EventHeap
import HeapReplay.Proofs.Replay.Keyed

namespace HeapReplay.Replay.Queue

section Requests

variable (requests : List Request) (uses : List Use)

/-- What was added to a queue of requests is taken or still queued. -/
theorem popped_add_contents :
    (form.popped (empty.schedule requests) uses : Multiset Event) +
        (form.after (empty.schedule requests) uses).contents =
      (requests.flatMap Request.events ++ uses.flatMap Use.pushed : List Event) := by
  refine (form.contents_after _ uses).trans ?_
  rw [← Multiset.coe_add]
  refine congrArg (· + _) ((contents_schedule empty requests).trans ?_)
  exact zero_add _

/-- Requests in a binary heap and in the order of replay are the same events. -/
theorem contents_schedule_eq_ofRequests :
    (empty.schedule requests).contents = (EventHeap.ofRequests requests).contents := by
  rw [EventHeap.contents_ofRequests, contents_schedule]
  exact zero_add _

end Requests

theorem schedule_nil (queue : Queue) : queue.schedule [] = queue :=
  eq_of_toList_eq (by simp [schedule, merge, ofEvents])

/-- After any uses, a queue that starts with the events of requests, or empty with no
    requests, holds the events that were added and not taken, and counts them. It takes
    one copy of an event with the least key, so that draining it yields its events in the
    order of their keys. When events with one key are the same event, this leaves no
    choice: queues with the same events drain alike, and a binary heap, in which the order
    is turned around, answers all uses as the queue does. -/
theorem least_first_any_use (requests : List Request) (uses : List Use) :
    let start := empty.schedule requests
    let queue := form.after start uses
    let pushed := requests.flatMap Request.events ++ uses.flatMap Use.pushed
    let popped := form.popped start uses
    let heap := EventHeap.form.after (EventHeap.ofRequests requests) uses
    ((popped : Multiset Event) ≤ pushed ∧ queue.contents = (pushed : Multiset Event) - popped ∧
      queue.size = queue.contents.card) ∧
    (Next queue.contents queue.peek? ∧ Next queue.contents (queue.pop?.map Prod.fst) ∧
      ∀ first rest, queue.pop? = some (first, rest) →
        rest.contents = queue.contents.erase first) ∧
    ((form.drain queue : Multiset Event) = queue.contents ∧
      (form.drain queue).Pairwise fun a b => a.key ≤ b.key) ∧
    (Keyed pushed →
      (∀ other : Queue, other.contents = queue.contents →
        form.drain other = form.drain queue) ∧
      EventHeap.form.answers (EventHeap.ofRequests requests) uses = form.answers start uses ∧
      heap.contents = queue.contents ∧ heap.size = queue.size ∧
      EventHeap.form.drain heap = form.drain queue) := by
  intro start queue pushed popped heap
  have hpushed : (popped : Multiset Event) + queue.contents = pushed :=
    popped_add_contents requests uses
  refine ⟨⟨?_, ?_, queue.card_contents.symm⟩,
    ⟨queue.next_peek?, form.next_pop? queue, ?_⟩, form.drain_spec queue, ?_⟩
  · rw [← hpushed]
    exact Multiset.le_add_right _ _
  · rw [← hpushed, add_tsub_cancel_left]
  · intro first rest hpop
    rw [contents_of_pop? hpop, Multiset.erase_cons_head]
  · intro hkeyed
    have hkeys : Set.InjOn Event.key {event | event ∈ (pushed : Multiset Event)} :=
      keyed_iff_injOn.1 hkeyed
    have hsub : ∀ event ∈ queue.contents, event ∈ (pushed : Multiset Event) := by
      intro event hevent
      rw [← hpushed]
      exact Multiset.mem_add.2 (.inr hevent)
    have hqueued : Set.InjOn Event.key {event | event ∈ queue.contents} := hkeys.mono hsub
    have hstart : form.contents start + (uses.flatMap Use.pushed : List Event) = pushed :=
      (form.contents_after start uses).symm.trans hpushed
    obtain ⟨hanswers, hcontents⟩ : form.answers start uses =
          EventHeap.form.answers (EventHeap.ofRequests requests) uses ∧
        queue.contents = heap.contents :=
      Form.answers_alike uses (by rwa [hstart]) (contents_schedule_eq_ofRequests requests)
    refine ⟨?_, hanswers.symm, hcontents.symm, ?_, (Form.drain_alike hqueued hcontents).symm⟩
    · intro other hother
      exact (Form.drain_alike hqueued hother.symm).symm
    · rw [← heap.card_contents, ← queue.card_contents, hcontents]

/-- Of three events at one time the lower id is taken first, whatever was queued first. An
    earlier event that is pushed twice behind it is taken twice, and what is left is taken
    by its kind. -/
theorem least_first_any_use_equal_times :
    let early : Event := ⟨4, 2, 7, .allocate⟩
    let uses : List Use := [.schedule ⟨1, 16, 5, 5⟩, .schedule ⟨0, 8, 5, 7⟩, .pop, .push early,
      .push early, .peek, .pop, .pop, .pop, .pop]
    Keyed (uses.flatMap Use.pushed) ∧
      form.answers empty uses =
        [none, none, some ⟨5, 0, 8, .allocate⟩, none, none, some early, some early, some early,
          some ⟨5, 1, 16, .allocate⟩, some ⟨5, 1, 16, .free⟩] := by
  intro early uses
  have hkeyed : Keyed (uses.flatMap Use.pushed) := by
    decide
  obtain ⟨_, _, _, halike⟩ := least_first_any_use [] uses
  obtain ⟨_, hanswers, _⟩ := halike hkeyed
  rw [schedule_nil] at hanswers
  refine ⟨hkeyed, hanswers.symm.trans ?_⟩
  decide +kernel

end HeapReplay.Replay.Queue
