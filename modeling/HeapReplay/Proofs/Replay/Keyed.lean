import HeapReplay.Proofs.Replay.Key
import HeapReplay.Proofs.Replay.Order

namespace HeapReplay.Replay

/-- No two different events agree in time, request and kind. The order of replay then
    leaves no choice between them. -/
def Keyed (events : List Event) : Prop :=
  ∀ a ∈ events, ∀ b ∈ events, a.time = b.time → a.id = b.id → a.kind = b.kind → a = b

instance (events : List Event) : Decidable (Keyed events) :=
  inferInstanceAs (Decidable (∀ a ∈ events, ∀ b ∈ events,
    a.time = b.time → a.id = b.id → a.kind = b.kind → a = b))

theorem keyed_iff_injOn {events : List Event} :
    Keyed events ↔ Set.InjOn Event.key {event | event ∈ events} := by
  simp only [Keyed, Set.InjOn, Set.mem_ofPred_eq, Event.key_eq_iff]
  grind

theorem Keyed.of_perm {events others : List Event} (hkeyed : Keyed events)
    (hperm : events.Perm others) : Keyed others := by
  intro a ha b hb
  exact hkeyed a (hperm.mem_iff.2 ha) b (hperm.mem_iff.2 hb)

/-- Keyed events have one order of replay. -/
theorem Keyed.eq_of_perm {events others : List Event} (hkeyed : Keyed events)
    (hperm : events.Perm others) (hevents : events.Pairwise fun a b => a.le b)
    (hothers : others.Pairwise fun a b => a.le b) : events = others :=
  Event.eq_of_perm (keyed_iff_injOn.1 hkeyed) hperm (hevents.imp Event.le_iff_key_le.1)
    (hothers.imp Event.le_iff_key_le.1)

namespace Queue

theorem eq_of_toList_eq {a b : Queue} (hlist : a.toList = b.toList) : a = b := by
  cases a
  cases b
  cases hlist
  rfl

/-- Events in the order of replay are queued as they stand. -/
theorem toList_ofEvents_of_ordered {events : List Event}
    (hordered : events.Pairwise fun a b => a.le b) : (ofEvents events).toList = events :=
  List.mergeSort_of_pairwise hordered

theorem ofEvents_nil : ofEvents [] = empty :=
  eq_of_toList_eq (toList_ofEvents_of_ordered .nil)

/-- Queues with the same keyed events are the same queue. -/
theorem eq_of_perm {a b : Queue} (hkeyed : Keyed a.toList) (hperm : a.toList.Perm b.toList) :
    a = b :=
  eq_of_toList_eq (hkeyed.eq_of_perm hperm a.ordered b.ordered)

end Queue

/-- The events of requests with different ids are keyed. -/
theorem keyed_events {requests : List Request} (hids : (requests.map Request.id).Nodup) :
    Keyed (requests.flatMap Request.events) := by
  intro a ha b hb _ hid hkind
  have hmem : a ∈ eventsOf a.id (requests.flatMap Request.events) := by simp [eventsOf, ha]
  have hother : b ∈ eventsOf a.id (requests.flatMap Request.events) := by simp [eventsOf, hb, hid]
  rcases eventsOf_flatMap hids a.id with ⟨request, _, _, hevents⟩ | hnone
  · rw [hevents] at hmem hother
    simp only [Request.events, List.mem_cons, List.not_mem_nil, or_false] at hmem hother
    rcases hmem with rfl | rfl <;> rcases hother with rfl | rfl
    · rfl
    · cases hkind
    · cases hkind
    · rfl
  · rw [hnone] at hmem
    cases hmem

/-- Requests with keyed events are queued in one way, however they came to be queued. -/
theorem Queue.eq_schedule_of_perm {queue : Queue} {requests : List Request}
    (hkeyed : Keyed (requests.flatMap Request.events))
    (hperm : queue.toList.Perm (requests.flatMap Request.events)) :
    queue = empty.schedule requests :=
  eq_of_perm (hkeyed.of_perm hperm.symm) (hperm.trans (toList_schedule_perm empty requests).symm)

end HeapReplay.Replay
