import HeapReplay.Replay.Queue
import Mathlib.Data.List.Permutation

namespace HeapReplay.Replay

/-- The events of one request. -/
def eventsOf (id : RequestId) (events : List Event) : List Event :=
  events.filter fun event => event.id = id

theorem eventsOf_cons_self (event : Event) (events : List Event) :
    eventsOf event.id (event :: events) = event :: eventsOf event.id events :=
  List.filter_cons_of_pos (by simp)

theorem eventsOf_cons_of_ne {event : Event} {id : RequestId} (hne : id ≠ event.id)
    (events : List Event) : eventsOf id (event :: events) = eventsOf id events :=
  List.filter_cons_of_neg (by simpa using Ne.symm hne)

theorem eventsOf_events_self (request : Request) :
    eventsOf request.id request.events = request.events := by
  simp [eventsOf, Request.events]

theorem eventsOf_events_of_ne {request : Request} {id : RequestId} (hne : request.id ≠ id) :
    eventsOf id request.events = [] := by
  simp [eventsOf, Request.events, hne]

theorem eventsOf_flatMap_of_not_mem {requests : List Request} {id : RequestId}
    (hnot : id ∉ requests.map Request.id) : eventsOf id (requests.flatMap Request.events) = [] := by
  induction requests with
  | nil => rfl
  | cons request requests ih =>
    rw [List.map_cons, List.mem_cons, not_or] at hnot
    obtain ⟨hne, hnot⟩ := hnot
    rw [List.flatMap_cons, eventsOf, List.filter_append, ← eventsOf, ← eventsOf, ih hnot,
      eventsOf_events_of_ne (Ne.symm hne), List.append_nil]

/-- Of requests with different ids, one request has an id or none has. -/
theorem eventsOf_flatMap {requests : List Request} (hids : (requests.map Request.id).Nodup)
    (id : RequestId) :
    (∃ request ∈ requests, request.id = id ∧
        eventsOf id (requests.flatMap Request.events) = request.events) ∨
      eventsOf id (requests.flatMap Request.events) = [] := by
  induction requests with
  | nil => exact Or.inr rfl
  | cons request requests ih =>
    obtain ⟨hnot, hids⟩ := List.nodup_cons.1 hids
    have happend : eventsOf id ((request :: requests).flatMap Request.events) =
        eventsOf id request.events ++ eventsOf id (requests.flatMap Request.events) := by
      rw [List.flatMap_cons, eventsOf, List.filter_append, ← eventsOf, ← eventsOf]
    rw [happend]
    by_cases hid : request.id = id
    · subst hid
      left
      refine ⟨request, List.mem_cons_self, rfl, ?_⟩
      rw [eventsOf_events_self, eventsOf_flatMap_of_not_mem hnot, List.append_nil]
    · rw [eventsOf_events_of_ne hid, List.nil_append]
      cases ih hids with
      | inl hfound =>
        obtain ⟨found, hmem, hfoundId, hevents⟩ := hfound
        exact Or.inl ⟨found, List.mem_cons_of_mem _ hmem, hfoundId, hevents⟩
      | inr hnone => exact Or.inr hnone

/-- A request that does not end before it begins is freed after it is allocated, also
    when both happen at one time. -/
theorem not_free_le_allocate {request : Request} (htimes : request.birth ≤ request.death) :
    ¬ Event.le ⟨request.death, request.id, request.size, .free⟩
      ⟨request.birth, request.id, request.size, .allocate⟩ := by
  rw [Event.le_iff]
  rintro (hlt | ⟨_, hlt | ⟨_, hkind⟩⟩)
  · exact UInt64.not_lt.2 htimes hlt
  · exact UInt64.lt_irrefl _ hlt
  · cases hkind

/-- In the order of replay each request is allocated, then freed. -/
theorem eventsOf_schedule {requests : List Request} (hids : (requests.map Request.id).Nodup)
    (htimes : ∀ request ∈ requests, request.birth ≤ request.death) (id : RequestId) :
    (∃ request ∈ requests, request.id = id ∧
        eventsOf id (Queue.empty.schedule requests).toList = request.events) ∨
      eventsOf id (Queue.empty.schedule requests).toList = [] := by
  have hperm : (eventsOf id (Queue.empty.schedule requests).toList).Perm
      (eventsOf id (requests.flatMap Request.events)) :=
    (Queue.toList_schedule_perm Queue.empty requests).filter _
  have hordered : (eventsOf id (Queue.empty.schedule requests).toList).Pairwise fun a b => a.le b :=
    (Queue.empty.schedule requests).ordered.filter _
  cases eventsOf_flatMap hids id with
  | inr hnone =>
    rw [hnone] at hperm
    exact Or.inr hperm.eq_nil
  | inl hfound =>
    obtain ⟨request, hmem, hid, hevents⟩ := hfound
    left
    refine ⟨request, hmem, hid, ?_⟩
    rw [hevents, Request.events, List.perm_pair] at hperm
    cases hperm with
    | inl hright => exact hright
    | inr hwrong =>
      rw [hwrong] at hordered
      have hle := (List.pairwise_cons.1 hordered).1 _ List.mem_cons_self
      exact absurd hle (not_free_le_allocate (htimes request hmem))

theorem Event.time_le_of_le {a b : Event} (hle : a.le b) : a.time ≤ b.time := by
  rw [Event.le_iff] at hle
  cases hle with
  | inl hlt => exact UInt64.le_of_lt hlt
  | inr heq => exact UInt64.le_of_eq heq.1

theorem Queue.times_ascend (queue : Queue) : queue.toList.Pairwise fun a b => a.time ≤ b.time :=
  queue.ordered.imp Event.time_le_of_le

/-- A request has one event of each kind. -/
theorem countP_kind_schedule (requests : List Request) (kind : EventKind) :
    (Queue.empty.schedule requests).toList.countP (·.kind = kind) = requests.length := by
  rw [(Queue.toList_schedule_perm Queue.empty requests).countP_eq]
  simp only [Queue.empty, List.nil_append]
  induction requests with
  | nil => rfl
  | cons request requests ih => cases kind <;> simp [Request.events, ih]

end HeapReplay.Replay
