import HeapReplay.Proofs.Replay.Keyed
import HeapReplay.Proofs.Replay.Phase
import Mathlib.Data.Finset.Card
import Mathlib.Data.Finset.Lattice.Fold
import Mathlib.Order.Lattice.Nat

namespace HeapReplay.Heap

variable {Handle : Type} {id : RequestId}

/-- Whether an allocation for a request was answered by a handle. -/
def Exchange.grants (id : RequestId) : Exchange Handle → Bool
  | ⟨.allocate other _, .ok (some _)⟩ => other = id
  | _ => false

theorem id?_of_grants (exchange : Exchange Handle) (hgrants : exchange.grants id) :
    exchange.id? = some id := by
  obtain ⟨_ | _ | _, _ | _ | _⟩ := exchange <;> simp_all [Exchange.grants, Exchange.id?]

/-- Whether a request was granted is told by the exchanges about it. -/
theorem any_grants_exchangesOf (id : RequestId) (log : List (Exchange Handle)) :
    (exchangesOf id log).any (Exchange.grants id) = log.any (Exchange.grants id) := by
  rw [exchangesOf, List.any_filter]
  refine List.any_congr rfl ?_
  intro exchange
  rw [Bool.and_eq_right_iff_imp, decide_eq_true_eq]
  exact id?_of_grants exchange

end HeapReplay.Heap

namespace HeapReplay.Replay

open Heap

variable {State Handle : Type}

/-- The event at which a request is allocated. -/
def Request.allocation (request : Request) : Event :=
  ⟨request.birth, request.id, request.size, .allocate⟩

/-- The event at which a request is freed. -/
def Request.release (request : Request) : Event :=
  ⟨request.death, request.id, request.size, .free⟩

/-- The requests that are granted in a log. -/
def granted (requests : List Request) (log : List (Exchange Handle)) : Finset Request :=
  {request ∈ requests.toFinset | log.any (Exchange.grants request.id)}

/-- The requests that are live when one of them has just been allocated: those allocated no later
    in the order of replay, and freed later. -/
def crowd (granted : Finset Request) (newest : Request) : Finset Request :=
  {request ∈ granted | request.allocation.key ≤ newest.allocation.key ∧
    newest.allocation.key < request.release.key}

/-- The largest number of requests that are live at a time. -/
def mostLive (granted : Finset Request) : Nat :=
  granted.sup fun newest => (crowd granted newest).card

section Crowd

variable {requests : List Request} {log more : List (Exchange Handle)} {request newest : Request}
  {crowded : Finset Request}

theorem mem_granted : request ∈ granted requests log ↔
    request ∈ requests ∧ log.any (Exchange.grants request.id) := by
  rw [granted, Finset.mem_filter, List.mem_toFinset]

theorem granted_append_of_none (hmore : ∀ id, more.any (Exchange.grants id) = false) :
    granted requests (log ++ more) = granted requests log := by
  ext request
  rw [mem_granted, mem_granted, List.any_append, hmore, Bool.or_false]

/-- A grant adds its request. -/
theorem granted_append_of_grant (log : List (Exchange Handle))
    (hids : (requests.map Request.id).Nodup) (hmem : newest ∈ requests)
    (hmore : ∀ id, more.any (Exchange.grants id) = decide (newest.id = id)) :
    granted requests (log ++ more) = insert newest (granted requests log) := by
  ext request
  rw [mem_granted, Finset.mem_insert, mem_granted, List.any_append, hmore, Bool.or_eq_true,
    decide_eq_true_eq]
  constructor
  · rintro ⟨hrequest, hearlier | hnewest⟩
    · exact .inr ⟨hrequest, hearlier⟩
    · exact .inl (List.inj_on_of_nodup_map hids hrequest hmem hnewest.symm)
  · rintro (rfl | ⟨hrequest, hearlier⟩)
    · exact ⟨hmem, .inr rfl⟩
    · exact ⟨hrequest, .inl hearlier⟩

/-- A request that comes after all others changes no number but its own. -/
theorem mostLive_insert
    (hlatest : ∀ request ∈ crowded, request.allocation.key < newest.allocation.key) :
    mostLive (insert newest crowded) =
      max (mostLive crowded) (crowd (insert newest crowded) newest).card := by
  have hsame : ∀ request ∈ crowded,
      crowd (insert newest crowded) request = crowd crowded request := by
    intro request hrequest
    rw [crowd, Finset.filter_insert, if_neg]
    · rfl
    · exact fun h => not_le_of_gt (hlatest request hrequest) h.1
  rw [mostLive, Finset.sup_insert, max_comm, mostLive]
  refine congrArg (max · _) (Finset.sup_congr rfl ?_)
  intro request hrequest
  rw [hsame request hrequest]

end Crowd

section Schedule

variable {requests : List Request} {request : Request} {done rest : List Event}
  {event other : Event}

theorem mem_schedule : event ∈ (Queue.empty.schedule requests).toList ↔
    ∃ request ∈ requests, event = request.allocation ∨ event = request.release := by
  rw [(Queue.toList_schedule_perm Queue.empty requests).mem_iff, Queue.empty, List.nil_append]
  simp only [List.mem_flatMap, Request.events, List.mem_cons, List.not_mem_nil, or_false,
    Request.allocation, Request.release]

/-- A request is freed by one event. -/
theorem eq_release_of_free (hids : (requests.map Request.id).Nodup) (hrequest : request ∈ requests)
    (hmem : event ∈ (Queue.empty.schedule requests).toList) (hid : event.id = request.id)
    (hkind : event.kind = .free) : event = request.release := by
  obtain ⟨found, hfound, rfl | rfl⟩ := mem_schedule.1 hmem
  · cases hkind
  · rw [List.inj_on_of_nodup_map hids hfound hrequest hid]

/-- No two events of different requests have one place in the order of replay. -/
theorem schedule_strict (hids : (requests.map Request.id).Nodup) :
    (Queue.empty.schedule requests).toList.Pairwise fun a b => a.key < b.key := by
  have hperm := Queue.toList_schedule_perm Queue.empty requests
  have hkeyed := (keyed_events hids).of_perm hperm.symm
  have hnodup : (Queue.empty.schedule requests).toList.Nodup := by
    rw [hperm.nodup_iff, Queue.empty, List.nil_append, List.nodup_flatMap]
    refine ⟨fun request _ => by simp [Request.events], (List.pairwise_map.1 hids).imp ?_⟩
    intro a b hne event ha hb
    simp only [Request.events, List.mem_cons, List.not_mem_nil, or_false] at ha hb
    rcases ha with rfl | rfl <;> rcases hb with hb | hb <;> simp_all
  have hordered := (Queue.empty.schedule requests).ordered
  refine (hordered.and hnodup).imp_of_mem ?_
  rintro a b ha hb ⟨hle, hne⟩
  refine lt_of_le_of_ne (Event.le_iff_key_le.1 hle) ?_
  intro hkey
  exact hne (keyed_iff_injOn.1 hkeyed ha hb hkey)

/-- The events behind one of them are those that come later in the order of replay. -/
theorem mem_rest_iff (hids : (requests.map Request.id).Nodup)
    (hsplit : done ++ event :: rest = (Queue.empty.schedule requests).toList)
    (hmem : other ∈ (Queue.empty.schedule requests).toList) :
    other ∈ rest ↔ event.key < other.key := by
  have hstrict := schedule_strict hids
  rw [← hsplit] at hstrict hmem
  obtain ⟨-, hlater, hearlier⟩ := List.pairwise_append.1 hstrict
  constructor
  · exact (List.pairwise_cons.1 hlater).1 other
  · intro hlt
    rcases List.mem_append.1 hmem with hdone | hbehind
    · exact absurd hlt (not_lt_of_gt (hearlier other hdone event List.mem_cons_self))
    · rcases List.mem_cons.1 hbehind with rfl | hrest
      · exact absurd hlt (lt_irrefl _)
      · exact hrest

/-- The events in front of one of them are those that come earlier. -/
theorem lt_of_not_mem_behind (hids : (requests.map Request.id).Nodup)
    (hsplit : done ++ event :: rest = (Queue.empty.schedule requests).toList)
    (hmem : other ∈ (Queue.empty.schedule requests).toList) (hnot : other ∉ event :: rest) :
    other.key < event.key := by
  have hstrict := schedule_strict hids
  rw [← hsplit] at hstrict hmem
  have hdone := (List.mem_append.1 hmem).resolve_right hnot
  exact (List.pairwise_append.1 hstrict).2.2 other hdone event List.mem_cons_self

end Schedule

section Phase

variable {id : RequestId} {events : List Event} {log : List (Exchange Handle)}
  {live : Option Handle}

/-- A request is live when it has been granted and its free is still to come. -/
theorem Phase.isSome_iff (hphase : Phase id events log live) :
    live.isSome ↔ log.any (Exchange.grants id) ∧ ∃ event ∈ events, event.kind = .free := by
  cases hphase <;> simp [Exchange.grants]

theorem Phase.kind_of_grants (hphase : Phase id events log live)
    (hgrants : log.any (Exchange.grants id)) : ∀ event ∈ events, event.kind = .free := by
  cases hphase <;> simp_all [Exchange.grants]

end Phase

end HeapReplay.Replay
