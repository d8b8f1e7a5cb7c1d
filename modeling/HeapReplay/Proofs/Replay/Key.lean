import HeapReplay.Replay.Queue
import Mathlib.Data.Multiset.AddSub
import Mathlib.Data.Prod.Lex
import Mathlib.Data.Set.Function

namespace HeapReplay.Replay

/-- At one time and for one request, allocating is first and freeing second. -/
def EventKind.rank : EventKind → ℕ
  | .allocate => 0
  | .free => 1

theorem EventKind.le_iff_rank_le {a b : EventKind} : a.le b ↔ a.rank ≤ b.rank := by
  cases a <;> cases b <;> decide

theorem EventKind.rank_injective : Function.Injective rank := by
  intro a b hrank
  cases a <;> cases b <;> simp_all [rank]

namespace Event

/-- What the order of replay looks at: the time, then the request, then the kind. -/
def key (event : Event) : ℕ ×ₗ ℕ ×ₗ ℕ :=
  toLex (event.time.toNat, toLex (event.id.toNat, event.kind.rank))

theorem le_iff_key_le {a b : Event} : a.le b ↔ a.key ≤ b.key := by
  simp only [le_iff, key, Prod.Lex.toLex_le_toLex, EventKind.le_iff_rank_le,
    UInt64.lt_iff_toNat_lt, UInt64.toNat_inj]

theorem key_eq_iff {a b : Event} :
    a.key = b.key ↔ a.time = b.time ∧ a.id = b.id ∧ a.kind = b.kind := by
  simp only [key, toLex_inj, Prod.mk.injEq, UInt64.toNat_inj, EventKind.rank_injective.eq_iff]

/-- Events with different keys have one order by their keys. -/
theorem eq_of_perm {events others : List Event}
    (hkeys : Set.InjOn key {event | event ∈ events}) (hperm : events.Perm others)
    (hevents : events.Pairwise fun a b => a.key ≤ b.key)
    (hothers : others.Pairwise fun a b => a.key ≤ b.key) : events = others := by
  refine List.Perm.eq_of_pairwise ?_ hevents hothers hperm
  intro a b ha hb hab hba
  exact hkeys ha (hperm.mem_iff.2 hb) (le_antisymm hab hba)

end Event

/-- Which of the events in a queue is the next one: one with the least key, and none of
    no events. -/
inductive Next (events : Multiset Event) : Option Event → Prop
  | none (hempty : events = 0) : Next events none
  | some {first : Event} (hmem : first ∈ events)
      (hleast : ∀ event ∈ events, first.key ≤ event.key) : Next events (some first)

theorem Next.eq_none_iff {events : Multiset Event} {next : Option Event}
    (hnext : Next events next) : next = .none ↔ events = 0 := by
  cases hnext with
  | none hempty => simp [hempty]
  | some hmem hleast =>
    simp only [reduceCtorEq, false_iff]
    rintro rfl
    exact Multiset.notMem_zero _ hmem

/-- Of events with different keys one is the next one. -/
theorem Next.unique {events : Multiset Event}
    (hkeys : Set.InjOn Event.key {event | event ∈ events}) {a b : Option Event}
    (ha : Next events a) (hb : Next events b) : a = b := by
  cases ha with
  | none hempty => exact (hb.eq_none_iff.2 hempty).symm
  | some hmem hleast =>
    cases hb with
    | none hempty =>
      rw [hempty] at hmem
      cases Multiset.notMem_zero _ hmem
    | some hother hleastOther =>
      rw [hkeys hmem hother (le_antisymm (hleast _ hother) (hleastOther _ hmem))]

namespace Queue

/-- The events of a queue, each as often as it is queued. -/
def contents (queue : Queue) : Multiset Event := queue.toList

theorem card_contents (queue : Queue) : queue.contents.card = queue.size := rfl

theorem contents_push (queue : Queue) (event : Event) :
    (queue.push event).contents = event ::ₘ queue.contents :=
  Multiset.coe_eq_coe.2 (toList_push_perm queue event)

theorem contents_schedule (queue : Queue) (requests : List Request) :
    (queue.schedule requests).contents = queue.contents + requests.flatMap Request.events :=
  Multiset.coe_eq_coe.2 (toList_schedule_perm queue requests)

theorem contents_of_pop? {queue rest : Queue} {first : Event}
    (hpop : queue.pop? = some (first, rest)) : queue.contents = first ::ₘ rest.contents := by
  rw [contents, toList_eq_of_pop? hpop]
  rfl

theorem fst_pop? (queue : Queue) : queue.pop?.map Prod.fst = queue.peek? := by
  obtain ⟨_ | ⟨event, events⟩, ordered⟩ := queue <;> rfl

theorem next_peek? (queue : Queue) : Next queue.contents queue.peek? := by
  obtain ⟨_ | ⟨first, rest⟩, ordered⟩ := queue
  · exact .none rfl
  · refine .some (Multiset.mem_coe.2 List.mem_cons_self) ?_
    intro event hevent
    rcases List.mem_cons.1 (Multiset.mem_coe.1 hevent) with hself | hrest
    · rw [hself]
    · exact Event.le_iff_key_le.1 (List.rel_of_pairwise_cons ordered hrest)

end Queue
end HeapReplay.Replay
