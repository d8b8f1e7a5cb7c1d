import HeapReplay.Proofs.Replay.BinaryHeap
import HeapReplay.Proofs.Replay.QueueForm

namespace HeapReplay.Replay

/-- An event in a heap that has a largest entry at the root. The order of replay is turned
    around, so that the event at the root is the first one to replay. -/
structure Queued where
  event : Event
  deriving DecidableEq, Repr

namespace Queued

instance : LE Queued := ⟨fun a b => b.event.le a.event⟩

instance : DecidableLE Queued := fun a b => inferInstanceAs (Decidable (b.event.le a.event))

theorem le_iff_key_le {a b : Queued} : a ≤ b ↔ b.event.key ≤ a.event.key := Event.le_iff_key_le

instance : Std.IsLinearPreorder Queued where
  le_refl a := le_iff_key_le.2 le_rfl
  le_trans a b c hab hbc := le_iff_key_le.2 ((le_iff_key_le.1 hbc).trans (le_iff_key_le.1 hab))
  le_total a b := by simpa only [le_iff_key_le] using le_total b.event.key a.event.key

end Queued

/-- Events in a binary heap. -/
structure EventHeap where
  heap : BinaryHeap Queued

namespace EventHeap

def empty : EventHeap := ⟨.empty⟩

def push (queue : EventHeap) (event : Event) : EventHeap := ⟨queue.heap.push ⟨event⟩⟩

/-- Adds both events of a request. -/
def schedule (queue : EventHeap) (request : Request) : EventHeap :=
  request.events.foldl push queue

/-- The queue of requests, which are added one after the other. -/
def ofRequests (requests : List Request) : EventHeap := requests.foldl schedule empty

def size (queue : EventHeap) : Nat := queue.heap.size

def peek? (queue : EventHeap) : Option Event := queue.heap.peek?.map Queued.event

def pop? (queue : EventHeap) : Option (Event × EventHeap) :=
  queue.heap.pop?.map fun (first, rest) => (first.event, ⟨rest⟩)

/-- The events of a queue, each as often as it is queued. -/
def contents (queue : EventHeap) : Multiset Event := queue.heap.contents.map Queued.event

theorem card_contents (queue : EventHeap) : queue.contents.card = queue.size := by
  rw [contents, Multiset.card_map, queue.heap.card_contents, size]

theorem contents_push (queue : EventHeap) (event : Event) :
    (queue.push event).contents = event ::ₘ queue.contents := by
  rw [contents, push, BinaryHeap.contents_push, Multiset.map_cons, contents]

theorem contents_foldl_push (queue : EventHeap) (events : List Event) :
    (events.foldl push queue).contents = queue.contents + events := by
  induction events generalizing queue with
  | nil => exact (add_zero _).symm
  | cons event events ih =>
    rw [List.foldl_cons, ih, contents_push, ← Multiset.cons_coe, Multiset.cons_add,
      Multiset.add_cons]

theorem contents_schedule (queue : EventHeap) (request : Request) :
    (queue.schedule request).contents = queue.contents + request.events :=
  contents_foldl_push queue request.events

theorem contents_ofRequests (requests : List Request) :
    (ofRequests requests).contents = requests.flatMap Request.events := by
  have hfoldl : ofRequests requests = (requests.flatMap Request.events).foldl push empty :=
    List.foldl_flatMap.symm
  rw [hfoldl, contents_foldl_push]
  exact zero_add _

theorem next_peek? (queue : EventHeap) : Next queue.contents queue.peek? := by
  cases hpeek : queue.heap.peek? with
  | none =>
    rw [peek?, hpeek]
    refine .none ?_
    rw [contents, BinaryHeap.peek?_eq_none_iff.1 hpeek, Multiset.map_zero]
  | some first =>
    obtain ⟨hmem, hlargest⟩ := BinaryHeap.le_of_peek? hpeek
    rw [peek?, hpeek]
    refine .some (Multiset.mem_map_of_mem _ hmem) ?_
    intro event hevent
    obtain ⟨queued, hqueued, rfl⟩ := Multiset.mem_map.1 hevent
    exact Queued.le_iff_key_le.1 (hlargest queued hqueued)

theorem fst_pop? (queue : EventHeap) : queue.pop?.map Prod.fst = queue.peek? := by
  rw [peek?, ← BinaryHeap.fst_pop?, pop?, Option.map_map, Option.map_map]
  rfl

theorem contents_of_pop? {queue rest : EventHeap} {first : Event}
    (hpop : queue.pop? = some (first, rest)) : queue.contents = first ::ₘ rest.contents := by
  obtain ⟨⟨queued, heap⟩, hheap, hfirst⟩ := Option.map_eq_some_iff.1 hpop
  cases hfirst
  rw [contents, BinaryHeap.contents_of_pop? hheap, Multiset.map_cons, contents]

/-- Events in a binary heap, as a form of queue. -/
def form : Queue.Form EventHeap where
  contents := contents
  push := push
  schedule := schedule
  peek? := peek?
  pop? := pop?
  contents_push := contents_push
  contents_schedule := contents_schedule
  next_peek? := next_peek?
  fst_pop? := fst_pop?
  contents_of_pop? := contents_of_pop?

end EventHeap
end HeapReplay.Replay
