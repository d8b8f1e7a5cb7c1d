import HeapReplay.Replay.Event

namespace HeapReplay.Replay

/-- Events waiting to be replayed, in the order of replay. -/
structure Queue where
  toList : List Event
  ordered : toList.Pairwise fun a b => a.le b
  deriving DecidableEq, Repr

namespace Queue

def empty : Queue := ⟨[], .nil⟩

/-- The queue of events in any order. -/
def ofEvents (events : List Event) : Queue :=
  ⟨events.mergeSort Event.le, List.pairwise_mergeSort Event.le_trans Event.le_total events⟩

/-- All events of two queues. -/
def merge (a b : Queue) : Queue :=
  ⟨a.toList.merge b.toList Event.le,
    List.pairwise_merge Event.le_trans Event.le_total _ _ a.ordered b.ordered⟩

/-- Adds an event. -/
def push (queue : Queue) (event : Event) : Queue := queue.merge (ofEvents [event])

/-- Adds both events of each request. -/
def schedule (queue : Queue) (requests : List Request) : Queue :=
  queue.merge (ofEvents (requests.flatMap Request.events))

/-- The number of events. -/
def size (queue : Queue) : Nat := queue.toList.length

/-- The first event in the order of replay. -/
def peek? (queue : Queue) : Option Event := queue.toList.head?

/-- Takes the first event in the order of replay. -/
def pop? : Queue → Option (Event × Queue)
  | ⟨[], _⟩ => none
  | ⟨first :: rest, ordered⟩ => some (first, ⟨rest, ordered.tail⟩)

theorem toList_ofEvents_perm (events : List Event) : (ofEvents events).toList.Perm events :=
  events.mergeSort_perm Event.le

theorem toList_merge_perm (a b : Queue) : (a.merge b).toList.Perm (a.toList ++ b.toList) :=
  List.merge_perm_append Event.le

theorem toList_push_perm (queue : Queue) (event : Event) :
    (queue.push event).toList.Perm (event :: queue.toList) := by
  refine (toList_merge_perm _ _).trans ?_
  exact ((toList_ofEvents_perm [event]).append_left _).trans (List.perm_append_singleton _ _)

theorem toList_schedule_perm (queue : Queue) (requests : List Request) :
    (queue.schedule requests).toList.Perm
      (queue.toList ++ requests.flatMap Request.events) := by
  refine (toList_merge_perm _ _).trans ?_
  exact (toList_ofEvents_perm _).append_left _

theorem toList_eq_of_pop? {queue rest : Queue} {first : Event}
    (h : queue.pop? = some (first, rest)) : queue.toList = first :: rest.toList := by
  obtain ⟨_ | ⟨event, events⟩, ordered⟩ := queue
  · cases h
  · cases h
    rfl

theorem pop?_eq_none_iff {queue : Queue} : queue.pop? = none ↔ queue.toList = [] := by
  obtain ⟨_ | ⟨event, events⟩, ordered⟩ := queue <;> simp [pop?]

end Queue
end HeapReplay.Replay
