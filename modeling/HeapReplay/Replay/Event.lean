import HeapReplay.Heap.Allocator

namespace HeapReplay.Replay

/-- An allocation request: a size, the time at which it is made and the time at
    which its block is freed. -/
structure Request where
  id : RequestId
  size : UInt64
  birth : UInt64
  death : UInt64
  deriving DecidableEq, Repr

def Request.lifetime (request : Request) : UInt64 := request.death - request.birth

inductive EventKind where
  | allocate
  | free
  deriving DecidableEq, Repr

def EventKind.name : EventKind → String
  | .allocate => "Allocate"
  | .free => "Free"

/-- One half of a request: its block is allocated or freed. -/
structure Event where
  time : UInt64
  id : RequestId
  size : UInt64
  kind : EventKind
  deriving DecidableEq, Repr

/-- The two events of a request. -/
def Request.events (request : Request) : List Event :=
  [⟨request.birth, request.id, request.size, .allocate⟩,
    ⟨request.death, request.id, request.size, .free⟩]

/-- At one time and for one request, allocating comes before freeing. -/
def EventKind.le : EventKind → EventKind → Bool
  | .free, .allocate => false
  | _, _ => true

/-- The order of replay: by time, then by request, then by kind. -/
def Event.le (a b : Event) : Bool :=
  if a.time = b.time then
    if a.id = b.id then a.kind.le b.kind else a.id < b.id
  else a.time < b.time

theorem Event.le_iff {a b : Event} :
    a.le b ↔ a.time < b.time ∨ a.time = b.time ∧
      (a.id < b.id ∨ a.id = b.id ∧ a.kind.le b.kind) := by
  unfold Event.le
  by_cases ht : a.time = b.time
  · by_cases hi : a.id = b.id
    · simp [ht, hi]
    · simp [ht, hi]
  · simp [ht]

theorem EventKind.le_trans {a b c : EventKind} (hab : a.le b) (hbc : b.le c) : a.le c := by
  cases a <;> cases b <;> cases c <;> simp_all [EventKind.le]

theorem EventKind.le_total (a b : EventKind) : a.le b ∨ b.le a := by
  cases a <;> cases b <;> simp [EventKind.le]

theorem Event.le_trans (a b c : Event) (hab : a.le b) (hbc : b.le c) : a.le c := by
  simp only [Event.le_iff, UInt64.lt_iff_toNat_lt, ← UInt64.toNat_inj] at hab hbc ⊢
  have kinds := EventKind.le_trans (a := a.kind) (b := b.kind) (c := c.kind)
  grind

theorem Event.le_total (a b : Event) : a.le b || b.le a := by
  simp only [Bool.or_eq_true, Event.le_iff, UInt64.lt_iff_toNat_lt, ← UInt64.toNat_inj]
  have kinds := EventKind.le_total a.kind b.kind
  grind

end HeapReplay.Replay
