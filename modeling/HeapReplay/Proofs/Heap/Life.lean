import HeapReplay.Proofs.Heap.Session
import Mathlib.Data.List.Induction

namespace HeapReplay.Heap

variable {Handle : Type} {id : RequestId} {log more earlier later : List (Exchange Handle)}

/-- The exchanges about one request. -/
def exchangesOf (id : RequestId) (log : List (Exchange Handle)) : List (Exchange Handle) :=
  log.filter fun exchange => exchange.id? = some id

theorem exchangesOf_append (id : RequestId) (log more : List (Exchange Handle)) :
    exchangesOf id (log ++ more) = exchangesOf id log ++ exchangesOf id more :=
  List.filter_append ..

theorem exchangesOf_concat_self {exchange : Exchange Handle} (hid : exchange.id? = some id)
    (log : List (Exchange Handle)) :
    exchangesOf id (log ++ [exchange]) = exchangesOf id log ++ [exchange] := by
  simp [exchangesOf, hid]

theorem exchangesOf_concat_of_ne {exchange : Exchange Handle} (hid : exchange.id? ≠ some id)
    (log : List (Exchange Handle)) : exchangesOf id (log ++ [exchange]) = exchangesOf id log := by
  simp [exchangesOf, hid]

theorem mem_exchangesOf {exchange : Exchange Handle} :
    exchange ∈ exchangesOf id log ↔ exchange ∈ log ∧ exchange.id? = some id := by
  simp [exchangesOf]

theorem countP_exchangesOf {p : Exchange Handle → Bool}
    (hp : ∀ exchange, p exchange → exchange.id? = some id) (log : List (Exchange Handle)) :
    (exchangesOf id log).countP p = log.countP p := by
  rw [exchangesOf, List.countP_filter]
  refine List.countP_congr ?_
  intro exchange _
  simp only [Bool.and_eq_true, decide_eq_true_eq, and_iff_left_iff_imp]
  exact hp exchange

theorem id?_of_allocates (exchange : Exchange Handle) (hallocates : exchange.allocates id) :
    exchange.id? = some id := by
  obtain ⟨_ | _ | _, _⟩ := exchange <;> simp_all [Exchange.allocates, Exchange.id?]

theorem id?_of_frees (exchange : Exchange Handle) (hfrees : exchange.frees id) :
    exchange.id? = some id := by
  obtain ⟨_ | _ | _, _⟩ := exchange <;> simp_all [Exchange.frees, Exchange.id?]

/-- All that an allocator is ever asked about a request: its block, and when a handle was
    granted, to take that back with the size that it was granted for. -/
inductive Life (id : RequestId) : List (Exchange Handle) → Prop
  | silent : Life id []
  | asked (size : UInt64) (answer : Except AllocatorError (Option Handle)) :
      Life id [⟨.allocate id size, answer⟩]
  | ended (size : UInt64) (handle : Handle) (answer : Except AllocatorError (Option Handle)) :
      Life id [⟨.allocate id size, .ok (some handle)⟩, ⟨.free id size handle, answer⟩]

namespace Life

/-- What may come last in a life. -/
theorem of_concat {exchange : Exchange Handle} (hlife : Life id (log ++ [exchange])) :
    (log = [] ∧ ∃ size answer, exchange = ⟨.allocate id size, answer⟩) ∨
      ∃ size handle answer, log = [⟨.allocate id size, .ok (some handle)⟩] ∧
        exchange = ⟨.free id size handle, answer⟩ := by
  generalize hwhole : log ++ [exchange] = whole at hlife
  cases hlife with
  | silent => simp at hwhole
  | asked size answer =>
    have hsplit : log ++ [exchange] = [] ++ [⟨.allocate id size, answer⟩] := hwhole
    obtain ⟨rfl, rfl⟩ := List.append_singleton_inj.1 hsplit
    exact Or.inl ⟨rfl, size, answer, rfl⟩
  | ended size handle answer =>
    have hsplit : log ++ [exchange] =
        [⟨.allocate id size, .ok (some handle)⟩] ++ [⟨.free id size handle, answer⟩] := hwhole
    obtain ⟨rfl, rfl⟩ := List.append_singleton_inj.1 hsplit
    exact Or.inr ⟨size, handle, answer, rfl, rfl⟩

theorem of_append (hlife : Life id (log ++ more)) : Life id log := by
  induction more using List.reverseRecOn with
  | nil => rwa [List.append_nil] at hlife
  | append_singleton more exchange ih =>
    rw [← List.append_assoc] at hlife
    apply ih
    obtain ⟨hempty, _⟩ | ⟨size, handle, _, hgranted, _⟩ := hlife.of_concat
    · rw [hempty]
      exact .silent
    · rw [hgranted]
      exact .asked size (.ok (some handle))

/-- The one exchange before a free is the allocation that granted its handle. -/
theorem before_free {size : UInt64} {handle : Handle}
    {answer : Except AllocatorError (Option Handle)}
    (hlife : Life id (earlier ++ ⟨.free id size handle, answer⟩ :: later)) :
    earlier = [⟨.allocate id size, .ok (some handle)⟩] := by
  rw [← List.singleton_append, ← List.append_assoc] at hlife
  obtain ⟨_, _, _, hallocate⟩ | ⟨_, _, _, hgranted, hfree⟩ := hlife.of_append.of_concat
  · cases hallocate
  · cases hfree
    exact hgranted

theorem allocates_le_one (hlife : Life id log) : log.countP (Exchange.allocates id) ≤ 1 := by
  cases hlife <;> simp [Exchange.allocates]

theorem frees_le_one (hlife : Life id log) : log.countP (Exchange.frees id) ≤ 1 := by
  cases hlife <;> simp [Exchange.frees]

/-- Without a granted allocation there is no free. -/
theorem frees_eq_zero {size : UInt64} {answer : Except AllocatorError (Option Handle)}
    (hlife : Life id log) (hmem : ⟨.allocate id size, answer⟩ ∈ log)
    (hnone : ∀ handle, answer ≠ .ok (some handle)) : log.countP (Exchange.frees id) = 0 := by
  cases hlife with
  | silent => rfl
  | asked => rfl
  | ended other handle =>
    simp only [List.mem_cons, Exchange.mk.injEq, Call.allocate.injEq, reduceCtorEq, false_and,
      List.not_mem_nil, or_false] at hmem
    exact absurd hmem.2 (hnone handle)

end Life

theorem lives_of_append (hlives : ∀ id, Life id (exchangesOf id (log ++ more))) (id : RequestId) :
    Life id (exchangesOf id log) := by
  have hlife := hlives id
  rw [exchangesOf_append] at hlife
  exact hlife.of_append

/-- In a log, a free stands behind the allocation that granted its handle. -/
theorem granted_of_free {size : UInt64} {handle : Handle}
    {answer : Except AllocatorError (Option Handle)} (hlife : Life id (exchangesOf id log))
    (hlog : log = earlier ++ ⟨.free id size handle, answer⟩ :: later) :
    ⟨.allocate id size, .ok (some handle)⟩ ∈ earlier := by
  have hsplit : exchangesOf id log =
      exchangesOf id earlier ++ ⟨.free id size handle, answer⟩ :: exchangesOf id later := by
    rw [hlog, exchangesOf_append]
    simp [exchangesOf, Exchange.id?]
  rw [hsplit] at hlife
  have hmem : (⟨.allocate id size, .ok (some handle)⟩ : Exchange Handle) ∈
      exchangesOf id earlier := by
    rw [hlife.before_free]
    exact List.mem_singleton_self _
  exact (mem_exchangesOf.1 hmem).1

end HeapReplay.Heap
