import HeapReplay.Proofs.Heap.Block

namespace HeapReplay.Heap.Allocator

variable {State Other Handle : Type}

/-- Two allocators that answer alike from related states. -/
def Alike (first : Allocator State Handle) (second : Allocator Other Handle)
    (related : State → Other → Prop) : Prop :=
  ∀ state other, related state other → ∀ call,
    (first.serve state call).1 = (second.serve other call).1 ∧
      related (first.serve state call).2 (second.serve other call).2

namespace Alike

variable {first : Allocator State Handle} {second : Allocator Other Handle}
  {related : State → Other → Prop} {state next : State} {other : Other}

theorem allocate (halike : Alike first second related) (hrelated : related state other)
    {id : RequestId} {size : UInt64} {answer : Except AllocatorError (Option Handle)}
    (hfirst : first.allocate id size state = (answer, next)) :
    ∃ final, second.allocate id size other = (answer, final) ∧ related next final := by
  obtain ⟨hanswer, hstate⟩ := halike state other hrelated (.allocate id size)
  simp only [serve, hfirst] at hanswer hstate
  exact ⟨_, Prod.ext hanswer.symm rfl, hstate⟩

theorem map_none_inj {a b : Except AllocatorError Unit}
    (hmap : (a.map fun () => (none : Option Handle)) = b.map fun () => none) : a = b := by
  cases a <;> cases b <;> simp_all [Except.map]

theorem free (halike : Alike first second related) (hrelated : related state other)
    {id : RequestId} {size : UInt64} {handle : Handle} {answer : Except AllocatorError Unit}
    (hfirst : first.free id size handle state = (answer, next)) :
    ∃ final, second.free id size handle other = (answer, final) ∧ related next final := by
  obtain ⟨hanswer, hstate⟩ := halike state other hrelated (.free id size handle)
  simp only [serve, hfirst] at hanswer hstate
  exact ⟨_, Prod.ext (map_none_inj hanswer).symm rfl, hstate⟩

theorem report (halike : Alike first second related) (hrelated : related state other)
    {answer : Except AllocatorError Unit} (hfirst : first.report state = (answer, next)) :
    ∃ final, second.report other = (answer, final) ∧ related next final := by
  obtain ⟨hanswer, hstate⟩ := halike state other hrelated .report
  simp only [serve, hfirst] at hanswer hstate
  exact ⟨_, Prod.ext (map_none_inj hanswer).symm rfl, hstate⟩

end Alike

theorem alike_self (allocator : Allocator State Handle) : Alike allocator allocator Eq := by
  rintro state _ rfl call
  exact ⟨rfl, rfl⟩

/-- Logging changes no answer. -/
theorem alike_logged (allocator : Allocator State Handle) :
    Alike allocator allocator.logged fun state log => log.state = state := by
  intro state log hstate call
  subst hstate
  cases call <;> exact ⟨rfl, rfl⟩

end HeapReplay.Heap.Allocator

namespace HeapReplay.Heap.FirstFit

/-- Heaps with the same free spans. -/
structure SameFree (heap other : FirstFit) : Prop where
  capacity : heap.capacity = other.capacity
  alignment : heap.alignment = other.alignment
  free : heap.free = other.free

theorem SameFree.symm {heap other : FirstFit} (hsame : SameFree heap other) : SameFree other heap :=
  ⟨hsame.capacity.symm, hsame.alignment.symm, hsame.free.symm⟩

theorem SameFree.find? {heap other : FirstFit} (hsame : SameFree heap other) (size : UInt64) :
    heap.find? size = other.find? size := by
  simp only [FirstFit.find?, blockLength?, hsame.alignment, hsame.free]

theorem SameFree.release? {heap other next : FirstFit} (hsame : SameFree heap other)
    {size address : UInt64} (hrelease : heap.release? size address = some next) :
    ∃ final, other.release? size address = some final ∧ SameFree next final := by
  obtain ⟨block, free, hblock, hgive, rfl⟩ := release?_eq_some_iff.1 hrelease
  have hother : other.block? size address = some block := by
    rw [← hblock]
    simp only [block?, blockLength?, hsame.alignment, hsame.capacity]
  rw [hsame.free] at hgive
  exact ⟨_, release?_eq_some_iff.2 ⟨block, free, hother, hgive, rfl⟩,
    ⟨hsame.capacity, hsame.alignment, rfl⟩⟩

/-- The statistics of a heap do not reach its answers. -/
theorem alike_sameFree : allocator.Alike allocator SameFree := by
  intro heap other hsame call
  cases call with
  | allocate id size =>
    cases hfind : heap.find? size with
    | none =>
      rw [serve_refused hfind, serve_refused ((hsame.find? size).symm.trans hfind)]
      exact ⟨rfl, hsame.capacity, hsame.alignment, hsame.free⟩
    | some found =>
      rw [serve_granted hfind, serve_granted ((hsame.find? size).symm.trans hfind)]
      exact ⟨rfl, hsame.capacity, hsame.alignment, rfl⟩
  | free id size address =>
    cases hrelease : heap.release? size address with
    | some next =>
      obtain ⟨final, hother, hnext⟩ := hsame.release? hrelease
      rw [serve_freed hrelease, serve_freed hother]
      exact ⟨rfl, hnext⟩
    | none =>
      have hother : other.release? size address = none := by
        by_contra hsome
        obtain ⟨next, hnext⟩ := Option.ne_none_iff_exists'.1 hsome
        obtain ⟨_, hfinal, _⟩ := hsame.symm.release? hnext
        rw [hrelease] at hfinal
        cases hfinal
      rw [serve_invalid hrelease, serve_invalid hother]
      exact ⟨rfl, hsame⟩
  | report => exact ⟨rfl, hsame.capacity, hsame.alignment, hsame.free⟩

end HeapReplay.Heap.FirstFit
