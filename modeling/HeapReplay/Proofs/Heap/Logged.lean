import HeapReplay.Proofs.Heap.Session

namespace HeapReplay.Heap

variable {State Handle : Type}

/-- The exchanges that lead from a start to a log. -/
structure Logged.Heard (allocator : Allocator State Handle) (start : State)
    (log : Logged State Handle) (exchanges : List (Exchange Handle)) : Prop where
  state_eq : log.state = allocator.after start log.calls.toList
  exchanges_eq : exchanges = allocator.transcript start log.calls.toList

namespace Logged.Heard

variable {allocator : Allocator State Handle} {start : State} {log next : Logged State Handle}
  {exchanges : List (Exchange Handle)}

theorem refl : Heard allocator start { state := start } [] := ⟨rfl, rfl⟩

theorem unique {others : List (Exchange Handle)} (h : Heard allocator start log exchanges)
    (hothers : Heard allocator start log others) : exchanges = others :=
  h.exchanges_eq.trans hothers.exchanges_eq.symm

theorem serve (hheard : Heard allocator start log exchanges) (call : Call Handle) :
    Heard allocator start (allocator.logged.serve log call).2
      (exchanges ++ [⟨call, (allocator.logged.serve log call).1⟩]) := by
  have hcalls : (allocator.logged.serve log call).2.calls.toList = log.calls.toList ++ [call] := by
    cases call <;> simp [Allocator.serve, Allocator.logged]
  have hstate : (allocator.logged.serve log call).2.state = (allocator.serve log.state call).2 := by
    cases call <;> rfl
  have hanswer : (allocator.logged.serve log call).1 = (allocator.serve log.state call).1 := by
    cases call <;> rfl
  constructor
  · rw [hcalls, hstate, Allocator.after_concat, hheard.state_eq]
  · rw [hcalls, hanswer, Allocator.transcript_concat, hheard.exchanges_eq, hheard.state_eq]

theorem allocate (hheard : Heard allocator start log exchanges) {id : RequestId} {size : UInt64}
    {answer : Except AllocatorError (Option Handle)}
    (hallocate : allocator.logged.allocate id size log = (answer, next)) :
    Heard allocator start next (exchanges ++ [⟨.allocate id size, answer⟩]) := by
  have hserved := hheard.serve (.allocate id size)
  rwa [Allocator.serve, hallocate] at hserved

theorem free (hheard : Heard allocator start log exchanges) {id : RequestId} {size : UInt64}
    {handle : Handle} {answer : Except AllocatorError Unit}
    (hfree : allocator.logged.free id size handle log = (answer, next)) :
    Heard allocator start next
      (exchanges ++ [⟨.free id size handle, answer.map fun () => none⟩]) := by
  have hserved := hheard.serve (.free id size handle)
  rwa [Allocator.serve, hfree] at hserved

theorem report (hheard : Heard allocator start log exchanges)
    {answer : Except AllocatorError Unit}
    (hreport : allocator.logged.report log = (answer, next)) :
    Heard allocator start next (exchanges ++ [⟨.report, answer.map fun () => none⟩]) := by
  have hserved := hheard.serve .report
  rwa [Allocator.serve, hreport] at hserved

theorem allocate_report (hheard : Heard allocator start log exchanges) {id : RequestId}
    {size : UInt64} {answer : Except AllocatorError (Option Handle)}
    {reported : Except AllocatorError Unit} {final : Logged State Handle}
    (hallocate : allocator.logged.allocate id size log = (answer, next))
    (hreport : allocator.logged.report next = (reported, final)) :
    Heard allocator start final
      (exchanges ++ [⟨.allocate id size, answer⟩, ⟨.report, reported.map fun () => none⟩]) := by
  have hfinal := (hheard.allocate hallocate).report hreport
  rwa [List.append_assoc] at hfinal

end Logged.Heard

section Calls

variable {allocator : Allocator State Handle} {log next : Logged State Handle} {id : RequestId}
  {size : UInt64}

theorem Logged.calls_of_allocate {answer : Except AllocatorError (Option Handle)}
    (hallocate : allocator.logged.allocate id size log = (answer, next)) :
    next.calls = log.calls.push (.allocate id size) :=
  (congrArg (fun served => served.2.calls) hallocate).symm

theorem Logged.calls_of_free {handle : Handle} {answer : Except AllocatorError Unit}
    (hfree : allocator.logged.free id size handle log = (answer, next)) :
    next.calls = log.calls.push (.free id size handle) :=
  (congrArg (fun served => served.2.calls) hfree).symm

theorem Logged.calls_of_report {answer : Except AllocatorError Unit}
    (hreport : allocator.logged.report log = (answer, next)) :
    next.calls = log.calls.push .report :=
  (congrArg (fun served => served.2.calls) hreport).symm

theorem Logged.serve_allocate {answer : Except AllocatorError (Option Handle)}
    (hallocate : allocator.logged.allocate id size log = (answer, next)) :
    allocator.serve log.state (.allocate id size) = (answer, next.state) :=
  congrArg (fun served => (served.1, served.2.state)) hallocate

theorem Logged.serve_free {handle : Handle} {answer : Except AllocatorError Unit}
    (hfree : allocator.logged.free id size handle log = (answer, next)) :
    allocator.serve log.state (.free id size handle) =
      (answer.map fun () => none, next.state) := by
  have hanswer : (allocator.free id size handle log.state).1 = answer := congrArg Prod.fst hfree
  have hstate : (allocator.free id size handle log.state).2 = next.state :=
    congrArg (fun served => served.2.state) hfree
  rw [Allocator.serve, hanswer, hstate]

theorem Logged.serve_report {answer : Except AllocatorError Unit}
    (hreport : allocator.logged.report log = (answer, next)) :
    allocator.serve log.state .report = (answer.map fun () => none, next.state) := by
  have hanswer : (allocator.report log.state).1 = answer := congrArg Prod.fst hreport
  have hstate : (allocator.report log.state).2 = next.state :=
    congrArg (fun served => served.2.state) hreport
  rw [Allocator.serve, hanswer, hstate]

end Calls

end HeapReplay.Heap
