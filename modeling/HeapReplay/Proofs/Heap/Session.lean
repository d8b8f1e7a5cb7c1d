import HeapReplay.Heap.Call

namespace HeapReplay.Heap

/-- A call with the answer to it. Only an allocation is answered by a handle. -/
structure Exchange (Handle : Type) where
  call : Call Handle
  answer : Except AllocatorError (Option Handle)

variable {State Handle : Type}

namespace Exchange

/-- Whether an allocation was answered by a handle. -/
def granted : Exchange Handle → Bool
  | ⟨.allocate _ _, .ok (some _)⟩ => true
  | _ => false

/-- Whether an allocation was answered without a handle. -/
def refused : Exchange Handle → Bool
  | ⟨.allocate _ _, .ok none⟩ => true
  | _ => false

/-- The request that an exchange is about. A request for statistics is about none. -/
def id? (exchange : Exchange Handle) : Option RequestId :=
  match exchange.call with
  | .allocate id _ => some id
  | .free id _ _ => some id
  | .report => none

/-- Whether an exchange allocates for a request. -/
def allocates (id : RequestId) : Exchange Handle → Bool
  | ⟨.allocate other _, _⟩ => other = id
  | _ => false

/-- Whether an exchange frees the block of a request. -/
def frees (id : RequestId) : Exchange Handle → Bool
  | ⟨.free other _ _, _⟩ => other = id
  | _ => false

end Exchange

namespace Allocator

/-- The answer to a call, and the state that the call leaves. -/
def serve (allocator : Allocator State Handle) (state : State) :
    Call Handle → Except AllocatorError (Option Handle) × State
  | .allocate id size => allocator.allocate id size state
  | .free id size handle =>
    ((allocator.free id size handle state).1.map fun () => none,
      (allocator.free id size handle state).2)
  | .report => ((allocator.report state).1.map fun () => none, (allocator.report state).2)

/-- The state behind calls. -/
def after (allocator : Allocator State Handle) (state : State) (calls : List (Call Handle)) :
    State :=
  calls.foldl (fun state call => (allocator.serve state call).2) state

/-- Calls with the answers to them. -/
def transcript (allocator : Allocator State Handle) (state : State) :
    List (Call Handle) → List (Exchange Handle)
  | [] => []
  | call :: calls =>
    ⟨call, (allocator.serve state call).1⟩ ::
      allocator.transcript (allocator.serve state call).2 calls

variable (allocator : Allocator State Handle) (state : State)

@[simp] theorem after_nil : allocator.after state [] = state := rfl

@[simp] theorem after_cons (call : Call Handle) (calls : List (Call Handle)) :
    allocator.after state (call :: calls) =
      allocator.after (allocator.serve state call).2 calls := rfl

theorem after_append (calls more : List (Call Handle)) :
    allocator.after state (calls ++ more) = allocator.after (allocator.after state calls) more := by
  simp [after]

theorem transcript_append (calls more : List (Call Handle)) :
    allocator.transcript state (calls ++ more) =
      allocator.transcript state calls ++
        allocator.transcript (allocator.after state calls) more := by
  induction calls generalizing state with
  | nil => rfl
  | cons call calls ih => simp [transcript, ih]

theorem after_concat (calls : List (Call Handle)) (call : Call Handle) :
    allocator.after state (calls ++ [call]) =
      (allocator.serve (allocator.after state calls) call).2 := by
  rw [after_append, after_cons, after_nil]

theorem transcript_concat (calls : List (Call Handle)) (call : Call Handle) :
    allocator.transcript state (calls ++ [call]) = allocator.transcript state calls ++
      [⟨call, (allocator.serve (allocator.after state calls) call).1⟩] := by
  rw [transcript_append]
  rfl

@[simp] theorem map_call_transcript (calls : List (Call Handle)) :
    (allocator.transcript state calls).map Exchange.call = calls := by
  induction calls generalizing state with
  | nil => rfl
  | cons call calls ih => simp [transcript, ih]

@[simp] theorem length_transcript (calls : List (Call Handle)) :
    (allocator.transcript state calls).length = calls.length := by
  rw [← List.length_map Exchange.call, map_call_transcript]

end Allocator
end HeapReplay.Heap
