import HeapReplay.Heap.Script
import HeapReplay.Proofs.Replay.Protocol

namespace HeapReplay.Replay

open Heap

variable {State Handle : Type}

/-- An allocator that never gives up. -/
def Faultless (allocator : Allocator State Handle) : Prop :=
  ∀ state call, ∃ answer, (allocator.serve state call).1 = .ok answer

theorem faultless_tally : Faultless Tally.allocator := by
  intro tally call
  cases call with
  | allocate id size => exact ⟨some (), rfl⟩
  | free id size handle => exact ⟨none, rfl⟩
  | report => exact ⟨none, rfl⟩

/-- A script that only refuses never gives up. -/
theorem faultless_script (refuseEvery : Option Nat) (refuseOver : Option UInt64) :
    Faultless (Script.allocator { refuseEvery, refuseOver }) := by
  intro tally call
  cases call with
  | allocate id size =>
    rw [Allocator.serve]
    by_cases hrefuses : Script.refuses { refuseEvery, refuseOver } (tally.allocations + 1) size
    · exact ⟨none, by simp [Script.allocator, hrefuses]⟩
    · exact ⟨some (UInt64.ofNat (tally.allocations + 1)), by simp [Script.allocator, hrefuses]⟩
  | free id size handle => exact ⟨none, rfl⟩
  | report => exact ⟨none, rfl⟩

theorem Faultless.answer_of_mem {allocator : Allocator State Handle}
    (hfaultless : Faultless allocator) {state : State} {calls : List (Call Handle)}
    {exchange : Exchange Handle} (hmem : exchange ∈ allocator.transcript state calls) :
    ∃ answer, exchange.answer = .ok answer := by
  induction calls generalizing state with
  | nil => cases hmem
  | cons call calls ih =>
    rcases List.mem_cons.1 hmem with rfl | hlater
    · exact hfaultless state call
    · exact ih hlater

/-- A replay of different requests fails only when the allocator gives up. -/
theorem Faultless.replay_ok {allocator : Allocator State Handle} (hfaultless : Faultless allocator)
    {requests : List Request} (hids : (requests.map Request.id).Nodup)
    (htimes : ∀ request ∈ requests, request.birth ≤ request.death) (state : State)
    (threshold : PosWord) (historyLimit : Nat) :
    ∃ report, (replay requests allocator state threshold historyLimit).result = .ok report := by
  obtain ⟨hlogged, _⟩ := replay_logged requests allocator state threshold historyLimit
  rcases replay_cases hids htimes allocator state threshold historyLimit with
    ⟨final, _, _, hresult, _⟩ | ⟨error, final, ⟨log, fault, call, hheard, _, _, hfault⟩, _, _⟩
  · exact ⟨final.finalReport, hlogged.symm.trans hresult⟩
  · rw [hheard.exchanges_eq] at hfault
    obtain ⟨answer, hanswer⟩ := hfaultless.answer_of_mem hfault
    cases hanswer

end HeapReplay.Replay
