import HeapReplay.Proofs.Heap.Block
import HeapReplay.Proofs.Word.Overstep

namespace HeapReplay.Heap.FirstFit

open Word

variable {heap : FirstFit} {id : RequestId} {size address : UInt64}

/-- A size has no block when the block is longer than a word can say, and also when it is
    overstepped. -/
theorem blockLength?_eq_none_iff :
    heap.blockLength? size = none ↔
      UInt64.size ≤ blockBytes heap.alignment size ∨
        max size.toNat 1 ∈ overstepped heap.alignment := by
  rw [blockLength?, alignUp?_eq_none_iff_overstepped, toNat_max]
  rfl

/-- A size without a block is refused by every heap, however much of it is free. -/
theorem allocate_of_blockLength?_eq_none (hlength : heap.blockLength? size = none) :
    allocator.allocate id size heap =
      (.ok none, { heap with failedAllocations := heap.failedAllocations + 1 }) := by
  have hfind : heap.find? size = none := by
    simp [find?, hlength]
  exact serve_refused hfind

theorem free_of_blockLength?_eq_none (hlength : heap.blockLength? size = none) :
    allocator.free id size address heap = (.error (.invalidFree id address size), heap) := by
  have hrelease : heap.release? size address = none := by
    simp [release?, block?, hlength]
  simp [allocator, hrelease]

/-- A heap and a workload round up to the alignment in two ways. Both give the least multiple
    that is not below a value when this is a word, save that the heap has no result for the
    overstepped values. Otherwise the heap has no result either, and the workload has the
    largest multiple. Fewer values are overstepped than a unit has bytes, and none exactly when
    the alignment divides the number of words. So a heap refuses a size for its rounding just
    when its block is longer than a word can say or it is overstepped, whatever is free. -/
theorem roundings_agree_unless_overstepped (heap : FirstFit) (value : UInt64) :
    let unit := heap.alignment
    let saturated := alignUp unit value
    (∃ least, IsLeast (multiplesFrom unit value.toNat) least ∧
      (least < UInt64.size ∧ saturated.toNat = least ∧
          alignUp? unit value =
            (if value.toNat ∈ overstepped unit then none else some saturated) ∨
        UInt64.size ≤ least ∧ IsGreatest (wordMultiples unit) saturated.toNat ∧
          alignUp? unit value = none)) ∧
      (overstepped unit).card = unit.val.toNat - 1 - (UInt64.size - 1) % unit.val.toNat ∧
      (overstepped unit = ∅ ↔ unit.val.toNat ∣ UInt64.size) ∧
      ∀ size, (heap.blockLength? size = none ↔
          UInt64.size ≤ blockBytes unit size ∨ max size.toNat 1 ∈ overstepped unit) ∧
        (heap.blockLength? size = none → ∀ id,
          allocator.allocate id size heap =
              (.ok none, { heap with failedAllocations := heap.failedAllocations + 1 }) ∧
            ∀ address, allocator.free id size address heap =
              (.error (.invalidFree id address size), heap)) := by
  intro unit saturated
  refine ⟨⟨_, isLeast_roundUp unit value.toNat, ?_⟩, card_overstepped unit,
    overstepped_eq_empty_iff, ?_⟩
  · by_cases hword : roundUp unit.val.toNat value.toNat < UInt64.size
    · exact .inl ⟨hword, toNat_alignUp_of_lt hword, alignUp?_of_lt hword⟩
    · have hlarge := Nat.not_lt.1 hword
      exact .inr ⟨hlarge, isGreatest_alignUp_of_le hlarge,
        alignUp?_eq_none_iff_overstepped.2 (.inl hlarge)⟩
  · intro size
    refine ⟨blockLength?_eq_none_iff, ?_⟩
    intro hlength id
    exact ⟨allocate_of_blockLength?_eq_none hlength,
      fun address => free_of_blockLength?_eq_none hlength⟩

/-- Four sizes are overstepped by an alignment to ten bytes. -/
theorem roundings_agree_unless_overstepped_tens :
    let heap := ofCapacity maximum ⟨10, by decide⟩
    let size : UInt64 := 18446744073709551607
    (overstepped heap.alignment).card = 4 ∧ max size.toNat 1 ∈ overstepped heap.alignment ∧
      (alignUp heap.alignment size).toNat = 18446744073709551610 ∧
      allocator.allocate 0 size heap = (.ok none, { heap with failedAllocations := 1 }) := by
  intro heap size
  have hstep : max size.toNat 1 ∈ overstepped heap.alignment := by
    rw [overstepped, Finset.mem_Ioc]
    decide
  obtain ⟨_, hcard, _, hsizes⟩ := roundings_agree_unless_overstepped heap size
  obtain ⟨hlength, hrefused⟩ := hsizes size
  refine ⟨?_, hstep, by decide, (hrefused (hlength.2 (.inr hstep)) 0).1⟩
  rw [hcard]
  decide

/-- The largest word is a multiple of three. An empty heap that is just as large has room for
    it, and gives its block to a size that is smaller by two, but refuses it. -/
theorem largest_word_refused :
    let heap := ofCapacity maximum ⟨3, by decide⟩
    IsLeast (multiplesFrom heap.alignment maximum.toNat) maximum.toNat ∧
      alignUp heap.alignment maximum = maximum ∧ alignUp? heap.alignment maximum = none ∧
      (allocator.allocate 0 maximum heap).1 = .ok none ∧
      blockBytes heap.alignment (maximum - 2) = blockBytes heap.alignment maximum ∧
      (allocator.allocate 0 (maximum - 2) heap).1 = .ok (some 0) := by
  intro heap
  refine ⟨⟨⟨by decide, Nat.le_refl _⟩, fun multiple hmultiple => hmultiple.2⟩, ?_⟩
  decide +kernel

end HeapReplay.Heap.FirstFit
