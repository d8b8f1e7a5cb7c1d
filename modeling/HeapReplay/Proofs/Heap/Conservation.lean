import HeapReplay.Proofs.Heap.Checked

namespace HeapReplay.Heap.FirstFit

open FreeList

/-- No free span reaches beyond the heap. -/
theorem Sound.stop_le {heap : FirstFit} (hsound : heap.Sound) {span : Span}
    (hmem : span ∈ heap.free) : span.stop ≤ heap.capacity :=
  (hsound.canonical.stop_le_iff heap.capacity).2 hsound.inside span hmem

theorem Sound.sum_length {heap : FirstFit} (hsound : heap.Sound) :
    (heap.free.map fun span => span.length.toNat).sum + heap.bytesInUse.toNat =
      heap.capacity.toNat := by
  rw [hsound.canonical.sum_length, hsound.conserved]

theorem Sound.used_le_capacity {heap : FirstFit} (hsound : heap.Sound) :
    heap.bytesInUse ≤ heap.capacity :=
  UInt64.le_iff_toNat_le.2 (hsound.used_le_peak.trans hsound.peak_le_capacity)

/-- The bytes that are not in use are the sum of the free spans. -/
theorem Sound.free_bytes {heap : FirstFit} (hsound : heap.Sound) :
    (heap.capacity - heap.bytesInUse).toNat =
      (heap.free.map fun span => span.length.toNat).sum := by
  have hsum := hsound.sum_length
  rw [UInt64.toNat_sub_of_le _ _ hsound.used_le_capacity]
  omega

theorem Sound.largest_le {heap : FirstFit} (hsound : heap.Sound) :
    heap.free.largest ≤ heap.capacity - heap.bytesInUse := by
  rw [UInt64.le_iff_toNat_le, hsound.free_bytes]
  exact largest_le_sum_length heap.free

theorem Sound.largest_eq_iff {heap : FirstFit} (hsound : heap.Sound) :
    heap.free.largest = heap.capacity - heap.bytesInUse ↔ heap.free.length ≤ 1 := by
  rw [← UInt64.toNat_inj, hsound.free_bytes]
  exact hsound.canonical.largest_eq_sum_length_iff

/-- After any calls, also frees of blocks that were never granted, the free spans are
    apart and in order, they and the bytes in use make up the capacity, and the longest
    span holds all free bytes exactly when there is no second one. The next call then
    neither overflows nor underflows, and no index of it is out of bounds. -/
theorem conservation_after (capacity : UInt64) (alignment : PosWord)
    (calls : List (Call UInt64)) :
    let heap := allocator.after (ofCapacity capacity alignment) calls
    (∀ span ∈ heap.free, span.start < span.stop ∧ span.stop ≤ capacity) ∧
      heap.free.Pairwise (fun lower upper => lower.stop < upper.start) ∧
      (heap.free.map fun span => span.length.toNat).sum + heap.bytesInUse.toNat =
        capacity.toNat ∧
      heap.bytesInUse ≤ heap.peakBytesInUse ∧
      heap.peakBytesInUse ≤ capacity ∧
      heap.statistics.largestFreeBlock ≤ capacity - heap.bytesInUse ∧
      (heap.statistics.largestFreeBlock = capacity - heap.bytesInUse ↔ heap.free.length ≤ 1) ∧
      Checked.statistics heap = .ok heap.statistics ∧
      ∀ call, Checked.serve heap call = .ok (allocator.serve heap call) := by
  intro heap
  have hsound : heap.Sound := (sound_ofCapacity capacity alignment).after calls
  have hcapacity : heap.capacity = capacity :=
    (after_capacity_alignment (ofCapacity capacity alignment) calls).1
  rw [← hcapacity]
  refine ⟨?_, hsound.canonical.apart, hsound.sum_length, ?_, ?_, hsound.largest_le,
    hsound.largest_eq_iff, Checked.statistics_eq hsound, Checked.serve_eq hsound⟩
  · intro span hmem
    exact ⟨hsound.canonical.nonempty span hmem, hsound.stop_le hmem⟩
  · exact UInt64.le_iff_toNat_le.2 hsound.used_le_peak
  · exact UInt64.le_iff_toNat_le.2 hsound.peak_le_capacity

end HeapReplay.Heap.FirstFit
