import HeapReplay.Proofs.Heap.Ledger

namespace HeapReplay.Heap.FirstFit

open FreeList

theorem serve_counts (heap : FirstFit) (call : Call UInt64) :
    (allocator.serve heap call).2.successfulAllocations = heap.successfulAllocations +
        [(⟨call, (allocator.serve heap call).1⟩ : Exchange UInt64)].countP Exchange.granted ∧
      (allocator.serve heap call).2.failedAllocations = heap.failedAllocations +
        [(⟨call, (allocator.serve heap call).1⟩ : Exchange UInt64)].countP Exchange.refused := by
  cases call with
  | allocate id size =>
    cases hfind : heap.find? size with
    | none => simp [serve_refused hfind, Exchange.granted, Exchange.refused]
    | some found => simp [serve_granted hfind, Exchange.granted, Exchange.refused]
  | free id size address =>
    cases hrelease : heap.release? size address with
    | none => simp [serve_invalid hrelease, Exchange.granted, Exchange.refused]
    | some next =>
      rw [serve_freed hrelease]
      obtain ⟨_, _, _, _, rfl⟩ := release?_eq_some_iff.1 hrelease
      simp [Exchange.granted, Exchange.refused]
  | report => simp [serve_report, Exchange.granted, Exchange.refused]

theorem after_counts (start : FirstFit) (calls : List (Call UInt64)) :
    (allocator.after start calls).successfulAllocations = start.successfulAllocations +
        (allocator.transcript start calls).countP Exchange.granted ∧
      (allocator.after start calls).failedAllocations = start.failedAllocations +
        (allocator.transcript start calls).countP Exchange.refused := by
  induction calls using List.reverseRecOn with
  | nil => exact ⟨rfl, rfl⟩
  | append_singleton calls call ih =>
    obtain ⟨hgranted, hrefused⟩ := ih
    obtain ⟨hgrantedLast, hrefusedLast⟩ := serve_counts (allocator.after start calls) call
    rw [Allocator.after_concat, Allocator.transcript_concat, List.countP_append, List.countP_append]
    omega

theorem countP_granted_add_countP_refused_le (log : List (Exchange UInt64)) :
    log.countP Exchange.granted + log.countP Exchange.refused ≤ log.length := by
  induction log with
  | nil => exact Nat.le_refl 0
  | cons exchange log ih =>
    have honce : ¬ (exchange.granted ∧ exchange.refused) := by
      rintro ⟨hgranted, hrefused⟩
      unfold Exchange.granted at hgranted
      split at hgranted
      · cases hrefused
      · cases hgranted
    rw [List.countP_cons, List.countP_cons, List.length_cons]
    split <;> split <;> first | omega | exact absurd ⟨‹_›, ‹_›⟩ honce

theorem Sound.serve_peak {heap : FirstFit} (hsound : heap.Sound) (call : Call UInt64) :
    (allocator.serve heap call).2.peakBytesInUse.toNat =
      max heap.peakBytesInUse.toNat (allocator.serve heap call).2.bytesInUse.toNat := by
  have hpeak := hsound.used_le_peak
  cases call with
  | allocate id size =>
    cases hfind : heap.find? size with
    | none => simpa [serve_refused hfind] using hpeak
    | some found => simp [serve_granted hfind, Word.toNat_max]
  | free id size address =>
    cases hrelease : heap.release? size address with
    | none => simpa [serve_invalid hrelease] using hpeak
    | some next =>
      rw [serve_freed hrelease]
      obtain ⟨block, free, hblock, hfreed, rfl⟩ := release?_spec hsound.canonical hrelease
      obtain ⟨_, _, _, hused⟩ := hsound.given hblock hfreed
      simp only
      omega
  | report => simpa [serve_report] using hpeak

/-- The peak is the largest number of bytes in use that the calls so far have left. -/
theorem isGreatest_peak (capacity : UInt64) (alignment : PosWord) (calls : List (Call UInt64)) :
    IsGreatest
      {used | ∃ earlier, earlier <+: calls ∧
        used = (allocator.after (ofCapacity capacity alignment) earlier).bytesInUse.toNat}
      (allocator.after (ofCapacity capacity alignment) calls).peakBytesInUse.toNat := by
  induction calls using List.reverseRecOn with
  | nil =>
    refine ⟨⟨[], List.nil_prefix, rfl⟩, ?_⟩
    rintro used ⟨earlier, hprefix, rfl⟩
    rw [List.prefix_nil.1 hprefix]
    exact Nat.le_refl 0
  | append_singleton calls call ih =>
    obtain ⟨⟨reached, hreached, hused⟩, hbound⟩ := ih
    have hpeak := ((sound_ofCapacity capacity alignment).after calls).serve_peak call
    rw [← Allocator.after_concat] at hpeak
    rw [hpeak]
    constructor
    · cases Nat.le_total
        (allocator.after (ofCapacity capacity alignment) (calls ++ [call])).bytesInUse.toNat
        (allocator.after (ofCapacity capacity alignment) calls).peakBytesInUse.toNat with
      | inl hold =>
        rw [Nat.max_eq_left hold, hused]
        exact ⟨reached, hreached.trans (List.prefix_append calls [call]), rfl⟩
      | inr hnew =>
        rw [Nat.max_eq_right hnew]
        exact ⟨calls ++ [call], List.prefix_rfl, rfl⟩
    · rintro used ⟨earlier, hprefix, rfl⟩
      cases List.prefix_concat_iff.1 hprefix with
      | inl hwhole =>
        rw [hwhole]
        exact Nat.le_max_right _ _
      | inr hearlier => exact (hbound ⟨earlier, hearlier, rfl⟩).trans (Nat.le_max_left _ _)

/-- After calls that free nothing but outstanding blocks, each with its own size, the
    outstanding blocks are apart, aligned and inside the heap, the free spans hold
    exactly the other bytes, the statistics count what the calls were answered, and no
    free was refused. -/
theorem accounts_after (capacity : UInt64) (alignment : PosWord) (calls : List (Call UInt64))
    (hhonest : Honest (allocator.transcript (ofCapacity capacity alignment) calls)) :
    let heap := allocator.after (ofCapacity capacity alignment) calls
    let log := allocator.transcript (ofCapacity capacity alignment) calls
    let blocks := outstanding log
    blocks.Pairwise (fun a b => Disjoint (a.addresses alignment) (b.addresses alignment)) ∧
      (∀ block ∈ blocks, alignment.val.toNat ∣ block.address.toNat ∧
        block.address.toNat + block.bytes alignment ≤ capacity.toNat) ∧
      (∀ byte, byte ∈ FreeList.addresses heap.free ↔
        byte < capacity.toNat ∧ ∀ block ∈ blocks, byte ∉ block.addresses alignment) ∧
      heap.bytesInUse.toNat = (blocks.map (Grant.bytes alignment)).sum ∧
      heap.liveAllocations = blocks.length ∧
      IsGreatest
        {used | ∃ earlier, earlier <+: calls ∧
          used = (allocator.after (ofCapacity capacity alignment) earlier).bytesInUse.toNat}
        heap.peakBytesInUse.toNat ∧
      heap.successfulAllocations = log.countP Exchange.granted ∧
      heap.failedAllocations = log.countP Exchange.refused ∧
      heap.successfulAllocations + heap.failedAllocations ≤ calls.length ∧
      ∀ id size address answer, ⟨.free id size address, answer⟩ ∈ log → answer = .ok none := by
  intro heap log blocks
  obtain ⟨hledger, hanswers⟩ := ledger_after (sound_ofCapacity capacity alignment) calls hhonest
  obtain ⟨hgranted, hrefused⟩ := after_counts (ofCapacity capacity alignment) calls
  have hstart (byte : Nat) :
      byte ∈ FreeList.addresses (ofCapacity capacity alignment).free ↔ byte < capacity.toNat := by
    rw [ofCapacity, addresses_upTo, Finset.mem_range]
  have hsuccessful : heap.successfulAllocations = log.countP Exchange.granted := by
    rw [hgranted]
    exact Nat.zero_add _
  have hfailed : heap.failedAllocations = log.countP Exchange.refused := by
    rw [hrefused]
    exact Nat.zero_add _
  refine ⟨hledger.disjoint, ?_, ?_, ?_, ?_, isGreatest_peak capacity alignment calls, hsuccessful,
    hfailed, ?_, hanswers⟩
  · intro block hmem
    exact ⟨hledger.aligned block hmem, hledger.stop_le hmem⟩
  · intro byte
    constructor
    · intro hfree
      refine ⟨(hstart byte).1 ((hledger.cover byte).2 (Or.inl hfree)), ?_⟩
      intro block hmem hbyte
      exact Finset.disjoint_left.1 (hledger.apart block hmem) hbyte hfree
    · rintro ⟨hlt, hnone⟩
      cases (hledger.cover byte).1 ((hstart byte).2 hlt) with
      | inl hfree => exact hfree
      | inr hblock =>
        obtain ⟨block, hmem, hbyte⟩ := hblock
        exact absurd hbyte (hnone block hmem)
  · rw [hledger.used]
    exact Nat.zero_add _
  · rw [hledger.live]
    exact Nat.zero_add _
  · rw [hsuccessful, hfailed, ← Allocator.length_transcript allocator]
    exact countP_granted_add_countP_refused_le log

/-- Ten bytes, none and twenty are asked for, the block for none is given back, and nine
    bytes do not fit in its place. -/
theorem accounts_after_reuse :
    let calls : List (Call UInt64) :=
      [.allocate 0 10, .allocate 1 0, .allocate 2 20, .free 1 0 16, .allocate 3 9,
        .allocate 4 100, .report, .free 0 10 0]
    let start := ofCapacity 64 ⟨8, by decide⟩
    Honest (allocator.transcript start calls) ∧
      outstanding (allocator.transcript start calls) = [⟨9, 48⟩, ⟨20, 24⟩] ∧
      (allocator.after start calls).bytesInUse.toNat = 40 ∧
      (allocator.after start calls).liveAllocations = 2 := by
  intro calls start
  have hhonest : Honest (allocator.transcript start calls) := by decide +kernel
  have hblocks : outstanding (allocator.transcript start calls) = [⟨9, 48⟩, ⟨20, 24⟩] := by
    decide +kernel
  obtain ⟨_, _, _, hused, hlive, _⟩ := accounts_after 64 ⟨8, by decide⟩ calls hhonest
  refine ⟨hhonest, hblocks, ?_, ?_⟩
  · rw [hused, hblocks]
    decide
  · rw [hlive, hblocks]
    rfl

end HeapReplay.Heap.FirstFit
