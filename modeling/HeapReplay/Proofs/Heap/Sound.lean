import HeapReplay.Proofs.Heap.Block

namespace HeapReplay.Heap.FirstFit

open FreeList

/-- What holds of a heap after any calls whatsoever. -/
structure Sound (heap : FirstFit) : Prop where
  canonical : Canonical heap.free
  inside : addresses heap.free ⊆ Finset.range heap.capacity.toNat
  conserved : (addresses heap.free).card + heap.bytesInUse.toNat = heap.capacity.toNat
  used_le_peak : heap.bytesInUse.toNat ≤ heap.peakBytesInUse.toNat
  peak_le_capacity : heap.peakBytesInUse.toNat ≤ heap.capacity.toNat

theorem sound_ofCapacity (capacity : UInt64) (alignment : PosWord) :
    (ofCapacity capacity alignment).Sound where
  canonical := canonical_upTo capacity
  inside := (addresses_upTo capacity).subset
  conserved := by simp [ofCapacity, addresses_upTo]
  used_le_peak := Nat.le_refl 0
  peak_le_capacity := Nat.zero_le _

/-- The free bytes of a sound heap determine its free spans and how many bytes are in
    use. -/
theorem Sound.eq_of_addresses_eq {heap other : FirstFit} (hsound : heap.Sound) (hother : other.Sound)
    (hcapacity : heap.capacity = other.capacity)
    (haddresses : addresses heap.free = addresses other.free) :
    heap.free = other.free ∧ heap.bytesInUse = other.bytesInUse := by
  refine ⟨hsound.canonical.eq_of_addresses_eq hother.canonical haddresses, ?_⟩
  have hconserved := hsound.conserved
  have hsame := hother.conserved
  rw [← hcapacity, ← haddresses] at hsame
  exact UInt64.toNat_inj.1 (by omega)

/-- The bytes of a granted block come out of the free ones, so the sum of bytes in
    use neither wraps nor passes the capacity. -/
theorem Sound.taken {heap : FirstFit} (hsound : heap.Sound) {size address length : UInt64}
    {free : FreeList} (hfind : heap.find? size = some (address, length, free)) :
    (addresses free).card + blockBytes heap.alignment size = (addresses heap.free).card ∧
      (heap.bytesInUse + length).toNat =
        heap.bytesInUse.toNat + blockBytes heap.alignment size := by
  obtain ⟨_, hlength, _, hsubset, _, haddresses⟩ := find?_spec hsound.canonical hfind
  have hcard := Finset.card_sdiff_add_card_eq_card hsubset
  rw [← haddresses, card_blockAddresses] at hcard
  have hword := heap.capacity.toNat_lt
  have hconserved := hsound.conserved
  refine ⟨hcard, ?_⟩
  rw [UInt64.toNat_add, hlength, Nat.mod_eq_of_lt (by omega)]

/-- The bytes of a block that is given back were in use, so the difference of bytes
    in use does not wrap. -/
theorem Sound.given {heap : FirstFit} (hsound : heap.Sound) {size address : UInt64} {block : Span}
    {free : FreeList} (hblock : heap.block? size address = some block)
    (hfreed : Freed block heap.free free) :
    (addresses free).card = (addresses heap.free).card + blockBytes heap.alignment size ∧
      addresses free ⊆ Finset.range heap.capacity.toNat ∧
      block.length ≤ heap.bytesInUse ∧
      (heap.bytesInUse - block.length).toNat + blockBytes heap.alignment size =
        heap.bytesInUse.toNat := by
  obtain ⟨_, haddresses, hlength⟩ := addresses_of_block? hblock
  obtain ⟨_, hle, _, _⟩ := block?_eq_some_iff.1 hblock
  have hcard : (addresses free).card =
      (addresses heap.free).card + blockBytes heap.alignment size := by
    rw [hfreed.addresses_eq, Finset.card_union_of_disjoint hfreed.disjoint, haddresses,
      card_blockAddresses, Nat.add_comm]
  have hinside : addresses free ⊆ Finset.range heap.capacity.toNat := by
    rw [hfreed.addresses_eq, haddresses]
    refine Finset.union_subset ?_ hsound.inside
    intro byte hmem
    rw [blockAddresses, Finset.mem_Ico] at hmem
    exact Finset.mem_range.2 (by omega)
  have hbound := Finset.card_le_card hinside
  rw [Finset.card_range] at hbound
  have hconserved := hsound.conserved
  have hused : block.length ≤ heap.bytesInUse := UInt64.le_iff_toNat_le.2 (by omega)
  refine ⟨hcard, hinside, hused, ?_⟩
  rw [UInt64.toNat_sub_of_le _ _ hused]
  rw [UInt64.le_iff_toNat_le] at hused
  omega

/-- A granted block leaves the heap sound. -/
theorem Sound.allocate {heap : FirstFit} (hsound : heap.Sound) (id : RequestId) (size : UInt64) :
    (allocator.serve heap (.allocate id size)).2.Sound := by
  cases hfind : heap.find? size with
  | none =>
    rw [serve_refused hfind]
    exact { hsound with }
  | some found =>
    obtain ⟨address, length, free⟩ := found
    obtain ⟨_, _, _, _, hcanonical, haddresses⟩ := find?_spec hsound.canonical hfind
    obtain ⟨hcard, hused⟩ := hsound.taken hfind
    have hconserved := hsound.conserved
    have hpeak := hsound.peak_le_capacity
    rw [serve_granted hfind]
    constructor
    · exact hcanonical
    · rw [haddresses]
      exact Finset.sdiff_subset.trans hsound.inside
    · simp only [hused]
      omega
    · simp only [Word.toNat_max]
      omega
    · simp only [Word.toNat_max, hused]
      omega

theorem Sound.release {heap next : FirstFit} (hsound : heap.Sound) {size address : UInt64}
    (hrelease : heap.release? size address = some next) : next.Sound := by
  obtain ⟨block, free, hblock, hfreed, rfl⟩ := release?_spec hsound.canonical hrelease
  obtain ⟨hcard, hinside, _, hused⟩ := hsound.given hblock hfreed
  have hconserved := hsound.conserved
  have hpeak := hsound.used_le_peak
  constructor
  · exact hfreed.canonical
  · exact hinside
  · simp only
    omega
  · simp only
    omega
  · exact hsound.peak_le_capacity

/-- No call breaks the heap: not a free of a block that was never granted, nor one
    with another size than the block was granted with. -/
theorem Sound.serve {heap : FirstFit} (hsound : heap.Sound) (call : Call UInt64) :
    (allocator.serve heap call).2.Sound := by
  cases call with
  | allocate id size => exact hsound.allocate id size
  | free id size address =>
    cases hrelease : heap.release? size address with
    | none =>
      rw [serve_invalid hrelease]
      exact hsound
    | some next =>
      rw [serve_freed hrelease]
      exact hsound.release hrelease
  | report => exact { hsound with }

theorem Sound.after {heap : FirstFit} (hsound : heap.Sound) (calls : List (Call UInt64)) :
    (allocator.after heap calls).Sound := by
  induction calls generalizing heap with
  | nil => exact hsound
  | cons call calls ih => exact ih (hsound.serve call)

end HeapReplay.Heap.FirstFit
