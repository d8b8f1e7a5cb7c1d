import HeapReplay.Heap.FirstFit
import HeapReplay.Proofs.Heap.Give
import HeapReplay.Proofs.Heap.Session
import HeapReplay.Proofs.Heap.Take

namespace HeapReplay.Heap

open FreeList

/-- The number of bytes in the block for a size: at least one, rounded up to the
    alignment. -/
def blockBytes (alignment : PosWord) (size : UInt64) : Nat :=
  Word.roundUp alignment.val.toNat (max size.toNat 1)

theorem blockBytes_pos (alignment : PosWord) (size : UInt64) : 0 < blockBytes alignment size :=
  Word.roundUp_pos (Word.unit_pos alignment) (by omega)

/-- The bytes of the block for a size at an address. -/
def blockAddresses (alignment : PosWord) (size address : UInt64) : Finset Nat :=
  Finset.Ico address.toNat (address.toNat + blockBytes alignment size)

theorem card_blockAddresses (alignment : PosWord) (size address : UInt64) :
    (blockAddresses alignment size address).card = blockBytes alignment size := by
  simp [blockAddresses]

namespace FirstFit

theorem blockLength?_eq_some_iff {heap : FirstFit} {size length : UInt64} :
    heap.blockLength? size = some length ↔
      max size.toNat 1 + (heap.alignment.val.toNat - 1) < UInt64.size ∧
        length.toNat = blockBytes heap.alignment size := by
  rw [blockLength?, Word.alignUp?_eq_some_iff, Word.toNat_max]
  rfl

/-- The block for a size at an address has a span exactly when its rounding stays
    within the words and it lies inside the heap. -/
theorem block?_eq_some_iff {heap : FirstFit} {size address : UInt64} {block : Span} :
    heap.block? size address = some block ↔
      max size.toNat 1 + (heap.alignment.val.toNat - 1) < UInt64.size ∧
        address.toNat + blockBytes heap.alignment size ≤ heap.capacity.toNat ∧
        block.start = address ∧
        block.stop.toNat = address.toNat + blockBytes heap.alignment size := by
  have hword := heap.capacity.toNat_lt
  simp only [block?, Option.bind_eq_bind, Option.bind_eq_some_iff, blockLength?_eq_some_iff,
    Word.add?_eq_some_iff, Option.ite_none_right_eq_some, Option.some.injEq]
  constructor
  · rintro ⟨length, ⟨hroom, hlength⟩, stop, ⟨hlt, rfl⟩, hle, rfl⟩
    have hstop : (address + length).toNat = address.toNat + blockBytes heap.alignment size := by
      rw [UInt64.toNat_add, Nat.mod_eq_of_lt hlt, hlength]
    rw [UInt64.le_iff_toNat_le, hstop] at hle
    exact ⟨hroom, hle, rfl, hstop⟩
  · rintro ⟨hroom, hle, rfl, hstop⟩
    have hlt : block.start.toNat + blockBytes heap.alignment size < UInt64.size :=
      Nat.lt_of_le_of_lt hle hword
    have hlength : (UInt64.ofNat (blockBytes heap.alignment size)).toNat =
        blockBytes heap.alignment size := UInt64.toNat_ofNat_of_lt' (by omega)
    have hsum : block.stop = block.start + UInt64.ofNat (blockBytes heap.alignment size) := by
      rw [← UInt64.toNat_inj, UInt64.toNat_add, hlength, hstop, Nat.mod_eq_of_lt (by omega)]
    refine ⟨_, ⟨hroom, hlength⟩, block.stop, ⟨by omega, hsum⟩, ?_, rfl⟩
    rw [UInt64.le_iff_toNat_le]
    omega

theorem block?_isSome_iff {heap : FirstFit} {size address : UInt64} :
    (∃ block, heap.block? size address = some block) ↔
      max size.toNat 1 + (heap.alignment.val.toNat - 1) < UInt64.size ∧
        address.toNat + blockBytes heap.alignment size ≤ heap.capacity.toNat := by
  simp only [block?_eq_some_iff]
  constructor
  · rintro ⟨_, hroom, hle, _⟩
    exact ⟨hroom, hle⟩
  · rintro ⟨hroom, hle⟩
    have hlt := Nat.lt_of_le_of_lt hle heap.capacity.toNat_lt
    exact ⟨⟨address, UInt64.ofNat (address.toNat + blockBytes heap.alignment size)⟩, hroom, hle,
      rfl, UInt64.toNat_ofNat_of_lt' hlt⟩

theorem addresses_of_block? {heap : FirstFit} {size address : UInt64} {block : Span}
    (hblock : heap.block? size address = some block) :
    block.start < block.stop ∧
      block.addresses = blockAddresses heap.alignment size address ∧
      block.length.toNat = blockBytes heap.alignment size := by
  obtain ⟨_, _, rfl, hstop⟩ := block?_eq_some_iff.1 hblock
  have hpos := blockBytes_pos heap.alignment size
  have hlt : block.start < block.stop := UInt64.lt_iff_toNat_lt.2 (by omega)
  have haddresses : block.addresses = blockAddresses heap.alignment size block.start := by
    rw [Span.addresses, hstop, blockAddresses]
  refine ⟨hlt, haddresses, ?_⟩
  rw [← Span.card_addresses hlt, haddresses, card_blockAddresses]

theorem find?_eq_some_iff {heap : FirstFit} {size address length : UInt64} {free : FreeList} :
    heap.find? size = some (address, length, free) ↔
      heap.blockLength? size = some length ∧
        heap.free.take? heap.alignment length = some (address, free) := by
  simp only [find?, Option.bind_eq_bind, Option.bind_eq_some_iff, Prod.exists, Option.some.injEq,
    Prod.mk.injEq]
  constructor
  · rintro ⟨_, hlength, _, _, htake, rfl, rfl, rfl⟩
    exact ⟨hlength, htake⟩
  · rintro ⟨hlength, htake⟩
    exact ⟨length, hlength, address, free, htake, rfl, rfl, rfl⟩

/-- What a granted request takes: an aligned block of free bytes. -/
theorem find?_spec {heap : FirstFit} (hcanonical : Canonical heap.free)
    {size address length : UInt64} {free : FreeList}
    (hfind : heap.find? size = some (address, length, free)) :
    max size.toNat 1 + (heap.alignment.val.toNat - 1) < UInt64.size ∧
      length.toNat = blockBytes heap.alignment size ∧
      heap.alignment.val.toNat ∣ address.toNat ∧
      blockAddresses heap.alignment size address ⊆ addresses heap.free ∧
      Canonical free ∧
      addresses free = addresses heap.free \ blockAddresses heap.alignment size address := by
  obtain ⟨hlength, htake⟩ := find?_eq_some_iff.1 hfind
  obtain ⟨hroom, hbytes⟩ := blockLength?_eq_some_iff.1 hlength
  have htaken := take?_spec hcanonical (hbytes ▸ blockBytes_pos _ _) htake
  rw [hbytes] at htaken
  exact ⟨hroom, hbytes, htaken⟩

theorem release?_eq_some_iff {heap next : FirstFit} {size address : UInt64} :
    heap.release? size address = some next ↔
      ∃ block free, heap.block? size address = some block ∧ heap.free.give? block = some free ∧
        next =
          { heap with
            free
            bytesInUse := heap.bytesInUse - block.length
            liveAllocations := heap.liveAllocations - 1 } := by
  simp only [release?, Option.bind_eq_bind, Option.bind_eq_some_iff, Option.some.injEq]
  constructor
  · rintro ⟨block, hblock, free, hgive, rfl⟩
    exact ⟨block, free, hblock, hgive, rfl⟩
  · rintro ⟨block, free, hblock, hgive, rfl⟩
    exact ⟨block, hblock, free, hgive, rfl⟩

/-- What a successful free gives back: a block inside the heap, no byte of which was
    free. -/
theorem release?_spec {heap next : FirstFit} (hcanonical : Canonical heap.free)
    {size address : UInt64} (hrelease : heap.release? size address = some next) :
    ∃ block free, heap.block? size address = some block ∧ Freed block heap.free free ∧
      next =
        { heap with
          free
          bytesInUse := heap.bytesInUse - block.length
          liveAllocations := heap.liveAllocations - 1 } := by
  obtain ⟨block, free, hblock, hgive, hnext⟩ := release?_eq_some_iff.1 hrelease
  exact ⟨block, free, hblock, give?_freed hcanonical (addresses_of_block? hblock).1 hgive, hnext⟩

theorem release?_isSome_iff {heap : FirstFit} (hcanonical : Canonical heap.free)
    {size address : UInt64} {block : Span} (hblock : heap.block? size address = some block) :
    (∃ next, heap.release? size address = some next) ↔
      Disjoint (blockAddresses heap.alignment size address) (addresses heap.free) := by
  obtain ⟨hlt, haddresses, _⟩ := addresses_of_block? hblock
  rw [← haddresses, ← give?_isSome_iff hcanonical hlt]
  constructor
  · rintro ⟨next, hrelease⟩
    obtain ⟨_, free, hsame, hgive, _⟩ := release?_eq_some_iff.1 hrelease
    cases hblock.symm.trans hsame
    exact ⟨free, hgive⟩
  · rintro ⟨free, hgive⟩
    exact ⟨_, release?_eq_some_iff.2 ⟨block, free, hblock, hgive, rfl⟩⟩

section Serve

variable {heap next : FirstFit} {id : RequestId} {size address length : UInt64} {free : FreeList}

theorem serve_refused (hfind : heap.find? size = none) :
    allocator.serve heap (.allocate id size) =
      (.ok none, { heap with failedAllocations := heap.failedAllocations + 1 }) := by
  simp [Allocator.serve, allocator, allocate, hfind]

theorem serve_granted (hfind : heap.find? size = some (address, length, free)) :
    allocator.serve heap (.allocate id size) =
      (.ok (some address),
        { heap with
          free
          bytesInUse := heap.bytesInUse + length
          peakBytesInUse := max heap.peakBytesInUse (heap.bytesInUse + length)
          liveAllocations := heap.liveAllocations + 1
          successfulAllocations := heap.successfulAllocations + 1 }) := by
  simp [Allocator.serve, allocator, allocate, hfind]

theorem serve_invalid (hrelease : heap.release? size address = none) :
    allocator.serve heap (.free id size address) =
      (.error (.invalidFree id address size), heap) := by
  simp [Allocator.serve, allocator, hrelease, Except.map]

theorem serve_freed (hrelease : heap.release? size address = some next) :
    allocator.serve heap (.free id size address) = (.ok none, next) := by
  simp [Allocator.serve, allocator, hrelease, Except.map]

theorem serve_report :
    allocator.serve heap .report =
      (.ok none, { heap with reports := heap.reports.push heap.statistics }) := rfl

end Serve

/-- Capacity and alignment are set once. -/
theorem serve_capacity_alignment (heap : FirstFit) (call : Call UInt64) :
    (allocator.serve heap call).2.capacity = heap.capacity ∧
      (allocator.serve heap call).2.alignment = heap.alignment := by
  cases call with
  | allocate id size =>
    cases hfind : heap.find? size with
    | none => simp [serve_refused hfind]
    | some found => simp [serve_granted hfind]
  | free id size address =>
    cases hrelease : heap.release? size address with
    | none => simp [serve_invalid hrelease]
    | some next =>
      rw [serve_freed hrelease]
      obtain ⟨_, _, _, _, rfl⟩ := release?_eq_some_iff.1 hrelease
      exact ⟨rfl, rfl⟩
  | report => exact ⟨rfl, rfl⟩

theorem after_capacity_alignment (heap : FirstFit) (calls : List (Call UInt64)) :
    (allocator.after heap calls).capacity = heap.capacity ∧
      (allocator.after heap calls).alignment = heap.alignment := by
  induction calls generalizing heap with
  | nil => exact ⟨rfl, rfl⟩
  | cons call calls ih =>
    obtain ⟨hcapacity, halignment⟩ := ih (allocator.serve heap call).2
    obtain ⟨hcapacityStep, halignmentStep⟩ := serve_capacity_alignment heap call
    exact ⟨hcapacity.trans hcapacityStep, halignment.trans halignmentStep⟩

end FirstFit
end HeapReplay.Heap
