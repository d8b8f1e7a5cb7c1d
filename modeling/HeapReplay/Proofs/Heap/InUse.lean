import HeapReplay.Proofs.Heap.Sound

namespace HeapReplay.Heap.FirstFit

open FreeList

/-- Whether the block for a size at an address is in use: it lies inside the heap and none
    of its bytes is free. A size whose rounding leaves the words has no block. -/
structure InUse (heap : FirstFit) (size address : UInt64) : Prop where
  room : max size.toNat 1 + (heap.alignment.val.toNat - 1) < UInt64.size
  inside : address.toNat + blockBytes heap.alignment size ≤ heap.capacity.toNat
  apart : Disjoint (blockAddresses heap.alignment size address) (addresses heap.free)

variable {heap next : FirstFit} {size address : UInt64}

theorem inUse_iff :
    heap.InUse size address ↔
      max size.toNat 1 + (heap.alignment.val.toNat - 1) < UInt64.size ∧
        address.toNat + blockBytes heap.alignment size ≤ heap.capacity.toNat ∧
        Disjoint (blockAddresses heap.alignment size address) (addresses heap.free) :=
  ⟨fun ⟨hroom, hinside, hapart⟩ => ⟨hroom, hinside, hapart⟩,
    fun ⟨hroom, hinside, hapart⟩ => ⟨hroom, hinside, hapart⟩⟩

instance (heap : FirstFit) (size address : UInt64) : Decidable (heap.InUse size address) :=
  decidable_of_iff _ inUse_iff.symm

/-- Blocks in use are taken back, and nothing else is. -/
theorem release?_isSome_iff_inUse (hcanonical : Canonical heap.free) :
    (∃ next, heap.release? size address = some next) ↔ heap.InUse size address := by
  constructor
  · rintro ⟨next, hrelease⟩
    obtain ⟨block, _, hblock, _⟩ := release?_eq_some_iff.1 hrelease
    obtain ⟨hroom, hinside⟩ := block?_isSome_iff.1 ⟨block, hblock⟩
    exact ⟨hroom, hinside, (release?_isSome_iff hcanonical hblock).1 ⟨next, hrelease⟩⟩
  · rintro ⟨hroom, hinside, hapart⟩
    obtain ⟨block, hblock⟩ := block?_isSome_iff.2 ⟨hroom, hinside⟩
    exact (release?_isSome_iff hcanonical hblock).2 hapart

/-- A block that is taken back adds its bytes to the free ones, and they no longer count
    as in use. -/
theorem Sound.released (hsound : heap.Sound) (hrelease : heap.release? size address = some next) :
    addresses next.free = addresses heap.free ∪ blockAddresses heap.alignment size address ∧
      next.bytesInUse.toNat + blockBytes heap.alignment size = heap.bytesInUse.toNat := by
  obtain ⟨block, free, hblock, hfreed, rfl⟩ := release?_spec hsound.canonical hrelease
  obtain ⟨_, haddresses, _⟩ := addresses_of_block? hblock
  obtain ⟨_, _, _, hused⟩ := hsound.given hblock hfreed
  refine ⟨?_, hused⟩
  rw [hfreed.addresses_eq, haddresses, Finset.union_comm]

theorem free_of_release? (hrelease : heap.release? size address = some next) (id : RequestId) :
    allocator.free id size address heap = (.ok (), next) := by
  simp [allocator, hrelease]

theorem Sound.free_of_not_inUse (hsound : heap.Sound) (hfree : ¬ heap.InUse size address)
    (id : RequestId) :
    allocator.free id size address heap = (.error (.invalidFree id address size), heap) := by
  cases hrelease : heap.release? size address with
  | none => simp [allocator, hrelease]
  | some next => exact absurd ((release?_isSome_iff_inUse hsound.canonical).1 ⟨next, hrelease⟩) hfree

/-- A call that is granted no block takes none of the free bytes. -/
theorem Sound.addresses_subset_serve (hsound : heap.Sound) (call : Call UInt64)
    (hgranted : ¬ Exchange.granted ⟨call, (allocator.serve heap call).1⟩) :
    addresses heap.free ⊆ addresses (allocator.serve heap call).2.free := by
  cases call with
  | allocate id size =>
    cases hfind : heap.find? size with
    | none =>
      rw [serve_refused hfind]
    | some found =>
      rw [serve_granted hfind] at hgranted
      exact absurd rfl hgranted
  | free id size address =>
    cases hrelease : heap.release? size address with
    | none =>
      rw [serve_invalid hrelease]
    | some next =>
      rw [serve_freed hrelease, (hsound.released hrelease).1]
      exact Finset.subset_union_left
  | report => exact Finset.Subset.refl _

/-- Bytes that are free stay free until a block is granted. -/
theorem Sound.addresses_subset_after (hsound : heap.Sound) (calls : List (Call UInt64))
    (hgranted : ∀ exchange ∈ allocator.transcript heap calls, ¬ exchange.granted) :
    addresses heap.free ⊆ addresses (allocator.after heap calls).free := by
  induction calls generalizing heap with
  | nil => exact Finset.Subset.refl _
  | cons call calls ih =>
    obtain ⟨hfirst, hlater⟩ := List.forall_mem_cons.1 hgranted
    exact (hsound.addresses_subset_serve call hfirst).trans (ih (hsound.serve call) hlater)

theorem not_inUse_of_mem (hmem : address.toNat ∈ addresses heap.free) :
    ¬ heap.InUse size address := by
  intro hinUse
  have hpos := blockBytes_pos heap.alignment size
  have hblock : address.toNat ∈ blockAddresses heap.alignment size address :=
    Finset.mem_Ico.2 ⟨Nat.le_refl _, by omega⟩
  exact Finset.disjoint_left.1 hinUse.apart hblock hmem

/-- A block that was taken back is refused from then on, until some block is granted. -/
theorem Sound.free_again (hsound : heap.Sound)
    (hrelease : heap.release? size address = some next) (calls : List (Call UInt64))
    (hgranted : ∀ exchange ∈ allocator.transcript next calls, ¬ exchange.granted)
    (id : RequestId) :
    allocator.free id size address (allocator.after next calls) =
      (.error (.invalidFree id address size), allocator.after next calls) := by
  have hnext := hsound.release hrelease
  have hpos := blockBytes_pos heap.alignment size
  have hfreed : address.toNat ∈ addresses next.free := by
    rw [(hsound.released hrelease).1]
    exact Finset.mem_union_right _ (Finset.mem_Ico.2 ⟨Nat.le_refl _, by omega⟩)
  refine (hnext.after calls).free_of_not_inUse (not_inUse_of_mem ?_) id
  exact hnext.addresses_subset_after calls hgranted hfreed

/-- After any calls, a block is taken back exactly when it is in use: its rounding stays
    within the words, it lies inside the heap and not one of its bytes is free. It then
    adds its bytes to the free ones, and a second time it is refused, whatever is called
    in between, as long as no block is granted. A refused free names the request, the
    address and the size that it was called with, and changes nothing. -/
theorem free_in_use (capacity : UInt64) (alignment : PosWord) (calls : List (Call UInt64))
    (id : RequestId) (size address : UInt64) :
    let heap := allocator.after (ofCapacity capacity alignment) calls
    let answer := (allocator.free id size address heap).1
    let next := (allocator.free id size address heap).2
    let block := blockAddresses alignment size address
    (answer = .ok () ↔
        max size.toNat 1 + (alignment.val.toNat - 1) < UInt64.size ∧
          address.toNat + blockBytes alignment size ≤ capacity.toNat ∧
          ∀ byte ∈ block, byte ∉ FreeList.addresses heap.free) ∧
      (answer = .ok () →
        FreeList.addresses next.free = FreeList.addresses heap.free ∪ block ∧
          next.bytesInUse.toNat + blockBytes alignment size = heap.bytesInUse.toNat ∧
          ∀ between, (∀ exchange ∈ allocator.transcript next between, ¬ exchange.granted) →
            ∀ other, allocator.free other size address (allocator.after next between) =
              (.error (.invalidFree other address size), allocator.after next between)) ∧
      (answer ≠ .ok () → answer = .error (.invalidFree id address size) ∧ next = heap) := by
  intro heap answer next block
  have hsound : heap.Sound := (sound_ofCapacity capacity alignment).after calls
  obtain ⟨hcapacity, halignment⟩ :=
    after_capacity_alignment (ofCapacity capacity alignment) calls
  have hinUse : heap.InUse size address ↔
      max size.toNat 1 + (alignment.val.toNat - 1) < UInt64.size ∧
        address.toNat + blockBytes alignment size ≤ capacity.toNat ∧
        ∀ byte ∈ block, byte ∉ FreeList.addresses heap.free := by
    rw [inUse_iff, hcapacity, halignment, Finset.disjoint_left]
    rfl
  by_cases hused : heap.InUse size address
  · obtain ⟨released, hrelease⟩ := (release?_isSome_iff_inUse hsound.canonical).2 hused
    have hserved := free_of_release? hrelease id
    have hanswer : answer = .ok () := congrArg Prod.fst hserved
    have hnext : next = released := congrArg Prod.snd hserved
    obtain ⟨haddresses, hbytes⟩ := hsound.released hrelease
    rw [halignment] at haddresses hbytes
    refine ⟨iff_of_true hanswer (hinUse.1 hused), ?_, fun hrefused => absurd hanswer hrefused⟩
    intro _
    rw [hnext]
    exact ⟨haddresses, hbytes, hsound.free_again hrelease⟩
  · have hserved := hsound.free_of_not_inUse hused id
    have hanswer : answer = .error (.invalidFree id address size) := congrArg Prod.fst hserved
    have hrefused : answer ≠ .ok () := by
      rw [hanswer]
      exact nofun
    refine ⟨iff_of_false hrefused (hinUse.not.1 hused), fun hok => absurd hok hrefused, ?_⟩
    exact fun _ => ⟨hanswer, congrArg Prod.snd hserved⟩

/-- A block that reaches from one granted block into the next is taken back, since all its
    bytes are in use. A refused free of the first block, a request without room and one for
    statistics do not make it free to be taken back again. -/
theorem free_in_use_straddling :
    let calls : List (Call UInt64) := [.allocate 0 16, .allocate 1 16]
    let between : List (Call UInt64) := [.free 0 16 0, .allocate 2 40, .report]
    let heap := allocator.after (ofCapacity 64 ⟨8, by decide⟩) calls
    let next := (allocator.free 7 8 12 heap).2
    (allocator.free 7 8 12 heap).1 = .ok () ∧
      next.free = [⟨12, 20⟩, ⟨32, 64⟩] ∧
      allocator.free 8 8 12 (allocator.after next between) =
        (.error (.invalidFree 8 12 8), allocator.after next between) := by
  intro calls between heap next
  have hanswer : (allocator.free 7 8 12 heap).1 = .ok () := by decide +kernel
  have hnone : ∀ exchange ∈ allocator.transcript next between, ¬ exchange.granted := by
    decide +kernel
  have hfreed := (free_in_use 64 ⟨8, by decide⟩ calls 7 8 12).2.1 hanswer
  refine ⟨hanswer, by decide +kernel, ?_⟩
  subst next heap
  exact hfreed.2.2 between hnone 8

end HeapReplay.Heap.FirstFit
