import HeapReplay.Proofs.Heap.Grants

namespace HeapReplay.Heap

open FreeList

namespace Grant

/-- The number of bytes in a granted block. -/
def bytes (alignment : PosWord) (grant : Grant) : Nat := blockBytes alignment grant.size

/-- The bytes of a granted block. -/
def addresses (alignment : PosWord) (grant : Grant) : Finset Nat :=
  blockAddresses alignment grant.size grant.address

end Grant

namespace FirstFit

/-- A heap that differs from a start by grants: their blocks are apart from each other
    and from the free bytes, and together with these they are the bytes that were free
    at the start. -/
structure Ledger (start heap : FirstFit) (grants : List Grant) : Prop where
  start_sound : start.Sound
  sound : heap.Sound
  capacity : heap.capacity = start.capacity
  alignment : heap.alignment = start.alignment
  disjoint : grants.Pairwise fun a b =>
    Disjoint (a.addresses start.alignment) (b.addresses start.alignment)
  apart : ∀ grant ∈ grants, Disjoint (grant.addresses start.alignment) (addresses heap.free)
  cover : ∀ byte, byte ∈ addresses start.free ↔
    byte ∈ addresses heap.free ∨ ∃ grant ∈ grants, byte ∈ grant.addresses start.alignment
  aligned : ∀ grant ∈ grants, start.alignment.val.toNat ∣ grant.address.toNat
  room : ∀ grant ∈ grants,
    max grant.size.toNat 1 + (start.alignment.val.toNat - 1) < UInt64.size
  used : heap.bytesInUse.toNat =
    start.bytesInUse.toNat + (grants.map (Grant.bytes start.alignment)).sum
  live : heap.liveAllocations = start.liveAllocations + grants.length

namespace Ledger

variable {start heap : FirstFit} {grants : List Grant}

theorem refl (hsound : start.Sound) : Ledger start start [] where
  start_sound := hsound
  sound := hsound
  capacity := rfl
  alignment := rfl
  disjoint := List.Pairwise.nil
  apart := by simp
  cover := by simp
  aligned := by simp
  room := by simp
  used := by simp
  live := by simp

/-- The order of the grants does not matter. -/
theorem perm (hledger : Ledger start heap grants) {others : List Grant}
    (hperm : grants.Perm others) : Ledger start heap others where
  start_sound := hledger.start_sound
  sound := hledger.sound
  capacity := hledger.capacity
  alignment := hledger.alignment
  disjoint := (hperm.pairwise_iff fun hdisjoint => hdisjoint.symm).1 hledger.disjoint
  apart := fun grant hmem => hledger.apart grant (hperm.mem_iff.2 hmem)
  cover := fun byte => by
    rw [hledger.cover]
    simp only [hperm.mem_iff]
  aligned := fun grant hmem => hledger.aligned grant (hperm.mem_iff.2 hmem)
  room := fun grant hmem => hledger.room grant (hperm.mem_iff.2 hmem)
  used := by rw [hledger.used, (hperm.map _).sum_eq]
  live := by rw [hledger.live, hperm.length_eq]

/-- A granted block comes out of the free bytes, so it meets no block granted before. -/
theorem taken (hledger : Ledger start heap grants) (id : RequestId) {size address length : UInt64}
    {free : FreeList} (hfind : heap.find? size = some (address, length, free)) :
    Ledger start (allocator.serve heap (.allocate id size)).2 (⟨size, address⟩ :: grants) := by
  have hsound := hledger.sound.allocate id size
  obtain ⟨hroom, hlength, haligned, hsubset, hcanonical, haddresses⟩ :=
    find?_spec hledger.sound.canonical hfind
  obtain ⟨_, hused⟩ := hledger.sound.taken hfind
  rw [hledger.alignment] at hroom haligned hsubset haddresses hused
  rw [serve_granted hfind] at hsound ⊢
  refine ⟨hledger.start_sound, hsound, hledger.capacity, hledger.alignment,
    ?_, ?_, ?_, ?_, ?_, ?_, ?_⟩
  · refine List.pairwise_cons.2 ⟨?_, hledger.disjoint⟩
    intro other hother
    exact (Finset.disjoint_of_subset_right hsubset (hledger.apart other hother)).symm
  · simp only [haddresses]
    refine List.forall_mem_cons.2 ⟨Finset.disjoint_sdiff, ?_⟩
    intro other hother
    exact Finset.disjoint_of_subset_right Finset.sdiff_subset (hledger.apart other hother)
  · intro byte
    have hblock := @hsubset byte
    rw [hledger.cover]
    simp only [haddresses, Finset.mem_sdiff, List.exists_mem_cons_iff]
    simp only [Grant.addresses]
    tauto
  · exact List.forall_mem_cons.2 ⟨haligned, hledger.aligned⟩
  · exact List.forall_mem_cons.2 ⟨hroom, hledger.room⟩
  · simp only [hused, hledger.used, List.map_cons, List.sum_cons, Grant.bytes]
    omega
  · simp only [hledger.live, List.length_cons]
    omega

theorem inside (hledger : Ledger start heap grants) {grant : Grant} (hmem : grant ∈ grants) :
    grant.addresses start.alignment ⊆ Finset.range start.capacity.toNat := by
  intro byte hbyte
  exact hledger.start_sound.inside ((hledger.cover byte).2 (Or.inr ⟨grant, hmem, hbyte⟩))

theorem stop_le (hledger : Ledger start heap grants) {grant : Grant} (hmem : grant ∈ grants) :
    grant.address.toNat + grant.bytes start.alignment ≤ start.capacity.toNat := by
  have hpos := blockBytes_pos start.alignment grant.size
  have hlast : grant.address.toNat + grant.bytes start.alignment - 1 ∈
      grant.addresses start.alignment := by
    simp only [Grant.addresses, Grant.bytes, blockAddresses, Finset.mem_Ico]
    omega
  have hlt := Finset.mem_range.1 (hledger.inside hmem hlast)
  omega

/-- A granted block is taken back, and the grants are left without it. -/
theorem given (hledger : Ledger start heap grants) {grant : Grant} (hmem : grant ∈ grants) :
    ∃ next, heap.release? grant.size grant.address = some next ∧
      Ledger start next (grants.erase grant) := by
  have hmoved := hledger.perm (List.perm_cons_erase hmem)
  obtain ⟨block, hblock⟩ : ∃ block, heap.block? grant.size grant.address = some block := by
    rw [block?_isSome_iff, hledger.alignment, hledger.capacity]
    exact ⟨hledger.room grant hmem, hledger.stop_le hmem⟩
  have hfree : Disjoint (blockAddresses heap.alignment grant.size grant.address)
      (addresses heap.free) := by
    rw [hledger.alignment]
    exact hledger.apart grant hmem
  obtain ⟨next, hrelease⟩ := (release?_isSome_iff hledger.sound.canonical hblock).2 hfree
  have hsound := hledger.sound.release hrelease
  refine ⟨next, hrelease, ?_⟩
  obtain ⟨_, free, hsame, hfreed, rfl⟩ := release?_spec hledger.sound.canonical hrelease
  cases hblock.symm.trans hsame
  obtain ⟨_, haddresses, _⟩ := addresses_of_block? hblock
  obtain ⟨_, _, _, hused⟩ := hledger.sound.given hblock hfreed
  rw [hledger.alignment] at haddresses hused
  obtain ⟨hother, hdisjoint⟩ := List.pairwise_cons.1 hmoved.disjoint
  obtain ⟨_, hapart⟩ := List.forall_mem_cons.1 hmoved.apart
  refine ⟨hledger.start_sound, hsound, hledger.capacity, hledger.alignment, hdisjoint,
    ?_, ?_, ?_, ?_, ?_, ?_⟩
  · intro other hmem
    simp only [hfreed.addresses_eq, haddresses]
    exact Finset.disjoint_union_right.2 ⟨(hother other hmem).symm, hapart other hmem⟩
  · intro byte
    simp only [hmoved.cover, hfreed.addresses_eq, haddresses, Finset.mem_union,
      List.exists_mem_cons_iff]
    simp only [Grant.addresses]
    tauto
  · exact (List.forall_mem_cons.1 hmoved.aligned).2
  · exact (List.forall_mem_cons.1 hmoved.room).2
  · have hsum := hmoved.used
    simp only [List.map_cons, List.sum_cons, Grant.bytes] at hsum ⊢
    omega
  · have hlive := hmoved.live
    simp only [List.length_cons] at hlive ⊢
    omega

/-- One call, when a free is of a block that is outstanding. Such a free is never
    refused. -/
theorem serve (hledger : Ledger start heap grants) (call : Call UInt64)
    (hrightful : Rightful grants call) :
    Ledger start (allocator.serve heap call).2 (note grants ⟨call, (allocator.serve heap call).1⟩) ∧
      ∀ id size address, call = .free id size address →
        (allocator.serve heap call).1 = .ok none := by
  have hsound := hledger.sound.serve call
  cases call with
  | allocate id size =>
    refine ⟨?_, by simp⟩
    cases hfind : heap.find? size with
    | none =>
      rw [serve_refused hfind] at hsound ⊢
      exact { hledger with sound := hsound }
    | some found =>
      obtain ⟨address, length, free⟩ := found
      have hgranted := hledger.taken id hfind
      rw [serve_granted hfind] at hgranted ⊢
      exact hgranted
  | free id size address =>
    obtain ⟨next, hrelease, hnext⟩ := hledger.given hrightful
    rw [serve_freed hrelease]
    exact ⟨hnext, fun _ _ _ _ => rfl⟩
  | report => exact ⟨{ hledger with sound := hsound }, by simp⟩

/-- A rightful call is never answered by an error. -/
theorem answered (hledger : Ledger start heap grants) {call : Call UInt64}
    (hrightful : Rightful grants call) : ∃ content, (allocator.serve heap call).1 = .ok content := by
  cases call with
  | allocate id size =>
    cases hfind : heap.find? size with
    | none => exact ⟨none, by rw [serve_refused hfind]⟩
    | some found => exact ⟨some found.1, by rw [serve_granted hfind]⟩
  | free id size address => exact ⟨none, (hledger.serve _ hrightful).2 id size address rfl⟩
  | report => exact ⟨none, rfl⟩

/-- A heap without grants has the free bytes of its start, in the same spans. -/
theorem restored (hledger : Ledger start heap []) :
    heap.free = start.free ∧ heap.bytesInUse = start.bytesInUse ∧
      heap.liveAllocations = start.liveAllocations := by
  have haddresses : FreeList.addresses heap.free = FreeList.addresses start.free := by
    ext byte
    simpa using (hledger.cover byte).symm
  obtain ⟨hfree, hused⟩ :=
    hledger.sound.eq_of_addresses_eq hledger.start_sound hledger.capacity haddresses
  exact ⟨hfree, hused, hledger.live⟩

end Ledger

/-- After calls whose frees are all of outstanding blocks, the heap differs from its
    start by the outstanding blocks. -/
theorem ledger_after {start : FirstFit} (hsound : start.Sound) (calls : List (Call UInt64))
    (hhonest : Honest (allocator.transcript start calls)) :
    Ledger start (allocator.after start calls) (outstanding (allocator.transcript start calls)) ∧
      ∀ id size address answer,
        ⟨.free id size address, answer⟩ ∈ allocator.transcript start calls → answer = .ok none := by
  induction calls using List.reverseRecOn with
  | nil => exact ⟨Ledger.refl hsound, by simp [Allocator.transcript]⟩
  | append_singleton calls call ih =>
    rw [Allocator.transcript_concat] at hhonest ⊢
    obtain ⟨hbefore, hlast⟩ := honest_concat_iff.1 hhonest
    obtain ⟨hledger, hanswers⟩ := ih hbefore
    obtain ⟨hnext, hanswer⟩ := hledger.serve call hlast
    rw [Allocator.after_concat, outstanding_concat]
    refine ⟨hnext, ?_⟩
    intro id size address answer hmem
    cases List.mem_append.1 hmem with
    | inl hearlier => exact hanswers id size address answer hearlier
    | inr hlater =>
      obtain ⟨hcall, rfl⟩ := (Exchange.mk.injEq ..).mp (List.mem_singleton.1 hlater)
      exact hanswer id size address hcall.symm

end FirstFit
end HeapReplay.Heap
