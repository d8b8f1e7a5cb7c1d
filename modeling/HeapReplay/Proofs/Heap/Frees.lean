import HeapReplay.Proofs.Heap.InUse
import HeapReplay.Proofs.Heap.Ledger

namespace HeapReplay.Heap.FirstFit

open FreeList

/-- The calls that give blocks back, one after the other. -/
def frees (blocks : List (RequestId × Grant)) : List (Call UInt64) :=
  blocks.map fun (id, grant) => .free id grant.size grant.address

variable {heap next other : FirstFit} {size address : UInt64} {blocks : List (RequestId × Grant)}

theorem release?_frame (hrelease : heap.release? size address = some next) :
    next =
      { heap with
        free := next.free
        bytesInUse := next.bytesInUse
        liveAllocations := heap.liveAllocations - 1 } := by
  obtain ⟨_, _, _, _, rfl⟩ := release?_eq_some_iff.1 hrelease
  rfl

/-- A block that is apart from the one given back stays in use. -/
theorem InUse.release {grant : Grant} (hused : heap.InUse grant.size grant.address)
    (hsound : heap.Sound) (hrelease : heap.release? size address = some next)
    (hdisjoint : Disjoint (blockAddresses heap.alignment size address)
      (grant.addresses heap.alignment)) :
    next.InUse grant.size grant.address := by
  have haddresses := (hsound.released hrelease).1
  rw [release?_frame hrelease] at haddresses ⊢
  refine ⟨hused.room, hused.inside, ?_⟩
  simp only [haddresses]
  exact Finset.disjoint_union_right.2 ⟨hused.apart, hdisjoint.symm⟩

/-- What giving blocks back leaves: all their bytes are free, and the number of live
    allocations is lower by the number of blocks, as far as it goes. -/
structure GivenBack (heap : FirstFit) (blocks : List (RequestId × Grant)) (next : FirstFit) :
    Prop where
  sound : next.Sound
  mem_iff : ∀ byte, byte ∈ addresses next.free ↔
    byte ∈ addresses heap.free ∨ ∃ block ∈ blocks, byte ∈ block.2.addresses heap.alignment
  frame : next =
    { heap with
      free := next.free
      bytesInUse := next.bytesInUse
      liveAllocations := heap.liveAllocations - blocks.length }

/-- Blocks that are in use and apart are all taken back. -/
theorem givenBack_frees (hsound : heap.Sound)
    (hused : ∀ block ∈ blocks, heap.InUse block.2.size block.2.address)
    (hdisjoint : blocks.Pairwise fun a b =>
      Disjoint (a.2.addresses heap.alignment) (b.2.addresses heap.alignment)) :
    GivenBack heap blocks (allocator.after heap (frees blocks)) ∧
      ∀ exchange ∈ allocator.transcript heap (frees blocks), exchange.answer = .ok none := by
  induction blocks generalizing heap with
  | nil =>
    exact ⟨⟨hsound, by simp [frees], rfl⟩, by simp [frees, Allocator.transcript]⟩
  | cons block blocks ih =>
    obtain ⟨id, grant⟩ := block
    obtain ⟨hfirst, hlater⟩ := List.forall_mem_cons.1 hused
    obtain ⟨happart, hdisjoint⟩ := List.pairwise_cons.1 hdisjoint
    obtain ⟨next, hrelease⟩ := (release?_isSome_iff_inUse hsound.canonical).2 hfirst
    have haddresses := (hsound.released hrelease).1
    have hserved : allocator.serve heap (.free id grant.size grant.address) = (.ok none, next) :=
      serve_freed hrelease
    have hnext := hsound.release hrelease
    have hkept (block : RequestId × Grant) (hmem : block ∈ blocks) :
        next.InUse block.2.size block.2.address :=
      (hlater block hmem).release hsound hrelease (happart block hmem)
    obtain ⟨_, _, _, _, rfl⟩ := release?_eq_some_iff.1 hrelease
    obtain ⟨⟨hlast, hmem, hframe⟩, hanswers⟩ := ih hnext hkept hdisjoint
    simp only [frees, List.map_cons, Allocator.after_cons, Allocator.transcript, hserved]
    refine ⟨⟨hlast, ?_, ?_⟩, List.forall_mem_cons.2 ⟨rfl, hanswers⟩⟩
    · intro byte
      rw [← frees, hmem]
      simp only [haddresses, Finset.mem_union, List.exists_mem_cons_iff, or_assoc, Grant.addresses]
    · rw [List.length_cons, Nat.add_comm, ← Nat.sub_sub]
      exact hframe

/-- The order in which blocks are given back cannot show in the heap: their bytes are the
    same, and the free bytes have only one list of spans. -/
theorem GivenBack.eq_of_perm {order : List (RequestId × Grant)}
    (hnext : GivenBack heap blocks next) (hother : GivenBack heap order other)
    (hperm : blocks.Perm order) : next = other := by
  have hcapacity : next.capacity = other.capacity := by
    rw [hnext.frame, hother.frame]
  have haddresses : addresses next.free = addresses other.free := by
    ext byte
    rw [hnext.mem_iff, hother.mem_iff]
    simp only [hperm.mem_iff]
  obtain ⟨hfree, hused⟩ := hnext.sound.eq_of_addresses_eq hother.sound hcapacity haddresses
  calc
    next = { heap with
        free := next.free
        bytesInUse := next.bytesInUse
        liveAllocations := heap.liveAllocations - blocks.length } := hnext.frame
    _ = { heap with
        free := other.free
        bytesInUse := other.bytesInUse
        liveAllocations := heap.liveAllocations - order.length } := by
      rw [hfree, hused, hperm.length_eq]
    _ = other := hother.frame.symm

/-- A granted block that is given back at once leaves the heap as it was, up to the
    statistics of what was asked for. -/
theorem Sound.free_granted (hsound : heap.Sound) {id : RequestId}
    (hgranted : allocator.allocate id size heap = (.ok (some address), next))
    (requester : RequestId) :
    ∃ last, allocator.free requester size address next = (.ok (), last) ∧
      last.free = heap.free ∧ last.bytesInUse = heap.bytesInUse ∧
      last.liveAllocations = heap.liveAllocations := by
  have hserved : allocator.serve heap (.allocate id size) = (.ok (some address), next) := hgranted
  cases hfind : heap.find? size with
  | none =>
    rw [serve_refused hfind] at hserved
    cases hserved
  | some found =>
    obtain ⟨place, length, free⟩ := found
    have hledger := (Ledger.refl hsound).taken id hfind
    obtain rfl : place = address := by
      rw [serve_granted hfind] at hserved
      cases hserved
      rfl
    rw [hserved] at hledger
    obtain ⟨last, hrelease, hlast⟩ := hledger.given (List.mem_singleton_self _)
    rw [List.erase_cons_head] at hlast
    exact ⟨last, free_of_release? hrelease requester, hlast.restored⟩

/-- After any calls, blocks that are in use and apart from each other are all taken back,
    in whatever order, and every order leaves the same heap. A block that was just granted
    and is given back leaves the free spans, the bytes in use and the number of live
    allocations as they were before. -/
theorem free_any_order (capacity : UInt64) (alignment : PosWord) (calls : List (Call UInt64)) :
    let heap := allocator.after (ofCapacity capacity alignment) calls
    (∀ blocks : List (RequestId × Grant),
        (∀ block ∈ blocks, heap.InUse block.2.size block.2.address) →
        (blocks.Pairwise fun a b =>
          Disjoint (a.2.addresses alignment) (b.2.addresses alignment)) →
        ∀ order, order.Perm blocks →
          (∀ exchange ∈ allocator.transcript heap (frees order), exchange.answer = .ok none) ∧
            allocator.after heap (frees order) = allocator.after heap (frees blocks)) ∧
      ∀ id size address next, allocator.allocate id size heap = (.ok (some address), next) →
        ∀ requester, ∃ last, allocator.free requester size address next = (.ok (), last) ∧
          last.free = heap.free ∧ last.bytesInUse = heap.bytesInUse ∧
          last.liveAllocations = heap.liveAllocations := by
  intro heap
  have hsound : heap.Sound := (sound_ofCapacity capacity alignment).after calls
  have halignment : heap.alignment = alignment :=
    (after_capacity_alignment (ofCapacity capacity alignment) calls).2
  constructor
  · intro blocks hused hdisjoint order hperm
    rw [← halignment] at hdisjoint
    have husedOrder (block : RequestId × Grant) (hmem : block ∈ order) :
        heap.InUse block.2.size block.2.address := hused block (hperm.mem_iff.1 hmem)
    have hdisjointOrder := (hperm.pairwise_iff fun hapart => hapart.symm).2 hdisjoint
    obtain ⟨hgiven, _⟩ := givenBack_frees hsound hused hdisjoint
    obtain ⟨hgivenOrder, hanswers⟩ := givenBack_frees hsound husedOrder hdisjointOrder
    exact ⟨hanswers, hgivenOrder.eq_of_perm hgiven hperm⟩
  · intro id size address next hgranted
    exact hsound.free_granted hgranted

/-- Three blocks side by side, of which the first two are not those that were granted, are
    given back from left to right and with the middle one last. -/
theorem free_any_order_neighbours :
    let calls : List (Call UInt64) := [.allocate 0 16, .allocate 1 16, .allocate 2 16]
    let heap := allocator.after (ofCapacity 64 ⟨8, by decide⟩) calls
    let blocks : List (RequestId × Grant) := [(0, ⟨24, 0⟩), (1, ⟨5, 24⟩), (2, ⟨16, 32⟩)]
    let order : List (RequestId × Grant) := [(2, ⟨16, 32⟩), (0, ⟨24, 0⟩), (1, ⟨5, 24⟩)]
    (allocator.after heap (frees blocks)).free = [⟨0, 64⟩] ∧
      allocator.after heap (frees order) = allocator.after heap (frees blocks) := by
  intro calls heap blocks order
  have hused : ∀ block ∈ blocks, heap.InUse block.2.size block.2.address := by decide +kernel
  have hdisjoint : blocks.Pairwise fun a b =>
      Disjoint (a.2.addresses ⟨8, by decide⟩) (b.2.addresses ⟨8, by decide⟩) := by decide +kernel
  have hperm : order.Perm blocks := by decide
  have horder := (free_any_order 64 ⟨8, by decide⟩ calls).1 blocks hused hdisjoint order hperm
  exact ⟨by decide +kernel, horder.2⟩

end HeapReplay.Heap.FirstFit
