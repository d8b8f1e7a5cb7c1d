import HeapReplay.Proofs.Heap.Sound
import Mathlib.Order.Bounds.Basic

namespace HeapReplay.Heap

/-- A span with room for a block at some aligned address has room for it at the first
    one. The block is at least as long as the alignment, so the rounding to that address
    stays below the end of the span and within the words. -/
theorem Span.exists_fit? {alignment : PosWord} {length : UInt64} {span : Span} {start : Nat}
    (hpos : 0 < length.toNat) (hlength : alignment.val.toNat ∣ length.toNat)
    (hdvd : alignment.val.toNat ∣ start) (hstart : span.start.toNat ≤ start)
    (hstop : start + length.toNat ≤ span.stop.toNat) :
    ∃ address, span.fit? alignment length = some address ∧ address.toNat ≤ start := by
  have hunit := Word.unit_pos alignment
  have hword := span.stop.toNat_lt
  have hle := Nat.le_of_dvd hpos hlength
  have hrounded := Word.roundUp_le_of_dvd hunit hdvd hstart
  have haddress : (UInt64.ofNat (Word.roundUp alignment.val.toNat span.start.toNat)).toNat =
      Word.roundUp alignment.val.toNat span.start.toNat :=
    UInt64.toNat_ofNat_of_lt' (by simp only [UInt64.size]; omega)
  refine ⟨_, Span.fit?_eq_some_iff.2 ⟨?_, haddress, ?_⟩, ?_⟩
  · simp only [UInt64.size]
    omega
  · omega
  · omega

namespace FreeList

/-- The aligned addresses from which on a number of bytes is free. -/
def holes (alignment : PosWord) (length : Nat) (spans : FreeList) : Set Nat :=
  {start | alignment.val.toNat ∣ start ∧ Finset.Ico start (start + length) ⊆ addresses spans}

variable {alignment : PosWord} {length start : UInt64} {spans rest : FreeList}

/-- A hole lies in one span, so that span has room for the block. -/
theorem Canonical.exists_fit?_of_mem_holes (hcanonical : Canonical spans)
    (hpos : 0 < length.toNat) (hlength : alignment.val.toNat ∣ length.toNat) {hole : Nat}
    (hhole : hole ∈ holes alignment length.toNat spans) :
    ∃ span ∈ spans, span.start.toNat ≤ hole ∧
      ∃ address, span.fit? alignment length = some address ∧ address.toNat ≤ hole := by
  obtain ⟨hdvd, hfree⟩ := hhole
  obtain ⟨span, hspan, hstart, hstop⟩ := hcanonical.exists_span (by omega) hfree
  exact ⟨span, hspan, hstart, Span.exists_fit? hpos hlength hdvd hstart hstop⟩

/-- The first span with room is the one with the lowest hole: spans further up start
    behind its end. -/
theorem Canonical.isLeast_holes (hcanonical : Canonical spans) (hpos : 0 < length.toNat)
    (hlength : alignment.val.toNat ∣ length.toNat)
    (htake : take? alignment length spans = some (start, rest)) :
    IsLeast (holes alignment length.toNat spans) start.toNat := by
  obtain ⟨hdvd, hfree, _, _⟩ := take?_spec hcanonical hpos htake
  refine ⟨⟨hdvd, hfree⟩, ?_⟩
  intro hole hhole
  obtain ⟨span, hspan, hstart, address, hfit, hle⟩ :=
    hcanonical.exists_fit?_of_mem_holes hpos hlength hhole
  obtain ⟨lower, first, upper, rfl, hlower, hfound, _⟩ := take?_eq_some htake
  rcases List.mem_append.1 hspan with hbelow | hother
  · rw [hlower span hbelow] at hfit
    cases hfit
  · rcases List.mem_cons.1 hother with rfl | habove
    · rw [hfound, Option.some.injEq] at hfit
      rwa [hfit]
    · have hgap := (canonical_cons_iff.1 (canonical_append_iff.1 hcanonical).2.1).2.1 span habove
      have hroom := (Span.fit?_eq_some_iff.1 hfound).2.2
      rw [UInt64.lt_iff_toNat_lt] at hgap
      omega

/-- A block is refused only when there is no hole for it. -/
theorem Canonical.take?_isSome_iff (hcanonical : Canonical spans) (hpos : 0 < length.toNat)
    (hlength : alignment.val.toNat ∣ length.toNat) :
    (∃ start rest, take? alignment length spans = some (start, rest)) ↔
      (holes alignment length.toNat spans).Nonempty := by
  constructor
  · rintro ⟨start, rest, htake⟩
    exact ⟨start.toNat, (hcanonical.isLeast_holes hpos hlength htake).1⟩
  · rintro ⟨hole, hhole⟩
    obtain ⟨span, hspan, _, address, hfit, _⟩ :=
      hcanonical.exists_fit?_of_mem_holes hpos hlength hhole
    cases htake : take? alignment length spans with
    | none =>
      rw [take?_eq_none_iff.1 htake span hspan] at hfit
      cases hfit
    | some taken => exact ⟨taken.1, taken.2, rfl⟩

end FreeList

namespace FirstFit

open FreeList

variable {heap : FirstFit} {size address length : UInt64} {free : FreeList}

theorem blockLength?_isSome_iff :
    (∃ length, heap.blockLength? size = some length) ↔
      max size.toNat 1 + (heap.alignment.val.toNat - 1) < UInt64.size := by
  constructor
  · rintro ⟨length, hlength⟩
    exact (blockLength?_eq_some_iff.1 hlength).1
  · intro hroom
    have hle := (Word.roundUp_bounds (Word.unit_pos heap.alignment) (max size.toNat 1)).2
    exact ⟨_, blockLength?_eq_some_iff.2
      ⟨hroom, UInt64.toNat_ofNat_of_lt' (Nat.lt_of_le_of_lt hle hroom)⟩⟩

/-- The block for a size goes into the lowest hole. -/
theorem isLeast_holes_of_find? (hcanonical : Canonical heap.free)
    (hfind : heap.find? size = some (address, length, free)) :
    IsLeast (holes heap.alignment (blockBytes heap.alignment size) heap.free) address.toNat := by
  obtain ⟨hlength, htake⟩ := find?_eq_some_iff.1 hfind
  obtain ⟨_, hbytes⟩ := blockLength?_eq_some_iff.1 hlength
  rw [← hbytes]
  refine hcanonical.isLeast_holes ?_ ?_ htake
  · rw [hbytes]
    exact blockBytes_pos heap.alignment size
  · rw [hbytes]
    exact Word.dvd_roundUp _ _

/-- A request is granted exactly when its rounding stays within the words and there is a
    hole for its block. -/
theorem find?_isSome_iff (hcanonical : Canonical heap.free) :
    (∃ address length free, heap.find? size = some (address, length, free)) ↔
      max size.toNat 1 + (heap.alignment.val.toNat - 1) < UInt64.size ∧
        (holes heap.alignment (blockBytes heap.alignment size) heap.free).Nonempty := by
  constructor
  · rintro ⟨address, length, free, hfind⟩
    exact ⟨(find?_spec hcanonical hfind).1, _, (isLeast_holes_of_find? hcanonical hfind).1⟩
  · rintro ⟨hroom, hhole⟩
    obtain ⟨length, hlength⟩ := blockLength?_isSome_iff.2 hroom
    obtain ⟨_, hbytes⟩ := blockLength?_eq_some_iff.1 hlength
    rw [← hbytes] at hhole
    have hpos : 0 < length.toNat := hbytes ▸ blockBytes_pos heap.alignment size
    have hdvd : heap.alignment.val.toNat ∣ length.toNat := hbytes ▸ Word.dvd_roundUp _ _
    obtain ⟨address, free, htake⟩ := (hcanonical.take?_isSome_iff hpos hdvd).2 hhole
    exact ⟨address, length, free, find?_eq_some_iff.2 ⟨hlength, htake⟩⟩

/-- After any calls, a request is granted exactly when some aligned address has all bytes
    of its block free, and then at the lowest such address: these bytes are no longer
    free and count as in use. A request that is refused, also one whose rounding leaves
    the words, is only counted. -/
theorem allocate_lowest (capacity : UInt64) (alignment : PosWord) (calls : List (Call UInt64))
    (id : RequestId) (size : UInt64) :
    let heap := allocator.after (ofCapacity capacity alignment) calls
    let answer := (allocator.allocate id size heap).1
    let next := (allocator.allocate id size heap).2
    let fits := holes alignment (blockBytes alignment size) heap.free
    ((∃ address, answer = .ok (some address)) ↔
        max size.toNat 1 + (alignment.val.toNat - 1) < UInt64.size ∧ fits.Nonempty) ∧
      (∀ address, answer = .ok (some address) →
        IsLeast fits address.toNat ∧
          FreeList.addresses next.free =
            FreeList.addresses heap.free \ blockAddresses alignment size address ∧
          next.bytesInUse.toNat = heap.bytesInUse.toNat + blockBytes alignment size) ∧
      ((¬ ∃ address, answer = .ok (some address)) →
        answer = .ok none ∧
          next = { heap with failedAllocations := heap.failedAllocations + 1 }) := by
  intro heap answer next fits
  have hsound : heap.Sound := (sound_ofCapacity capacity alignment).after calls
  have halignment : heap.alignment = alignment :=
    (after_capacity_alignment (ofCapacity capacity alignment) calls).2
  have hsome := @find?_isSome_iff heap size hsound.canonical
  rw [halignment] at hsome
  cases hfind : heap.find? size with
  | none =>
    have hserved : allocator.allocate id size heap =
        (.ok none, { heap with failedAllocations := heap.failedAllocations + 1 }) :=
      serve_refused hfind
    have hanswer : answer = .ok none := congrArg Prod.fst hserved
    have hrefused : ¬ ∃ address, answer = .ok (some address) := by
      rw [hanswer]
      rintro ⟨address, hgranted⟩
      cases hgranted
    have hfull : ¬ ∃ address length free, heap.find? size = some (address, length, free) := by
      rw [hfind]
      rintro ⟨address, length, free, hfound⟩
      cases hfound
    refine ⟨iff_of_false hrefused (hsome.not.1 hfull), ?_, ?_⟩
    · intro address hgranted
      exact absurd ⟨address, hgranted⟩ hrefused
    · exact fun _ => ⟨hanswer, congrArg Prod.snd hserved⟩
  | some found =>
    obtain ⟨address, length, free⟩ := found
    have hserved : allocator.allocate id size heap = _ := serve_granted hfind
    have hanswer : answer = .ok (some address) := congrArg Prod.fst hserved
    have hleast := isLeast_holes_of_find? hsound.canonical hfind
    obtain ⟨_, _, _, _, _, haddresses⟩ := find?_spec hsound.canonical hfind
    obtain ⟨_, hused⟩ := hsound.taken hfind
    rw [halignment] at hleast haddresses hused
    refine ⟨iff_of_true ⟨address, hanswer⟩ (hsome.1 ⟨address, length, free, hfind⟩), ?_, ?_⟩
    · intro other hother
      rw [hanswer, Except.ok.injEq, Option.some.injEq] at hother
      subst hother
      have hnext : next = _ := congrArg Prod.snd hserved
      rw [hnext]
      exact ⟨hleast, haddresses, hused⟩
    · exact fun hrefused => absurd ⟨address, hanswer⟩ hrefused

/-- Two pieces of blocks that lie side by side are given back, neither at an aligned
    address. Together they have room for a block in their middle. -/
theorem allocate_lowest_unaligned :
    let calls : List (Call UInt64) :=
      [.allocate 0 10, .allocate 1 20, .free 0 8 3, .free 1 8 11]
    let heap := allocator.after (ofCapacity 64 ⟨8, by decide⟩) calls
    heap.free = [⟨3, 19⟩, ⟨40, 64⟩] ∧
      (allocator.allocate 2 5 heap).1 = .ok (some 8) ∧
      IsLeast (holes ⟨8, by decide⟩ (blockBytes ⟨8, by decide⟩ 5) heap.free) 8 := by
  intro calls heap
  have hanswer : (allocator.allocate 2 5 heap).1 = .ok (some 8) := by decide +kernel
  have hlowest := (allocate_lowest 64 ⟨8, by decide⟩ calls 2 5).2.1 8 hanswer
  exact ⟨by decide +kernel, hanswer, hlowest.1⟩

end FirstFit
end HeapReplay.Heap
