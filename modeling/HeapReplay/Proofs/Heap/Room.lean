import HeapReplay.Proofs.Heap.Holes

namespace HeapReplay.Heap

namespace FreeList

/-- Whether every span starts at a multiple of a unit. -/
def StartsOn (unit : Nat) (spans : FreeList) : Prop := ∀ span ∈ spans, unit ∣ span.start.toNat

variable {unit : Nat} {spans rest : FreeList}

theorem startsOn_upTo (unit : Nat) (capacity : UInt64) : StartsOn unit (upTo capacity) := by
  intro span hspan
  rw [Span.pieces_within hspan]
  exact Nat.dvd_zero unit

/-- The back of the hole that a block leaves starts where the block stops, which is as
    aligned as the block. -/
theorem StartsOn.take {alignment : PosWord} {length start : UInt64}
    (hstarts : StartsOn alignment.val.toNat spans) (hlength : alignment.val.toNat ∣ length.toNat)
    (htake : take? alignment length spans = some (start, rest)) :
    StartsOn alignment.val.toNat rest := by
  obtain ⟨lower, hole, upper, rfl, _, hfit, rfl⟩ := take?_eq_some htake
  obtain ⟨_, haligned, hle⟩ := Span.fit?_eq_some_iff.1 hfit
  have hword := hole.stop.toNat_lt
  have hstop : (start + length).toNat = start.toNat + length.toNat := by
    rw [UInt64.toNat_add, Nat.mod_eq_of_lt (by omega)]
  intro span hspan
  simp only [List.mem_append, Span.without] at hspan
  rcases hspan with hlower | (hfront | hback) | hupper
  · exact hstarts span (List.mem_append_left _ hlower)
  · rw [Span.pieces_within hfront]
    exact hstarts hole (List.mem_append_right _ List.mem_cons_self)
  · rw [Span.pieces_within hback, hstop, haligned]
    exact Nat.dvd_add (Word.dvd_roundUp _ _) hlength
  · exact hstarts span (List.mem_append_right _ (List.mem_cons_of_mem _ hupper))

theorem StartsOn.attach {front : Span} (hstarts : StartsOn unit spans)
    (hfront : unit ∣ front.start.toNat) (hattach : attach? front spans = some rest) :
    StartsOn unit rest := by
  cases spans with
  | nil =>
    cases hattach
    exact List.forall_mem_singleton.2 hfront
  | cons next spans =>
    rw [attach?] at hattach
    split at hattach
    · cases hattach
    · split at hattach
      · cases hattach
        exact List.forall_mem_cons.2 ⟨hfront, (List.forall_mem_cons.1 hstarts).2⟩
      · cases hattach
        exact List.forall_mem_cons.2 ⟨hfront, hstarts⟩

/-- A block that is given back starts a span, or lengthens one that was there. -/
theorem StartsOn.give {block : Span} (hstarts : StartsOn unit spans)
    (hblock : unit ∣ block.start.toNat) (hgive : give? block spans = some rest) :
    StartsOn unit rest := by
  induction spans generalizing rest with
  | nil =>
    cases hgive
    exact List.forall_mem_singleton.2 hblock
  | cons span spans ih =>
    obtain ⟨hspan, hspans⟩ := List.forall_mem_cons.1 hstarts
    rw [give?] at hgive
    split at hgive
    · obtain ⟨above, habove, rfl⟩ := Option.map_eq_some_iff.1 hgive
      exact List.forall_mem_cons.2 ⟨hspan, ih hspans habove⟩
    · split at hgive
      · refine StartsOn.attach hspans ?_ hgive
        exact hspan
      · exact hstarts.attach hblock hgive

/-- A block that fits between a mark and the end is found, at the mark or below it: the
    span that reaches from the mark to the end starts at a hole. -/
theorem Canonical.take_below {alignment : PosWord} {length : UInt64} {mark capacity : Nat}
    (hcanonical : Canonical spans) (hstarts : StartsOn alignment.val.toNat spans)
    (hfree : Finset.Ico mark capacity ⊆ addresses spans) (hpos : 0 < length.toNat)
    (hlength : alignment.val.toNat ∣ length.toNat) (hroom : mark + length.toNat ≤ capacity) :
    ∃ start rest, take? alignment length spans = some (start, rest) ∧ start.toNat ≤ mark := by
  obtain ⟨last, hlast, hstart, hstop⟩ := hcanonical.exists_span (by omega) hfree
  have hhole : last.start.toNat ∈ holes alignment length.toNat spans := by
    refine ⟨hstarts last hlast, ?_⟩
    intro byte hbyte
    rw [Finset.mem_Ico] at hbyte
    exact mem_addresses.2 ⟨last, hlast, Span.mem_addresses.2 ⟨hbyte.1, by omega⟩⟩
  obtain ⟨start, rest, htake⟩ := (hcanonical.take?_isSome_iff hpos hlength).2 ⟨_, hhole⟩
  have hlowest := (hcanonical.isLeast_holes hpos hlength htake).2 hhole
  exact ⟨start, rest, htake, hlowest.trans hstart⟩

end FreeList

namespace FirstFit

open FreeList

/-- A heap whose free spans are aligned, and at whose end as many bytes are free as are
    still to be asked for. -/
structure Roomy (heap : FirstFit) (bytes : Nat) : Prop where
  sound : heap.Sound
  aligned : StartsOn heap.alignment.val.toNat heap.free
  room : ∃ mark, mark + bytes ≤ heap.capacity.toNat ∧
    Finset.Ico mark heap.capacity.toNat ⊆ addresses heap.free

theorem roomy_ofCapacity {capacity : UInt64} {bytes : Nat} (hbytes : bytes ≤ capacity.toNat)
    (alignment : PosWord) : (ofCapacity capacity alignment).Roomy bytes where
  sound := sound_ofCapacity capacity alignment
  aligned := startsOn_upTo _ capacity
  room := by
    refine ⟨0, by simpa [ofCapacity] using hbytes, ?_⟩
    simp only [ofCapacity, addresses_upTo, Nat.Ico_zero_eq_range, Finset.Subset.refl]

/-- A request is granted by an aligned block, and what is left at the end of the heap is
    enough for all others. First fit never takes from behind the mark while there is a
    hole below it. -/
theorem Roomy.find {heap : FirstFit} {size : UInt64} {more : Nat}
    (hroomy : heap.Roomy (blockBytes heap.alignment size + more))
    (hsize : max size.toNat 1 + (heap.alignment.val.toNat - 1) < UInt64.size) :
    ∃ address length free, heap.find? size = some (address, length, free) ∧
      heap.alignment.val.toNat ∣ address.toNat ∧
      StartsOn heap.alignment.val.toNat free ∧
      ∃ mark, mark + more ≤ heap.capacity.toNat ∧
        Finset.Ico mark heap.capacity.toNat ⊆ addresses free := by
  obtain ⟨hsound, haligned, mark, hroom, hfree⟩ := hroomy
  have hdvd : heap.alignment.val.toNat ∣ blockBytes heap.alignment size := Word.dvd_roundUp _ _
  have hword := heap.capacity.toNat_lt
  have hlength : (UInt64.ofNat (blockBytes heap.alignment size)).toNat =
      blockBytes heap.alignment size := UInt64.toNat_ofNat_of_lt' (by simp only [UInt64.size]; omega)
  have hblock := blockLength?_eq_some_iff.2 ⟨hsize, hlength⟩
  obtain ⟨address, free, htake, hbelow⟩ := hsound.canonical.take_below haligned hfree
    (by rw [hlength]; exact blockBytes_pos _ _) (by rwa [hlength]) (by rw [hlength]; omega)
  have hfind : heap.find? size =
      some (address, UInt64.ofNat (blockBytes heap.alignment size), free) :=
    find?_eq_some_iff.2 ⟨hblock, htake⟩
  obtain ⟨_, _, hon, _, _, haddresses⟩ := find?_spec hsound.canonical hfind
  refine ⟨_, _, _, hfind, hon, haligned.take (by rwa [hlength]) htake,
    mark + blockBytes heap.alignment size, by omega, ?_⟩
  intro byte hbyte
  rw [Finset.mem_Ico] at hbyte
  rw [haddresses, Finset.mem_sdiff, blockAddresses, Finset.mem_Ico]
  exact ⟨hfree (Finset.mem_Ico.2 ⟨by omega, hbyte.2⟩), by omega⟩

theorem Roomy.allocate {heap : FirstFit} (id : RequestId) {size : UInt64} {more : Nat}
    (hroomy : heap.Roomy (blockBytes heap.alignment size + more))
    (hsize : max size.toNat 1 + (heap.alignment.val.toNat - 1) < UInt64.size) :
    ∃ address next, allocator.allocate id size heap = (.ok (some address), next) ∧
      heap.alignment.val.toNat ∣ address.toNat ∧ next.alignment = heap.alignment ∧
      next.Roomy more := by
  obtain ⟨address, length, free, hfind, hon, hstarts, hroom⟩ := hroomy.find hsize
  have hserved : allocator.serve heap (.allocate id size) = _ := serve_granted hfind
  have hsound := hroomy.sound.allocate id size
  rw [hserved] at hsound
  exact ⟨address, _, hserved, hon, rfl, hsound, hstarts, hroom⟩

/-- An aligned block that comes back takes no room from the others. -/
theorem Roomy.release {heap next : FirstFit} {size address : UInt64} {bytes : Nat}
    (hroomy : heap.Roomy bytes) (haddress : heap.alignment.val.toNat ∣ address.toNat)
    (hrelease : heap.release? size address = some next) :
    next.alignment = heap.alignment ∧ next.Roomy bytes := by
  obtain ⟨block, free, hblock, hgive, hnext⟩ := release?_eq_some_iff.1 hrelease
  have hfreed := give?_freed hroomy.sound.canonical (addresses_of_block? hblock).1 hgive
  obtain ⟨_, _, rfl, _⟩ := block?_eq_some_iff.1 hblock
  obtain ⟨mark, hroom, hfree⟩ := hroomy.room
  have hsound := hroomy.sound.release hrelease
  subst hnext
  refine ⟨rfl, hsound, hroomy.aligned.give haddress hgive, mark, hroom, ?_⟩
  rw [hfreed.addresses_eq]
  exact hfree.trans Finset.subset_union_right

theorem Roomy.report {heap : FirstFit} {bytes : Nat} (hroomy : heap.Roomy bytes)
    (reports : Array Statistics) : ({ heap with reports } : FirstFit).Roomy bytes :=
  ⟨{ hroomy.sound with }, hroomy.aligned, hroomy.room⟩

end FirstFit
end HeapReplay.Heap
