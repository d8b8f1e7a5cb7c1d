import HeapReplay.Proofs.Heap.Canonical

namespace HeapReplay.Heap

namespace Span

/-- A block fits into a span from the first aligned address on, and only when the
    rounding stays within the words. -/
theorem fit?_eq_some_iff {alignment : PosWord} {length start : UInt64} {span : Span} :
    span.fit? alignment length = some start ↔
      span.start.toNat + (alignment.val.toNat - 1) < UInt64.size ∧
        start.toNat = Word.roundUp alignment.val.toNat span.start.toNat ∧
        start.toNat + length.toNat ≤ span.stop.toNat := by
  have hword := span.stop.toNat_lt
  have hsum {sum : UInt64} (hlt : start.toNat + length.toNat < UInt64.size)
      (hadd : sum = start + length) : sum.toNat = start.toNat + length.toNat := by
    rw [hadd, UInt64.toNat_add, Nat.mod_eq_of_lt hlt]
  simp only [fit?, Option.bind_eq_bind, Option.bind_eq_some_iff, Word.alignUp?_eq_some_iff,
    Word.add?_eq_some_iff, Option.ite_none_right_eq_some, Option.some.injEq]
  constructor
  · rintro ⟨aligned, ⟨hroom, haligned⟩, stop, ⟨hlt, hstop⟩, hle, rfl⟩
    rw [UInt64.le_iff_toNat_le, hsum hlt hstop] at hle
    exact ⟨hroom, haligned, hle⟩
  · rintro ⟨hroom, haligned, hle⟩
    have hlt : start.toNat + length.toNat < UInt64.size := Nat.lt_of_le_of_lt hle hword
    refine ⟨start, ⟨hroom, haligned⟩, start + length, ⟨hlt, rfl⟩, ?_, rfl⟩
    rwa [UInt64.le_iff_toNat_le, hsum hlt rfl]

theorem pieces_within {span piece : Span} (hmem : piece ∈ span.pieces) : piece = span := by
  unfold pieces at hmem
  split at hmem
  · exact List.mem_singleton.1 hmem
  · cases hmem

theorem addresses_without {span taken : Span} (hstart : span.start ≤ taken.start)
    (hstop : taken.stop ≤ span.stop) (htaken : taken.start < taken.stop) :
    FreeList.addresses (span.without taken) = span.addresses \ taken.addresses := by
  rw [UInt64.le_iff_toNat_le] at hstart hstop
  rw [UInt64.lt_iff_toNat_lt] at htaken
  ext address
  simp only [without, FreeList.addresses_append, addresses_pieces, Finset.mem_union,
    Finset.mem_sdiff, mem_addresses]
  omega

theorem canonical_without {span taken : Span} (htaken : taken.start < taken.stop) :
    FreeList.Canonical (span.without taken) := by
  refine FreeList.canonical_append_iff.2 ⟨canonical_pieces _, canonical_pieces _, ?_⟩
  intro below hbelow above habove
  rw [pieces_within hbelow, pieces_within habove]
  exact htaken

/-- What is left of a span stays inside it. -/
theorem within_of_mem_without {span taken piece : Span} (hstart : span.start ≤ taken.start)
    (hstop : taken.stop ≤ span.stop) (htaken : taken.start < taken.stop)
    (hmem : piece ∈ span.without taken) : span.start ≤ piece.start ∧ piece.stop ≤ span.stop := by
  rw [UInt64.le_iff_toNat_le] at hstart hstop
  rw [UInt64.lt_iff_toNat_lt] at htaken
  simp only [UInt64.le_iff_toNat_le]
  cases List.mem_append.1 hmem with
  | inl hfront =>
    rw [pieces_within hfront]
    exact ⟨Nat.le_refl _, by simp only; omega⟩
  | inr hback =>
    rw [pieces_within hback]
    exact ⟨by simp only; omega, Nat.le_refl _⟩

end Span

namespace FreeList

/-- A block comes out of the first span in which it fits; all other spans stay. -/
theorem take?_eq_some {alignment : PosWord} {length start : UInt64} {spans rest : FreeList}
    (htake : take? alignment length spans = some (start, rest)) :
    ∃ lower span upper, spans = lower ++ span :: upper ∧
      (∀ below ∈ lower, below.fit? alignment length = none) ∧
      span.fit? alignment length = some start ∧
      rest = lower ++ (span.without ⟨start, start + length⟩ ++ upper) := by
  induction spans generalizing rest with
  | nil => cases htake
  | cons span spans ih =>
    rw [take?] at htake
    cases hfit : span.fit? alignment length with
    | some found =>
      simp only [hfit, Option.some.injEq, Prod.mk.injEq] at htake
      obtain ⟨rfl, rfl⟩ := htake
      exact ⟨[], span, spans, rfl, by simp, hfit, rfl⟩
    | none =>
      simp only [hfit, Option.map_eq_some_iff, Prod.exists, Prod.mk.injEq] at htake
      obtain ⟨found, left, htail, rfl, rfl⟩ := htake
      obtain ⟨lower, hole, upper, rfl, hlower, hhole, rfl⟩ := ih htail
      exact ⟨span :: lower, hole, upper, rfl, List.forall_mem_cons.2 ⟨hfit, hlower⟩, hhole, rfl⟩

theorem take?_eq_none_iff {alignment : PosWord} {length : UInt64} {spans : FreeList} :
    take? alignment length spans = none ↔ ∀ span ∈ spans, span.fit? alignment length = none := by
  induction spans with
  | nil => simp [take?]
  | cons span spans ih =>
    rw [take?]
    cases hfit : span.fit? alignment length with
    | some found => simp [hfit]
    | none => simp [hfit, ih]

/-- A taken block was free in all its bytes. The list stays canonical and loses
    exactly these bytes. -/
theorem take?_spec {alignment : PosWord} {length start : UInt64} {spans rest : FreeList}
    (hcanonical : Canonical spans) (hlength : 0 < length.toNat)
    (htake : take? alignment length spans = some (start, rest)) :
    alignment.val.toNat ∣ start.toNat ∧
      Finset.Ico start.toNat (start.toNat + length.toNat) ⊆ addresses spans ∧
      Canonical rest ∧
      addresses rest = addresses spans \ Finset.Ico start.toNat (start.toNat + length.toNat) := by
  obtain ⟨lower, span, upper, rfl, _, hfit, rfl⟩ := take?_eq_some htake
  obtain ⟨_, haligned, hle⟩ := Span.fit?_eq_some_iff.1 hfit
  have hword := span.stop.toNat_lt
  have hrounded := (Word.roundUp_bounds (Word.unit_pos alignment) span.start.toNat).1
  have hstop : (start + length).toNat = start.toNat + length.toNat := by
    rw [UInt64.toNat_add, Nat.mod_eq_of_lt (by omega)]
  have htaken : (⟨start, start + length⟩ : Span).addresses =
      Finset.Ico start.toNat (start.toNat + length.toNat) := by
    rw [Span.addresses, hstop]
  have hfront : span.start ≤ start := UInt64.le_iff_toNat_le.2 (by omega)
  have hback : start + length ≤ span.stop := UInt64.le_iff_toNat_le.2 (by omega)
  have hblock : start < start + length := UInt64.lt_iff_toNat_lt.2 (by omega)
  obtain ⟨hlower, hspans, hbetween⟩ := canonical_append_iff.1 hcanonical
  obtain ⟨hspan, habove, hupper⟩ := canonical_cons_iff.1 hspans
  have hinside : Finset.Ico start.toNat (start.toNat + length.toNat) ⊆ span.addresses := by
    intro address hmem
    rw [Finset.mem_Ico] at hmem
    exact Span.mem_addresses.2 ⟨by omega, by omega⟩
  refine ⟨haligned ▸ Word.dvd_roundUp _ _, ?_, ?_, ?_⟩
  · rw [addresses_append, addresses_cons]
    exact hinside.trans (Finset.subset_union_left.trans Finset.subset_union_right)
  · have hpieces {piece : Span} (hmem : piece ∈ span.without ⟨start, start + length⟩) :=
      Span.within_of_mem_without hfront hback hblock hmem
    refine canonical_append_iff.2 ⟨hlower, canonical_append_iff.2
      ⟨Span.canonical_without hblock, hupper, ?_⟩, ?_⟩
    · intro piece hpiece next hnext
      exact UInt64.lt_of_le_of_lt (hpieces hpiece).2 (habove next hnext)
    · intro below hbelow above hmem
      cases List.mem_append.1 hmem with
      | inl hpiece =>
        exact UInt64.lt_of_lt_of_le (hbetween below hbelow span List.mem_cons_self)
          (hpieces hpiece).1
      | inr hnext => exact hbetween below hbelow above (List.mem_cons_of_mem _ hnext)
  · -- The other spans keep their bytes: none of them meets the span of the block.
    have hother : Disjoint (addresses lower ∪ addresses upper)
        (Finset.Ico start.toNat (start.toNat + length.toNat)) := by
      have hbelow := hcanonical.disjoint_append
      rw [addresses_cons] at hbelow
      refine Finset.disjoint_of_subset_right hinside (Finset.disjoint_union_left.2 ⟨?_, ?_⟩)
      · exact Finset.disjoint_of_subset_right Finset.subset_union_left hbelow
      · exact hspans.disjoint_tail.symm
    rw [addresses_append, addresses_append, Span.addresses_without hfront hback hblock, htaken,
      addresses_append, addresses_cons]
    ext address
    rw [Finset.disjoint_left] at hother
    have hnot := @hother address
    simp only [Finset.mem_union, Finset.mem_sdiff] at hnot ⊢
    tauto

end FreeList
end HeapReplay.Heap
