import HeapReplay.Proofs.Heap.Addresses
import HeapReplay.Proofs.Word.Rounding

namespace HeapReplay.Heap

@[simp] theorem Span.addresses_pieces (span : Span) :
    FreeList.addresses span.pieces = span.addresses := by
  unfold Span.pieces
  split
  · simp
  · next hempty =>
    rw [UInt64.lt_iff_toNat_lt] at hempty
    symm
    simpa [Span.addresses] using hempty

theorem Span.canonical_pieces (span : Span) : FreeList.Canonical span.pieces := by
  unfold Span.pieces
  split
  · next hspan => exact FreeList.canonical_cons_iff.2 ⟨hspan, by simp, FreeList.canonical_nil⟩
  · exact FreeList.canonical_nil

namespace FreeList

theorem canonical_upTo (capacity : UInt64) : Canonical (upTo capacity) :=
  Span.canonical_pieces _

theorem addresses_upTo (capacity : UInt64) :
    addresses (upTo capacity) = Finset.range capacity.toNat := by
  ext address
  simp [upTo]

/-- Spans lie inside a capacity exactly when all their addresses do. -/
theorem Canonical.stop_le_iff {spans : FreeList} (hcanonical : Canonical spans)
    (capacity : UInt64) :
    (∀ span ∈ spans, span.stop ≤ capacity) ↔ addresses spans ⊆ Finset.range capacity.toNat := by
  constructor
  · intro hstop address hmem
    obtain ⟨span, hspan, haddress⟩ := mem_addresses.1 hmem
    have hle := UInt64.le_iff_toNat_le.1 (hstop span hspan)
    have hlt := (Span.mem_addresses.1 haddress).2
    exact Finset.mem_range.2 (by omega)
  · intro hsubset span hspan
    have hnonempty := UInt64.lt_iff_toNat_lt.1 (hcanonical.nonempty span hspan)
    have hlast : span.stop.toNat - 1 ∈ addresses spans :=
      mem_addresses.2 ⟨span, hspan, Span.mem_addresses.2 ⟨by omega, by omega⟩⟩
    have hlt := Finset.mem_range.1 (hsubset hlast)
    exact UInt64.le_iff_toNat_le.2 (by omega)

theorem Canonical.start_le_of_mem {span : Span} {spans : FreeList} {address : Nat}
    (hcanonical : Canonical (span :: spans)) (hmem : address ∈ addresses (span :: spans)) :
    span.start.toNat ≤ address := by
  rw [addresses_cons, Finset.mem_union] at hmem
  cases hmem with
  | inl hspan => exact (Span.mem_addresses.1 hspan).1
  | inr hspans =>
    have hstop := hcanonical.stop_lt_of_mem_tail hspans
    have hnonempty := UInt64.lt_iff_toNat_lt.1 (canonical_cons_iff.1 hcanonical).1
    omega

/-- The first address behind the first span is in use: no other span touches it. -/
theorem Canonical.stop_not_mem {span : Span} {spans : FreeList}
    (hcanonical : Canonical (span :: spans)) :
    span.stop.toNat ∉ addresses (span :: spans) := by
  rw [addresses_cons, Finset.mem_union, not_or]
  constructor
  · intro hspan
    have hlt := (Span.mem_addresses.1 hspan).2
    omega
  · intro hspans
    have hlt := hcanonical.stop_lt_of_mem_tail hspans
    omega

/-- The first address behind a span is in use: no other span touches it. -/
theorem Canonical.stop_not_mem_of_mem {span : Span} {spans : FreeList}
    (hcanonical : Canonical spans) (hmem : span ∈ spans) : span.stop.toNat ∉ addresses spans := by
  obtain ⟨lower, upper, rfl⟩ := List.append_of_mem hmem
  obtain ⟨_, hupper, hbetween⟩ := canonical_append_iff.1 hcanonical
  rw [addresses_append, Finset.mem_union, not_or]
  refine ⟨?_, hupper.stop_not_mem⟩
  intro hlower
  obtain ⟨below, hbelow, hinside⟩ := mem_addresses.1 hlower
  have hgap := UInt64.lt_iff_toNat_lt.1 (hbetween below hbelow span List.mem_cons_self)
  have hnonempty := UInt64.lt_iff_toNat_lt.1 (canonical_cons_iff.1 hupper).1
  have hlt := (Span.mem_addresses.1 hinside).2
  omega

/-- Free addresses without a gap between them lie in one span. -/
theorem Canonical.exists_span {spans : FreeList} (hcanonical : Canonical spans) {start stop : Nat}
    (hlt : start < stop) (hfree : Finset.Ico start stop ⊆ addresses spans) :
    ∃ span ∈ spans, span.start.toNat ≤ start ∧ stop ≤ span.stop.toNat := by
  obtain ⟨span, hspan, hmem⟩ := mem_addresses.1 (hfree (Finset.mem_Ico.2 ⟨Nat.le_refl _, hlt⟩))
  obtain ⟨hstart, hstop⟩ := Span.mem_addresses.1 hmem
  refine ⟨span, hspan, hstart, ?_⟩
  by_contra hshort
  exact hcanonical.stop_not_mem_of_mem hspan (hfree (Finset.mem_Ico.2 ⟨by omega, by omega⟩))

private theorem head_start_le {a b : Span} {as bs : FreeList} (ha : Canonical (a :: as))
    (hb : Canonical (b :: bs)) (heq : addresses (a :: as) = addresses (b :: bs)) :
    a.start.toNat ≤ b.start.toNat := by
  refine ha.start_le_of_mem ?_
  rw [heq]
  exact hb.start_mem List.mem_cons_self

private theorem head_stop_le {a b : Span} {as bs : FreeList} (ha : Canonical (a :: as))
    (hb : Canonical (b :: bs)) (heq : addresses (a :: as) = addresses (b :: bs)) :
    a.stop.toNat ≤ b.stop.toNat := by
  by_contra hlonger
  have hstart := head_start_le ha hb heq
  have hnonempty := UInt64.lt_iff_toNat_lt.1 (canonical_cons_iff.1 hb).1
  apply hb.stop_not_mem
  rw [← heq, addresses_cons, Finset.mem_union]
  exact Or.inl (Span.mem_addresses.2 ⟨by omega, by omega⟩)

theorem Canonical.addresses_tail {span : Span} {spans : FreeList}
    (hcanonical : Canonical (span :: spans)) :
    addresses spans = addresses (span :: spans) \ span.addresses := by
  rw [addresses_cons, Finset.union_sdiff_cancel_left hcanonical.disjoint_tail]

/-- A set of free addresses has only one canonical list of spans, so the order in
    which blocks came and went cannot show in the list. -/
theorem Canonical.eq_of_addresses_eq {as bs : FreeList} (ha : Canonical as) (hb : Canonical bs)
    (heq : addresses as = addresses bs) : as = bs := by
  induction as generalizing bs with
  | nil =>
    cases bs with
    | nil => rfl
    | cons b bs =>
      have hmem := hb.start_mem List.mem_cons_self
      rw [← heq] at hmem
      exact absurd hmem (Finset.notMem_empty _)
  | cons a as ih =>
    cases bs with
    | nil =>
      have hmem := ha.start_mem List.mem_cons_self
      rw [heq] at hmem
      exact absurd hmem (Finset.notMem_empty _)
    | cons b bs =>
      have hstart := Nat.le_antisymm (head_start_le ha hb heq) (head_start_le hb ha heq.symm)
      have hstop := Nat.le_antisymm (head_stop_le ha hb heq) (head_stop_le hb ha heq.symm)
      have hhead : a = b := by
        cases a
        cases b
        rw [Span.mk.injEq]
        exact ⟨UInt64.toNat_inj.1 hstart, UInt64.toNat_inj.1 hstop⟩
      subst hhead
      have htail : addresses as = addresses bs := by
        rw [ha.addresses_tail, hb.addresses_tail, heq]
      rw [ih (canonical_cons_iff.1 ha).2.2 (canonical_cons_iff.1 hb).2.2 htail]

private theorem toNat_foldl_max (lengths : List UInt64) (start : UInt64) :
    (lengths.foldl max start).toNat = max start.toNat ((lengths.map UInt64.toNat).foldr max 0) := by
  induction lengths generalizing start with
  | nil => simp
  | cons length lengths ih =>
    rw [List.foldl_cons, ih, Word.toNat_max, List.map_cons, List.foldr_cons, Nat.max_assoc]

theorem toNat_largest_cons (span : Span) (spans : FreeList) :
    (largest (span :: spans)).toNat = max span.length.toNat (largest spans).toNat := by
  simp [largest, toNat_foldl_max, Word.toNat_max]

theorem largest_le_sum_length (spans : FreeList) :
    (largest spans).toNat ≤ (spans.map fun span => span.length.toNat).sum := by
  induction spans with
  | nil => exact Nat.le_refl 0
  | cons span spans ih =>
    rw [toNat_largest_cons, List.map_cons, List.sum_cons]
    omega

/-- The longest span holds all free bytes exactly when there is no second one. -/
theorem Canonical.largest_eq_sum_length_iff {spans : FreeList} (hcanonical : Canonical spans) :
    (largest spans).toNat = (spans.map fun span => span.length.toNat).sum ↔ spans.length ≤ 1 := by
  have hpos (span : Span) (hspan : span ∈ spans) : 0 < span.length.toNat := by
    rw [← Span.card_addresses (hcanonical.nonempty span hspan), Finset.card_pos]
    exact ⟨_, Span.start_mem_addresses (hcanonical.nonempty span hspan)⟩
  match spans with
  | [] => simp [largest]
  | [span] => simp [largest, Word.toNat_max]
  | first :: second :: spans =>
    have hfirst := hpos first (by simp)
    have hsecond := hpos second (by simp)
    have hrest := largest_le_sum_length spans
    simp only [toNat_largest_cons, List.map_cons, List.sum_cons, List.length_cons]
    omega

/-- A heap from which nothing is taken has one free span, or none when it has no bytes. -/
theorem length_upTo (capacity : UInt64) :
    (upTo capacity).length = if capacity = 0 then 0 else 1 := by
  unfold upTo Span.pieces
  by_cases hcapacity : capacity = 0
  · simp [hcapacity]
  · simp [hcapacity, UInt64.pos_iff_ne_zero]

theorem largest_upTo (capacity : UInt64) : largest (upTo capacity) = capacity := by
  rw [← UInt64.toNat_inj]
  unfold upTo Span.pieces
  by_cases hcapacity : capacity = 0
  · simp [hcapacity, largest]
  · simp [hcapacity, UInt64.pos_iff_ne_zero, largest, Span.length, Word.toNat_max]

end FreeList
end HeapReplay.Heap
