import HeapReplay.Heap.FreeList
import Mathlib.Algebra.BigOperators.Group.List.Basic
import Mathlib.Algebra.GroupWithZero.Nat
import Mathlib.Order.Interval.Finset.Nat

namespace HeapReplay.Heap

/-- The addresses of a span, as numbers. -/
def Span.addresses (span : Span) : Finset Nat := Finset.Ico span.start.toNat span.stop.toNat

@[simp] theorem Span.mem_addresses {span : Span} {address : Nat} :
    address ∈ span.addresses ↔ span.start.toNat ≤ address ∧ address < span.stop.toNat := by
  simp [Span.addresses]

theorem Span.start_mem_addresses {span : Span} (hspan : span.start < span.stop) :
    span.start.toNat ∈ span.addresses := by
  rw [UInt64.lt_iff_toNat_lt] at hspan
  exact Span.mem_addresses.2 ⟨Nat.le_refl _, hspan⟩

theorem Span.card_addresses {span : Span} (hspan : span.start < span.stop) :
    span.addresses.card = span.length.toNat := by
  rw [Span.addresses, Nat.card_Ico, Span.length, UInt64.toNat_sub_of_le]
  exact UInt64.le_of_lt hspan

namespace FreeList

/-- The addresses of all spans of a list. -/
def addresses : FreeList → Finset Nat
  | [] => ∅
  | span :: spans => span.addresses ∪ addresses spans

@[simp] theorem addresses_nil : addresses [] = ∅ := rfl

@[simp] theorem addresses_cons (span : Span) (spans : FreeList) :
    addresses (span :: spans) = span.addresses ∪ addresses spans := rfl

@[simp] theorem addresses_append (lower upper : FreeList) :
    addresses (lower ++ upper) = addresses lower ∪ addresses upper := by
  induction lower with
  | nil => simp
  | cons span lower ih => simp [ih]

theorem mem_addresses {spans : FreeList} {address : Nat} :
    address ∈ addresses spans ↔ ∃ span ∈ spans, address ∈ span.addresses := by
  induction spans with
  | nil => simp
  | cons span spans ih => simp [ih]

/-- Spans that are not empty, in ascending order, with at least one address
    between two neighbours. -/
structure Canonical (spans : FreeList) : Prop where
  nonempty : ∀ span ∈ spans, span.start < span.stop
  apart : spans.Pairwise fun lower upper => lower.stop < upper.start

theorem canonical_nil : Canonical [] := ⟨by simp, .nil⟩

theorem canonical_cons_iff {span : Span} {spans : FreeList} :
    Canonical (span :: spans) ↔
      span.start < span.stop ∧ (∀ upper ∈ spans, span.stop < upper.start) ∧ Canonical spans := by
  constructor
  · rintro ⟨hnonempty, hapart⟩
    obtain ⟨hspan, hspans⟩ := List.forall_mem_cons.1 hnonempty
    obtain ⟨habove, hrest⟩ := List.pairwise_cons.1 hapart
    exact ⟨hspan, habove, hspans, hrest⟩
  · rintro ⟨hspan, habove, hspans⟩
    exact ⟨List.forall_mem_cons.2 ⟨hspan, hspans.nonempty⟩,
      List.pairwise_cons.2 ⟨habove, hspans.apart⟩⟩

theorem canonical_append_iff {lower upper : FreeList} :
    Canonical (lower ++ upper) ↔ Canonical lower ∧ Canonical upper ∧
      ∀ below ∈ lower, ∀ above ∈ upper, below.stop < above.start := by
  constructor
  · rintro ⟨hnonempty, hapart⟩
    obtain ⟨hlower, hupper⟩ := List.forall_mem_append.1 hnonempty
    obtain ⟨hbelow, habove, hbetween⟩ := List.pairwise_append.1 hapart
    exact ⟨⟨hlower, hbelow⟩, ⟨hupper, habove⟩, hbetween⟩
  · rintro ⟨hlower, hupper, hbetween⟩
    exact ⟨List.forall_mem_append.2 ⟨hlower.nonempty, hupper.nonempty⟩,
      List.pairwise_append.2 ⟨hlower.apart, hupper.apart, hbetween⟩⟩

theorem Canonical.start_mem {spans : FreeList} {span : Span} (hcanonical : Canonical spans)
    (hmem : span ∈ spans) : span.start.toNat ∈ addresses spans :=
  mem_addresses.2 ⟨span, hmem, Span.start_mem_addresses (hcanonical.nonempty span hmem)⟩

/-- A span goes in front of spans whose addresses all lie above its end. -/
theorem Canonical.cons {span : Span} {spans : FreeList} (hspan : span.start < span.stop)
    (hspans : Canonical spans) (habove : ∀ address ∈ addresses spans, span.stop.toNat < address) :
    Canonical (span :: spans) := by
  refine canonical_cons_iff.2 ⟨hspan, fun upper hupper => ?_, hspans⟩
  exact UInt64.lt_iff_toNat_lt.2 (habove _ (hspans.start_mem hupper))

theorem Canonical.stop_lt_of_mem_tail {span : Span} {spans : FreeList} {address : Nat}
    (hcanonical : Canonical (span :: spans)) (hmem : address ∈ addresses spans) :
    span.stop.toNat < address := by
  obtain ⟨upper, hupper, haddress⟩ := mem_addresses.1 hmem
  have habove := (canonical_cons_iff.1 hcanonical).2.1 upper hupper
  rw [UInt64.lt_iff_toNat_lt] at habove
  have hstart := (Span.mem_addresses.1 haddress).1
  omega

theorem Canonical.disjoint_tail {span : Span} {spans : FreeList}
    (hcanonical : Canonical (span :: spans)) : Disjoint span.addresses (addresses spans) := by
  rw [Finset.disjoint_left]
  intro address hspan hspans
  have hstop := (Span.mem_addresses.1 hspan).2
  have habove := hcanonical.stop_lt_of_mem_tail hspans
  omega

theorem Canonical.disjoint_append {lower upper : FreeList}
    (hcanonical : Canonical (lower ++ upper)) : Disjoint (addresses lower) (addresses upper) := by
  rw [Finset.disjoint_left]
  intro address hlower hupper
  obtain ⟨below, hbelow, hinBelow⟩ := mem_addresses.1 hlower
  obtain ⟨above, habove, hinAbove⟩ := mem_addresses.1 hupper
  have hgap := (canonical_append_iff.1 hcanonical).2.2 below hbelow above habove
  rw [UInt64.lt_iff_toNat_lt] at hgap
  have hstop := (Span.mem_addresses.1 hinBelow).2
  have hstart := (Span.mem_addresses.1 hinAbove).1
  omega

/-- The lengths of the spans add up to the number of their addresses. -/
theorem Canonical.sum_length {spans : FreeList} (hcanonical : Canonical spans) :
    (spans.map fun span => span.length.toNat).sum = (addresses spans).card := by
  induction spans with
  | nil => rfl
  | cons span spans ih =>
    obtain ⟨hspan, _, hspans⟩ := canonical_cons_iff.1 hcanonical
    rw [List.map_cons, List.sum_cons, addresses_cons,
      Finset.card_union_of_disjoint hcanonical.disjoint_tail, Span.card_addresses hspan, ih hspans]

end FreeList
end HeapReplay.Heap
