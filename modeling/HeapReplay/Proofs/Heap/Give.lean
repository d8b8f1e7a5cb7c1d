import HeapReplay.Proofs.Heap.Canonical

namespace HeapReplay.Heap.FreeList

/-- A list to which the bytes of a block were added, none of which it had. -/
structure Freed (block : Span) (spans rest : FreeList) : Prop where
  disjoint : Disjoint block.addresses (addresses spans)
  canonical : Canonical rest
  addresses_eq : addresses rest = block.addresses ∪ addresses spans

/-- To see whether a block meets a canonical list, the first span that ends behind
    the block's start is enough. -/
theorem Canonical.disjoint_iff_stop_le {block next : Span} {spans : FreeList}
    (hcanonical : Canonical (next :: spans)) (hblock : block.start < block.stop)
    (hbehind : block.start < next.stop) :
    Disjoint block.addresses (addresses (next :: spans)) ↔ block.stop ≤ next.start := by
  have hnext := (canonical_cons_iff.1 hcanonical).1
  rw [UInt64.lt_iff_toNat_lt] at hblock hbehind hnext
  rw [UInt64.le_iff_toNat_le, Finset.disjoint_left]
  constructor
  · intro hdisjoint
    by_contra hover
    apply hdisjoint (a := max block.start.toNat next.start.toNat)
    · exact Span.mem_addresses.2 ⟨by omega, by omega⟩
    · exact Finset.mem_union_left _ (Span.mem_addresses.2 ⟨by omega, by omega⟩)
  · intro hle address hmem hother
    have hlow := hcanonical.start_le_of_mem hother
    have hhigh := (Span.mem_addresses.1 hmem).2
    omega

/-- Two spans that touch cover the addresses of one. -/
theorem addresses_joined {lower upper : Span} (hlower : lower.start < lower.stop)
    (hupper : upper.start < upper.stop) (htouch : lower.stop = upper.start) :
    (⟨lower.start, upper.stop⟩ : Span).addresses = lower.addresses ∪ upper.addresses := by
  rw [UInt64.lt_iff_toNat_lt] at hlower hupper
  rw [htouch] at hlower
  simp only [Span.addresses, htouch]
  exact (Finset.Ico_union_Ico_eq_Ico hlower.le hupper.le).symm

/-- A span that ends at or before a block does not meet it. -/
theorem disjoint_of_stop_le {block span : Span} (hle : span.stop ≤ block.start) :
    Disjoint block.addresses span.addresses := by
  rw [UInt64.le_iff_toNat_le] at hle
  rw [Finset.disjoint_left]
  intro address hblock hspan
  have hlow := (Span.mem_addresses.1 hblock).1
  have hhigh := (Span.mem_addresses.1 hspan).2
  omega

theorem attach?_overlap {front : Span} {spans : FreeList} (hcanonical : Canonical spans)
    (hfront : front.start < front.stop) (hbehind : ∀ span ∈ spans, front.start < span.stop)
    (hattach : attach? front spans = none) : ¬ Disjoint front.addresses (addresses spans) := by
  cases spans with
  | nil => cases hattach
  | cons next spans =>
    rw [hcanonical.disjoint_iff_stop_le hfront (hbehind next List.mem_cons_self), UInt64.not_le]
    rw [attach?] at hattach
    split at hattach
    · assumption
    · split at hattach <;> cases hattach

theorem attach?_freed {front : Span} {spans rest : FreeList} (hcanonical : Canonical spans)
    (hfront : front.start < front.stop) (hbehind : ∀ span ∈ spans, front.start < span.stop)
    (hattach : attach? front spans = some rest) : Freed front spans rest := by
  cases spans with
  | nil =>
    rw [attach?, Option.some.injEq] at hattach
    subst hattach
    exact ⟨by simp, canonical_cons_iff.2 ⟨hfront, by simp, canonical_nil⟩, by simp⟩
  | cons next spans =>
    obtain ⟨hnext, habove, hspans⟩ := canonical_cons_iff.1 hcanonical
    rw [attach?] at hattach
    split at hattach
    · cases hattach
    · next hover =>
      have hle := UInt64.not_lt.1 hover
      have hdisjoint :=
        (hcanonical.disjoint_iff_stop_le hfront (hbehind next List.mem_cons_self)).2 hle
      split at hattach
      · next htouch =>
        cases hattach
        refine ⟨hdisjoint, canonical_cons_iff.2 ⟨?_, habove, hspans⟩, ?_⟩
        · exact UInt64.lt_trans hfront (htouch ▸ hnext)
        · rw [addresses_cons, addresses_cons, addresses_joined hfront hnext htouch.symm,
            Finset.union_assoc]
      · next hgap =>
        cases hattach
        have hlt : front.stop < next.start := UInt64.lt_of_le_of_ne hle (Ne.symm hgap)
        refine ⟨hdisjoint, canonical_cons_iff.2 ⟨hfront, ?_, hcanonical⟩, rfl⟩
        intro upper hupper
        cases List.mem_cons.1 hupper with
        | inl hhead => exact hhead ▸ hlt
        | inr htail => exact UInt64.lt_trans hlt (UInt64.lt_trans hnext (habove upper htail))

/-- A block is refused only when one of its bytes is free already. -/
theorem give?_overlap {block : Span} {spans : FreeList} (hcanonical : Canonical spans)
    (hblock : block.start < block.stop) (hgive : give? block spans = none) :
    ¬ Disjoint block.addresses (addresses spans) := by
  induction spans with
  | nil => cases hgive
  | cons span spans ih =>
    obtain ⟨hspan, habove, hspans⟩ := canonical_cons_iff.1 hcanonical
    rw [give?] at hgive
    rw [addresses_cons, Finset.disjoint_union_right]
    split at hgive
    · rw [Option.map_eq_none_iff] at hgive
      exact fun hdisjoint => ih hspans hgive hdisjoint.2
    · next hreach =>
      split at hgive
      · next htouch =>
        have hstart := UInt64.lt_trans hspan (htouch ▸ hblock)
        have hbehind (upper : Span) (hupper : upper ∈ spans) : span.start < upper.stop :=
          UInt64.lt_trans hspan (UInt64.lt_trans (habove upper hupper) (hspans.nonempty _ hupper))
        have hover : ¬ Disjoint (⟨span.start, block.stop⟩ : Span).addresses (addresses spans) :=
          attach?_overlap hspans hstart hbehind hgive
        rw [addresses_joined hspan hblock htouch, Finset.disjoint_union_left] at hover
        exact fun hdisjoint => hover ⟨hcanonical.disjoint_tail, hdisjoint.2⟩
      · next hapart =>
        have hbehind : block.start < span.stop :=
          UInt64.lt_of_le_of_ne (UInt64.not_lt.1 hreach) (Ne.symm hapart)
        have hall : ∀ upper ∈ span :: spans, block.start < upper.stop := by
          refine List.forall_mem_cons.2 ⟨hbehind, ?_⟩
          intro upper hupper
          have hstop := UInt64.lt_trans (habove upper hupper) (hspans.nonempty upper hupper)
          exact UInt64.lt_trans hbehind hstop
        have hover := attach?_overlap hcanonical hblock hall hgive
        rwa [addresses_cons, Finset.disjoint_union_right] at hover

/-- A block that is taken back adds its bytes and nothing else, and the list stays
    canonical: the block is joined to both neighbours that it touches. -/
theorem give?_freed {block : Span} {spans rest : FreeList} (hcanonical : Canonical spans)
    (hblock : block.start < block.stop) (hgive : give? block spans = some rest) :
    Freed block spans rest := by
  induction spans generalizing rest with
  | nil =>
    rw [give?, Option.some.injEq] at hgive
    subst hgive
    exact ⟨by simp, canonical_cons_iff.2 ⟨hblock, by simp, canonical_nil⟩, by simp⟩
  | cons span spans ih =>
    obtain ⟨hspan, habove, hspans⟩ := canonical_cons_iff.1 hcanonical
    have hbehind (upper : Span) (hupper : upper ∈ spans) : span.stop < upper.stop :=
      UInt64.lt_trans (habove upper hupper) (hspans.nonempty _ hupper)
    rw [give?] at hgive
    split at hgive
    · next hbefore =>
      obtain ⟨tail, htail, rfl⟩ := Option.map_eq_some_iff.1 hgive
      obtain ⟨hdisjoint, hcanonicalTail, haddresses⟩ := ih hspans htail
      refine ⟨?_, Canonical.cons hspan hcanonicalTail ?_, ?_⟩
      · rw [addresses_cons, Finset.disjoint_union_right]
        exact ⟨disjoint_of_stop_le (UInt64.le_of_lt hbefore), hdisjoint⟩
      · intro address hmem
        rw [haddresses, Finset.mem_union] at hmem
        cases hmem with
        | inl hinBlock =>
          rw [UInt64.lt_iff_toNat_lt] at hbefore
          exact Nat.lt_of_lt_of_le hbefore (Span.mem_addresses.1 hinBlock).1
        | inr hinSpans => exact hcanonical.stop_lt_of_mem_tail hinSpans
      · rw [addresses_cons, haddresses, addresses_cons, Finset.union_left_comm]
    · next hreach =>
      split at hgive
      · next htouch =>
        have hstart := UInt64.lt_trans hspan (htouch ▸ hblock)
        have hjoined : Freed ⟨span.start, block.stop⟩ spans rest :=
          attach?_freed hspans hstart
            (fun upper hupper => UInt64.lt_trans hspan (hbehind upper hupper)) hgive
        obtain ⟨hdisjoint, hcanonicalRest, haddresses⟩ := hjoined
        rw [addresses_joined hspan hblock htouch] at hdisjoint haddresses
        refine ⟨?_, hcanonicalRest, ?_⟩
        · rw [addresses_cons, Finset.disjoint_union_right]
          exact ⟨disjoint_of_stop_le (htouch ▸ UInt64.le_refl _),
            (Finset.disjoint_union_left.1 hdisjoint).2⟩
        · rw [haddresses, addresses_cons, Finset.union_assoc, Finset.union_left_comm]
      · next hapart =>
        have hinside : block.start < span.stop :=
          UInt64.lt_of_le_of_ne (UInt64.not_lt.1 hreach) (Ne.symm hapart)
        exact attach?_freed hcanonical hblock (List.forall_mem_cons.2 ⟨hinside, fun upper hupper =>
          UInt64.lt_trans hinside (hbehind upper hupper)⟩) hgive

/-- Whether a block can be taken back depends on its bytes alone. -/
theorem give?_isSome_iff {block : Span} {spans : FreeList} (hcanonical : Canonical spans)
    (hblock : block.start < block.stop) :
    (∃ rest, give? block spans = some rest) ↔ Disjoint block.addresses (addresses spans) := by
  constructor
  · rintro ⟨rest, hgive⟩
    exact (give?_freed hcanonical hblock hgive).disjoint
  · intro hdisjoint
    cases hgive : give? block spans with
    | none => exact absurd hdisjoint (give?_overlap hcanonical hblock hgive)
    | some rest => exact ⟨rest, rfl⟩

end HeapReplay.Heap.FreeList
