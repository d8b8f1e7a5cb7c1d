namespace HeapReplay

/-- A word that is not zero: alignments, bucket widths and report thresholds. -/
abbrev PosWord := { word : UInt64 // word ≠ 0 }

namespace Word

/-- The largest word. -/
def maximum : UInt64 := 0xffffffffffffffff

/-- The sum of two words, when it is a word. -/
@[inline] def add? (a b : UInt64) : Option UInt64 :=
  if a ≤ a + b then some (a + b) else none

/-- The sum of two words, or the largest word when the sum is none. -/
def addSaturated (a b : UInt64) : UInt64 :=
  (add? a b).getD maximum

/-- The difference of two words, or zero when it would be negative. -/
def subSaturated (a b : UInt64) : UInt64 :=
  if b ≤ a then a - b else 0

/-- The largest multiple of `unit` that is not above `value`. -/
@[inline] def alignDown (unit : PosWord) (value : UInt64) : UInt64 :=
  value / unit.val * unit.val

/-- The least multiple of `unit` that is not below `value`, found by stepping
    `unit - 1` past it; none when that step leaves the words. -/
@[inline] def alignUp? (unit : PosWord) (value : UInt64) : Option UInt64 :=
  (add? value (unit.val - 1)).map (alignDown unit)

/-- The least multiple of `unit` that is not below `value`, or else the largest
    multiple that is a word. -/
def alignUp (unit : PosWord) (value : UInt64) : UInt64 :=
  (alignUp? unit value).getD (alignDown unit maximum)

/-- A sum of words is a word exactly when the sum of their numbers is below the
    number of words. -/
theorem add?_eq_some_iff {a b sum : UInt64} :
    add? a b = some sum ↔ a.toNat + b.toNat < UInt64.size ∧ sum = a + b := by
  have ha := a.toNat_lt
  have hb := b.toNat_lt
  simp only [add?, UInt64.le_iff_toNat_le, UInt64.toNat_add, UInt64.size]
  constructor
  · intro h
    split at h
    · cases h
      exact ⟨by omega, rfl⟩
    · cases h
  · rintro ⟨hlt, rfl⟩
    rw [if_pos (by omega)]

theorem add?_eq_none_iff {a b : UInt64} : add? a b = none ↔ UInt64.size ≤ a.toNat + b.toNat := by
  have ha := a.toNat_lt
  have hb := b.toNat_lt
  simp only [add?, UInt64.le_iff_toNat_le, UInt64.toNat_add, UInt64.size]
  split <;> simp <;> omega

theorem toNat_addSaturated (a b : UInt64) :
    (addSaturated a b).toNat = min (a.toNat + b.toNat) (UInt64.size - 1) := by
  have ha := a.toNat_lt
  have hb := b.toNat_lt
  unfold addSaturated
  cases h : add? a b with
  | none =>
    rw [add?_eq_none_iff] at h
    simp [maximum, UInt64.size] at h ⊢
    omega
  | some sum =>
    obtain ⟨hlt, rfl⟩ := add?_eq_some_iff.1 h
    simp [UInt64.toNat_add, UInt64.size] at hlt ⊢
    omega

theorem toNat_subSaturated (a b : UInt64) : (subSaturated a b).toNat = a.toNat - b.toNat := by
  unfold subSaturated
  split
  · next h => exact UInt64.toNat_sub_of_le a b h
  · next h =>
    rw [UInt64.le_iff_toNat_le] at h
    simp
    omega

end Word
end HeapReplay
