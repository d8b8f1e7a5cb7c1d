import HeapReplay.Proofs.Word.Rounding
import Mathlib.Order.Bounds.Basic
import Mathlib.Order.Interval.Finset.Nat

namespace HeapReplay.Word

/-- The multiples of a unit that are not below a value, among all numbers. -/
def multiplesFrom (unit : PosWord) (value : Nat) : Set Nat :=
  {multiple | unit.val.toNat ∣ multiple ∧ value ≤ multiple}

/-- The multiples of a unit that are words. -/
def wordMultiples (unit : PosWord) : Set Nat :=
  {multiple | unit.val.toNat ∣ multiple ∧ multiple < UInt64.size}

/-- The values from which a step of `unit - 1` leaves the words, although the largest
    multiple of the unit that is a word is not below them. -/
def overstepped (unit : PosWord) : Finset Nat :=
  Finset.Ioc (UInt64.size - unit.val.toNat) (roundDown unit.val.toNat (UInt64.size - 1))

theorem isLeast_roundUp (unit : PosWord) (value : Nat) :
    IsLeast (multiplesFrom unit value) (roundUp unit.val.toNat value) := by
  have hpos := unit_pos unit
  refine ⟨⟨dvd_roundUp _ _, (roundUp_bounds hpos value).1⟩, ?_⟩
  rintro multiple ⟨hdvd, hle⟩
  exact roundUp_le_of_dvd hpos hdvd hle

theorem isGreatest_roundDown (unit : PosWord) :
    IsGreatest (wordMultiples unit) (roundDown unit.val.toNat (UInt64.size - 1)) := by
  have hle := roundDown_le unit.val.toNat (UInt64.size - 1)
  refine ⟨⟨dvd_roundDown _ _, ?_⟩, ?_⟩
  · simp only [UInt64.size] at hle ⊢
    omega
  · rintro multiple ⟨hdvd, hlt⟩
    exact le_roundDown_of_dvd hdvd (Nat.le_sub_one_of_lt hlt)

/-- A value rounds up to a word exactly when it is not above the largest multiple. -/
theorem roundUp_lt_size_iff {unit : PosWord} {value : Nat} :
    roundUp unit.val.toNat value < UInt64.size ↔
      value ≤ roundDown unit.val.toNat (UInt64.size - 1) := by
  have hleast := isLeast_roundUp unit value
  have hgreatest := isGreatest_roundDown unit
  constructor
  · intro hword
    exact Nat.le_trans hleast.1.2 (hgreatest.2 ⟨hleast.1.1, hword⟩)
  · intro hle
    exact Nat.lt_of_le_of_lt (hleast.2 ⟨hgreatest.1.1, hle⟩) hgreatest.1.2

theorem mem_overstepped_iff {unit : PosWord} {value : Nat} :
    value ∈ overstepped unit ↔
      UInt64.size ≤ value + (unit.val.toNat - 1) ∧ roundUp unit.val.toNat value < UInt64.size := by
  have hpos := unit_pos unit
  have hword := unit.val.toNat_lt
  rw [overstepped, Finset.mem_Ioc, roundUp_lt_size_iff]
  refine and_congr_left fun _ => ?_
  simp only [UInt64.size]
  omega

/-- Where rounding saturates, the largest multiple is the one that was looked for, if any is. -/
theorem toNat_alignUp_of_lt {unit : PosWord} {value : UInt64}
    (hword : roundUp unit.val.toNat value.toNat < UInt64.size) :
    (alignUp unit value).toNat = roundUp unit.val.toNat value.toNat := by
  have hle := (isGreatest_roundDown unit).2 ⟨dvd_roundUp _ _, hword⟩
  rw [toNat_alignUp, Nat.min_eq_left hle]

theorem isGreatest_alignUp_of_le {unit : PosWord} {value : UInt64}
    (hlarge : UInt64.size ≤ roundUp unit.val.toNat value.toNat) :
    IsGreatest (wordMultiples unit) (alignUp unit value).toNat := by
  have hgreatest := isGreatest_roundDown unit
  have hlt := hgreatest.1.2
  rw [toNat_alignUp, Nat.min_eq_right (by omega)]
  exact hgreatest

/-- The machine does not round a value for one of two reasons. -/
theorem alignUp?_eq_none_iff_overstepped {unit : PosWord} {value : UInt64} :
    alignUp? unit value = none ↔
      UInt64.size ≤ roundUp unit.val.toNat value.toNat ∨ value.toNat ∈ overstepped unit := by
  have hstep := (roundUp_bounds (unit_pos unit) value.toNat).2
  rw [alignUp?_eq_none_iff, mem_overstepped_iff]
  omega

/-- The two ways to round differ in the overstepped values alone, among those that round up to
    a word. -/
theorem alignUp?_of_lt {unit : PosWord} {value : UInt64}
    (hword : roundUp unit.val.toNat value.toNat < UInt64.size) :
    alignUp? unit value =
      if value.toNat ∈ overstepped unit then none else some (alignUp unit value) := by
  split
  · next hstep => exact alignUp?_eq_none_iff_overstepped.2 (.inr hstep)
  · next hstep =>
    have hroom : value.toNat + (unit.val.toNat - 1) < UInt64.size := by
      rw [mem_overstepped_iff] at hstep
      omega
    exact alignUp?_eq_some_iff.2 ⟨hroom, toNat_alignUp_of_lt hword⟩

theorem card_overstepped (unit : PosWord) :
    (overstepped unit).card = unit.val.toNat - 1 - (UInt64.size - 1) % unit.val.toNat := by
  have hdiv := Nat.div_add_mod' (UInt64.size - 1) unit.val.toNat
  have hword := unit.val.toNat_lt
  rw [overstepped, Nat.card_Ioc, roundDown]
  simp only [UInt64.size] at hdiv ⊢
  omega

/-- No value is overstepped exactly when the unit divides the number of words. -/
theorem overstepped_eq_empty_iff {unit : PosWord} :
    overstepped unit = ∅ ↔ unit.val.toNat ∣ UInt64.size := by
  have hword := unit.val.toNat_lt
  obtain ⟨hdvd, hlt⟩ := (isGreatest_roundDown unit).1
  rw [overstepped, Finset.Ioc_eq_empty_iff, Nat.not_lt]
  constructor
  · intro hlast
    have hdiv := Nat.div_add_mod' (UInt64.size - 1) unit.val.toNat
    have hmod := Nat.mod_lt (UInt64.size - 1) (unit_pos unit)
    -- The multiple behind the largest one that is a word is then the number of words itself.
    have hend : UInt64.size = roundDown unit.val.toNat (UInt64.size - 1) + unit.val.toNat := by
      simp only [roundDown, UInt64.size] at hdiv hmod hlast ⊢
      omega
    rw [hend]
    exact Nat.dvd_add hdvd (Nat.dvd_refl _)
  · intro hwords
    -- The number of words is a multiple, so the largest one below it is a whole unit away.
    have hgap := Nat.le_of_dvd (Nat.sub_pos_of_lt hlt) (Nat.dvd_sub hwords hdvd)
    omega

end HeapReplay.Word
