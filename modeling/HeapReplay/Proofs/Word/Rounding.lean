import HeapReplay.Word
import Mathlib.Algebra.Order.Group.Nat

namespace HeapReplay.Word

theorem toNat_max (a b : UInt64) : (max a b).toNat = max a.toNat b.toNat := by
  have hmax : max a b = if a ≤ b then b else a := rfl
  rw [hmax]
  split
  · next hle =>
    rw [UInt64.le_iff_toNat_le] at hle
    omega
  · next hle =>
    rw [UInt64.le_iff_toNat_le] at hle
    omega

/-- The least multiple of `unit` that is not below `value`, among all numbers. -/
def roundUp (unit value : Nat) : Nat := (value + (unit - 1)) / unit * unit

theorem dvd_roundUp (unit value : Nat) : unit ∣ roundUp unit value :=
  Nat.dvd_mul_left unit _

theorem roundUp_bounds {unit : Nat} (hunit : 0 < unit) (value : Nat) :
    value ≤ roundUp unit value ∧ roundUp unit value ≤ value + (unit - 1) := by
  have hdiv := Nat.div_add_mod' (value + (unit - 1)) unit
  have hmod := Nat.mod_lt (value + (unit - 1)) hunit
  unfold roundUp
  omega

/-- No multiple of the unit lies between a value and where it is rounded to. -/
theorem roundUp_le_of_dvd {unit value multiple : Nat} (hunit : 0 < unit) (hdvd : unit ∣ multiple)
    (hle : value ≤ multiple) : roundUp unit value ≤ multiple := by
  obtain ⟨factor, rfl⟩ := hdvd
  have hquotient : (value + (unit - 1)) / unit ≤ factor := by
    rw [← Nat.lt_succ_iff, Nat.div_lt_iff_lt_mul hunit, Nat.succ_mul, Nat.mul_comm factor]
    omega
  calc
    roundUp unit value ≤ factor * unit := Nat.mul_le_mul_right unit hquotient
    _ = unit * factor := Nat.mul_comm factor unit

/-- The largest multiple of `unit` that is not above `value`, among all numbers. -/
def roundDown (unit value : Nat) : Nat := value / unit * unit

theorem dvd_roundDown (unit value : Nat) : unit ∣ roundDown unit value :=
  Nat.dvd_mul_left unit _

theorem roundDown_le (unit value : Nat) : roundDown unit value ≤ value :=
  Nat.div_mul_le_self value unit

theorem le_roundDown_of_dvd {unit value multiple : Nat} (hdvd : unit ∣ multiple)
    (hle : multiple ≤ value) : multiple ≤ roundDown unit value := by
  calc
    multiple = multiple / unit * unit := (Nat.div_mul_cancel hdvd).symm
    _ ≤ value / unit * unit := Nat.mul_le_mul_right unit (Nat.div_le_div_right hle)

theorem roundUp_pos {unit value : Nat} (hunit : 0 < unit) (hvalue : 0 < value) :
    0 < roundUp unit value :=
  Nat.lt_of_lt_of_le hvalue (roundUp_bounds hunit value).1

theorem unit_pos (unit : PosWord) : 0 < unit.val.toNat := by
  have hne : unit.val.toNat ≠ 0 := fun hzero => unit.property (UInt64.toNat_inj.1 hzero)
  omega

theorem toNat_unit_sub_one (unit : PosWord) : (unit.val - 1).toNat = unit.val.toNat - 1 := by
  have hpos := unit_pos unit
  exact UInt64.toNat_sub_of_le _ _ (by rw [UInt64.le_iff_toNat_le]; exact hpos)

theorem toNat_alignDown (unit : PosWord) (value : UInt64) :
    (alignDown unit value).toNat = value.toNat / unit.val.toNat * unit.val.toNat := by
  have hle := Nat.div_mul_le_self value.toNat unit.val.toNat
  have hword := value.toNat_lt
  unfold alignDown
  rw [UInt64.toNat_mul, UInt64.toNat_div, Nat.mod_eq_of_lt (by omega)]

theorem alignDown_le (unit : PosWord) (value : UInt64) : alignDown unit value ≤ value := by
  rw [UInt64.le_iff_toNat_le, toNat_alignDown]
  exact roundDown_le _ _

theorem alignDown_mono (unit : PosWord) {a b : UInt64} (hle : a ≤ b) :
    alignDown unit a ≤ alignDown unit b := by
  rw [UInt64.le_iff_toNat_le] at hle ⊢
  rw [toNat_alignDown, toNat_alignDown]
  exact Nat.mul_le_mul_right _ (Nat.div_le_div_right hle)

/-- The words that are rounded down to a multiple of the unit lie less than a unit above it. -/
theorem alignDown_eq_iff {unit : PosWord} {value multiple : UInt64} :
    alignDown unit value = multiple ↔ unit.val.toNat ∣ multiple.toNat ∧ multiple ≤ value ∧
      value.toNat - multiple.toNat < unit.val.toNat := by
  have hdiv := Nat.div_add_mod' value.toNat unit.val.toNat
  have hmod := Nat.mod_lt value.toNat (unit_pos unit)
  rw [← UInt64.toNat_inj, toNat_alignDown, UInt64.le_iff_toNat_le]
  constructor
  · intro hmultiple
    exact ⟨hmultiple ▸ dvd_roundDown _ _, by omega, by omega⟩
  · rintro ⟨⟨factor, hfactor⟩, hle, hlt⟩
    rw [Nat.mul_comm] at hfactor
    have hnext := Nat.add_one_mul factor unit.val.toNat
    have hquotient : value.toNat / unit.val.toNat = factor :=
      Nat.div_eq_of_lt_le (by omega) (by omega)
    rw [hquotient, hfactor]

/-- Rounding down to a finer unit first changes nothing. -/
theorem alignDown_alignDown {unit coarse : PosWord} {factor : Nat}
    (hcoarse : coarse.val.toNat = factor * unit.val.toNat) (value : UInt64) :
    alignDown coarse (alignDown unit value) = alignDown coarse value := by
  have hquotient : value.toNat / unit.val.toNat * unit.val.toNat / coarse.val.toNat =
      value.toNat / coarse.val.toNat := by
    rw [hcoarse, Nat.mul_div_mul_right _ _ (unit_pos unit), Nat.div_div_eq_div_mul,
      Nat.mul_comm factor]
  rw [← UInt64.toNat_inj, toNat_alignDown, toNat_alignDown, toNat_alignDown, hquotient]

/-- The machine rounds exactly, whenever the step past the value is a word. -/
theorem alignUp?_eq_some_iff {unit : PosWord} {value aligned : UInt64} :
    alignUp? unit value = some aligned ↔
      value.toNat + (unit.val.toNat - 1) < UInt64.size ∧
        aligned.toNat = roundUp unit.val.toNat value.toNat := by
  have hunit := toNat_unit_sub_one unit
  have hword (sum : UInt64) (hlt : value.toNat + (unit.val.toNat - 1) < UInt64.size)
      (hsum : sum = value + (unit.val - 1)) :
      (alignDown unit sum).toNat = roundUp unit.val.toNat value.toNat := by
    rw [toNat_alignDown, hsum, UInt64.toNat_add, hunit, Nat.mod_eq_of_lt hlt, roundUp]
  simp only [alignUp?, Option.map_eq_some_iff, add?_eq_some_iff, hunit]
  constructor
  · rintro ⟨sum, ⟨hlt, hsum⟩, rfl⟩
    exact ⟨hlt, hword sum hlt hsum⟩
  · rintro ⟨hlt, haligned⟩
    refine ⟨_, ⟨hlt, rfl⟩, ?_⟩
    rw [← UInt64.toNat_inj, haligned, hword _ hlt rfl]

theorem alignUp?_eq_none_iff {unit : PosWord} {value : UInt64} :
    alignUp? unit value = none ↔ UInt64.size ≤ value.toNat + (unit.val.toNat - 1) := by
  rw [alignUp?, Option.map_eq_none_iff, add?_eq_none_iff, toNat_unit_sub_one]

/-- Where the rounded value is no word, it is the largest multiple that is one. -/
theorem toNat_alignUp (unit : PosWord) (value : UInt64) :
    (alignUp unit value).toNat =
      min (roundUp unit.val.toNat value.toNat) (roundDown unit.val.toNat (UInt64.size - 1)) := by
  unfold alignUp
  cases haligned : alignUp? unit value with
  | some aligned =>
    obtain ⟨hlt, htoNat⟩ := alignUp?_eq_some_iff.1 haligned
    have hbounds := roundUp_bounds (unit_pos unit) value.toNat
    have hword := le_roundDown_of_dvd (dvd_roundUp unit.val.toNat value.toNat)
      (show roundUp unit.val.toNat value.toNat ≤ UInt64.size - 1 by omega)
    rw [Option.getD_some, htoNat, Nat.min_eq_left hword]
  | none =>
    have hlarge := alignUp?_eq_none_iff.1 haligned
    have hover : roundDown unit.val.toNat (UInt64.size - 1) ≤ roundUp unit.val.toNat value.toNat :=
      Nat.mul_le_mul_right _ (Nat.div_le_div_right (by omega))
    rw [Option.getD_none, toNat_alignDown, Nat.min_eq_right hover]
    rfl

end HeapReplay.Word
