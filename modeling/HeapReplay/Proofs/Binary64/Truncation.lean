import HeapReplay.Binary64
import Mathlib.Algebra.Group.Nat.Defs

namespace HeapReplay.Binary64

open Float.Model (UnpackedFloat)
open Float.Model.UnpackedFloat (ExtendedMantissa Sign)

/-- What the machine's own reading of a double stands for. -/
def Datum.ofUnpacked : UnpackedFloat → Datum
  | .notANumber => .nan
  | .infinity sign => .infinity (sign == .negative)
  | .zero sign => .finite (sign == .negative) 0 (-1074)
  | .finite sign significand exponent _ => .finite (sign == .negative) significand exponent

theorem Datum.ofUnpacked_zero (sign : Sign) :
    Datum.ofUnpacked (.zero sign) = .finite (sign == .negative) 0 (-1074) := rfl

theorem Datum.ofUnpacked_finite (sign : Sign) (significand : Nat) (exponent : Int)
    (hpos : 0 < significand) : Datum.ofUnpacked (.finite sign significand exponent hpos) =
      .finite (sign == .negative) significand exponent := rfl

section Fields

variable (bits : BitVec 64)

theorem toNat_unpackMantissa :
    (@UnpackedFloat.unpackMantissa .binary64 bits).toNat = bits.toNat % leadingBit := by
  simp [UnpackedFloat.unpackMantissa, leadingBit]

theorem toNat_unpackExponent :
    (@UnpackedFloat.unpackExponent .binary64 bits).toNat =
      bits.toNat / leadingBit % 2048 := by
  simp [UnpackedFloat.unpackExponent, leadingBit, Nat.shiftRight_eq_div_pow]

theorem toNat_unpackSign :
    (@UnpackedFloat.unpackSign .binary64 bits).toNat = bits.toNat / signBit := by
  have hbits := bits.isLt
  have hsign : @UnpackedFloat.unpackSign .binary64 bits = bits.extractLsb 63 63 := rfl
  simp [hsign, signBit, Nat.shiftRight_eq_div_pow]
  omega

theorem ofBitVec_unpackSign :
    (Sign.ofBitVec (@UnpackedFloat.unpackSign .binary64 bits) == .negative) =
      decide (signBit ≤ bits.toNat) := by
  have hsign := toNat_unpackSign bits
  have hbits := bits.isLt
  by_cases hzero : @UnpackedFloat.unpackSign .binary64 bits = 0#1
  · rw [hzero] at hsign ⊢
    have hlow : ¬ signBit ≤ bits.toNat := by
      simp [signBit] at hsign ⊢
      omega
    rw [decide_eq_false hlow]
    rfl
  · have hhigh : signBit ≤ bits.toNat := by
      have hne : (@UnpackedFloat.unpackSign .binary64 bits).toNat ≠ 0 := by
        intro heq
        exact hzero (BitVec.eq_of_toNat_eq heq)
      simp only [signBit] at hsign ⊢
      omega
    rw [decide_eq_true hhigh, Sign.ofBitVec, if_neg hzero]
    rfl

theorem toNat_leading_append (mantissa : BitVec 52) :
    (1#1 ++ mantissa).toNat = leadingBit + mantissa.toNat := by
  rw [BitVec.toNat_append, ← Nat.shiftLeft_add_eq_or_of_lt mantissa.isLt]
  rfl

end Fields

/-- The fields of a double are read off its bits as the machine reads them. -/
theorem datum_eq_ofUnpacked (x : Float) : datum x = .ofUnpacked x.toModel.unpack := by
  have hmantissa := toNat_unpackMantissa x.toBits.toBitVec
  have hexponent := toNat_unpackExponent x.toBits.toBitVec
  have hsign := ofBitVec_unpackSign x.toBits.toBitVec
  have hunpack : x.toModel.unpack = UnpackedFloat.unpack .binary64 x.toBits.toBitVec := rfl
  have hbits : x.toBits.toBitVec.toNat = x.toBits.toNat := rfl
  rw [hbits] at hmantissa hexponent hsign
  rw [hunpack]
  have hmax (exponent : BitVec 11) : exponent.toNat = 2047 ↔ exponent = -1#11 := by
    rw [← BitVec.toNat_inj]
    rfl
  have hleast (exponent : BitVec 11) : exponent.toNat = 0 ↔ exponent = 0#11 := by
    rw [← BitVec.toNat_inj]
    rfl
  have hempty (mantissa : BitVec 52) : mantissa.toNat = 0 ↔ mantissa = 0#52 := by
    rw [← BitVec.toNat_inj]
    rfl
  simp only [datum, ← hmantissa, ← hexponent, ← hsign, hmax, hleast, hempty]
  unfold UnpackedFloat.unpack
  by_cases hlargest : @UnpackedFloat.unpackExponent .binary64 x.toBits.toBitVec = -1#11
  · rw [if_pos hlargest, if_pos hlargest]
    by_cases hnone : @UnpackedFloat.unpackMantissa .binary64 x.toBits.toBitVec = 0#52
    · rw [if_pos hnone, if_pos hnone]
      rfl
    · rw [if_neg hnone, if_neg hnone]
      rfl
  · rw [if_neg hlargest, if_neg hlargest]
    by_cases hsmallest : @UnpackedFloat.unpackExponent .binary64 x.toBits.toBitVec = 0#11
    · rw [if_pos hsmallest, if_pos hsmallest, hsmallest]
      by_cases hnone : @UnpackedFloat.unpackMantissa .binary64 x.toBits.toBitVec = 0#52
      · rw [dif_pos hnone, hnone]
        rfl
      · rw [dif_neg hnone]
        rfl
    · rw [if_neg hsmallest, if_neg hsmallest, Datum.ofUnpacked_finite, toNat_leading_append]
      rfl

/-- The whole number that is read from a double: it is cut off at the point, zero when there is no
    number or a negative one, and the largest word when it is above the words. -/
def Datum.truncated : Datum → Nat
  | .nan => 0
  | .infinity negative => if negative then 0 else UInt64.size - 1
  | .finite negative significand exponent =>
    if negative then 0
    else min (significand * power 2 exponent / power 2 (-exponent)) (UInt64.size - 1)

/-- Shifting to the right drops bits of the significand one by one. -/
theorem significand_shiftRight (extended : ExtendedMantissa) (count : Nat) :
    (extended >>> count).mantissa = extended.mantissa / 2 ^ count := by
  change (count.repeat ExtendedMantissa.shiftRightOne extended).mantissa = _
  induction count with
  | zero => simp [Nat.repeat]
  | succ count ih =>
    rw [Nat.repeat, ExtendedMantissa.shiftRightOne, ih, Nat.div_div_eq_div_mul, Nat.pow_succ]

/-- Rounding to zero keeps the whole part. -/
theorem roundToInt_eq (sign : Sign) (significand : Nat) (exponent : Int) :
    UnpackedFloat.roundToInt sign significand exponent =
      sign.apply (significand * power 2 exponent / power 2 (-exponent) : Nat) := by
  simp only [UnpackedFloat.roundToInt, UnpackedFloat.decreaseExponent,
    UnpackedFloat.shiftToExponent, ExtendedMantissa.ofMantissaAndAccuracy, significand_shiftRight,
    Nat.shiftLeft_eq, power, Nat.pow_eq]
  have hzero : exponent - 0 = exponent := by
    omega
  have hleft : (0 - (exponent - exponent.toNat)).toNat = (-exponent).toNat := by
    omega
  rw [hzero, hleft]

theorem toNat_apply (sign : Sign) (n : Nat) :
    (sign.apply n).toNat = if sign == .negative then 0 else n := by
  cases sign with
  | negative =>
    change (-(n : Int)).toNat = 0
    omega
  | positive => rfl

theorem toNat_ofNatClamp (n : Nat) : (UInt64.ofNatClamp n).toNat = min n (UInt64.size - 1) := by
  unfold UInt64.ofNatClamp
  split
  · next hword =>
    rw [UInt64.toNat_ofNatLT]
    omega
  · next hlarge =>
    rw [UInt64.toNat_ofNatLT]
    omega

/-- A double is read as the word that is nearest to its whole part. -/
theorem toNat_toUInt64 (x : Float) : x.toUInt64.toNat = (datum x).truncated := by
  have hword : x.toUInt64 = x.toModel.unpack.toUInt64 := rfl
  rw [hword, datum_eq_ofUnpacked, UnpackedFloat.toUInt64, toNat_ofNatClamp]
  cases x.toModel.unpack with
  | notANumber => rfl
  | infinity sign => cases sign <;> rfl
  | zero sign =>
    have hzero (largest : Int) : UnpackedFloat.toInt 0 largest (.zero sign) = 0 := rfl
    simp [hzero, Datum.ofUnpacked_zero, Datum.truncated]
  | finite sign significand exponent hpos =>
    have hround (largest : Int) :
        UnpackedFloat.toInt 0 largest (.finite sign significand exponent hpos) =
          UnpackedFloat.roundToInt sign significand exponent := rfl
    rw [hround, roundToInt_eq, toNat_apply, Datum.ofUnpacked_finite, Datum.truncated]
    cases sign == .negative
    · rfl
    · rfl

end HeapReplay.Binary64
