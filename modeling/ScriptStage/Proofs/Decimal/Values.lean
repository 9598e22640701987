import ScriptStage.Decimal.Dyadic
import ScriptStage.Proofs.Decimal.Rounding

/-!
# The numbers that doubles stand for

A finite double stands for a rational number. The decoding of its bits gives just this number, so
that what is decided about the decoded parts in integer arithmetic holds of the double itself: which
integer it equals, and that the conversion to 64 bits, which cuts off a fraction and stops at the
greatest and the least integer, gives this integer and loses nothing.

## Main definitions

* `ScriptStage.Decimal.value` — the number that a finite double stands for.
* `ScriptStage.Decimal.Dyadic.value` — the number that decoded parts stand for.

## Main results

* `ScriptStage.Decimal.value_ofFloat` — decoding keeps the number.
* `ScriptStage.Decimal.toInt?_ofFloat_eq_some_iff` — the integer that a double equals.
* `ScriptStage.Decimal.toInt_toInt64` — the conversion of an integral double to 64 bits.
-/

set_option autoImplicit false

namespace ScriptStage.Decimal

open Float.Model Float.Model.UnpackedFloat

/-- The number of a sign, a mantissa and an exponent: `± m · 2 ^ e`. -/
def numberOf : UnpackedFloat → ℚ
  | .finite s m e _ => s.apply m * 2 ^ e
  | _ => 0

lemma numberOf_zero (s : Sign) : numberOf (.zero s) = 0 :=
  rfl

lemma numberOf_finite (s : Sign) (m : ℕ) (e : ℤ) (h : 0 < m) :
    numberOf (.finite s m e h) = s.apply m * 2 ^ e :=
  rfl

/-- **The number that a finite double stands for.** For infinities and NaN the answer means
nothing. -/
def value (x : Float) : ℚ :=
  numberOf x.toModel.unpack

/-! ## Decoded parts -/

namespace Dyadic

/-- **The number that decoded parts stand for.** -/
def value (d : Dyadic) : ℚ :=
  d.signed d.mantissa * 2 ^ d.exponent

lemma signed_zero (d : Dyadic) : d.signed 0 = 0 := by
  unfold signed
  split <;> rfl

lemma signed_mul (d : Dyadic) (m k : ℕ) : d.signed (m * k) = d.signed m * k := by
  unfold signed
  split <;> push_cast <;> ring

lemma value_eq_div (d : Dyadic) : d.value = d.signed d.ratio.1 / d.ratio.2 := by
  obtain ⟨k, hk | hk⟩ := d.exponent.eq_nat_or_neg
  · have hnum : d.exponent.toNat = k := by omega
    have hden : (-d.exponent).toNat = 0 := by omega
    simp only [value, ratio, hnum, hden, Nat.pow_eq, Nat.pow_zero, signed_mul]
    rw [hk, zpow_natCast]
    push_cast
    ring
  · have hnum : d.exponent.toNat = 0 := by omega
    have hden : (-d.exponent).toNat = k := by omega
    simp only [value, ratio, hnum, hden, Nat.pow_eq, Nat.pow_zero, Nat.mul_one]
    rw [hk, zpow_neg, zpow_natCast, div_eq_mul_inv]
    push_cast
    ring

/-- To equal an integer in integer arithmetic is to stand for it. -/
lemma equals_iff (d : Dyadic) (n : ℤ) : d.Equals n ↔ d.value = n := by
  have hpos : (d.ratio.2 : ℚ) ≠ 0 := Nat.cast_ne_zero.2 d.ratio_den_pos.ne'
  rw [value_eq_div, div_eq_iff hpos, Equals]
  norm_cast

/-- Nothing is cut off from an integer. -/
lemma truncate_of_equals {d : Dyadic} {n : ℤ} (h : d.Equals n) : d.truncate = n := by
  have hsome := (toInt?_eq_some_iff d n).2 h
  unfold toInt? at hsome
  unfold truncate
  generalize d.ratio = r at hsome ⊢
  obtain ⟨num, den⟩ := r
  dsimp only at hsome ⊢
  split at hsome
  · exact Option.some.inj hsome
  · exact nomatch hsome

end Dyadic

/-! ## Decoding -/

section Bits

variable (bits : UInt64)

lemma unpackExponent_toNat :
    (@unpackExponent Format.binary64 bits.toBitVec).toNat =
      bits.toNat / 0x10000000000000 % 0x800 := by
  rw [unpackExponent, BitVec.toNat_cast, BitVec.extractLsb_toNat, Nat.shiftRight_eq_div_pow]
  rfl

lemma unpackMantissa_toNat :
    (@unpackMantissa Format.binary64 bits.toBitVec).toNat =
      bits.toNat % 0x10000000000000 := by
  rw [unpackMantissa, BitVec.toNat_cast, BitVec.extractLsb_toNat, Nat.shiftRight_zero]
  rfl

/-- The first bit is the sign. -/
lemma apply_unpackSign (m : ℕ) (e : ℤ) :
    (Sign.ofBitVec (@unpackSign Format.binary64 bits.toBitVec)).apply m =
      Dyadic.signed ⟨bits.toNat / 0x8000000000000000 == 1, m, e⟩ m := by
  have hbits : bits.toNat < 2 ^ 64 := bits.toNat_lt
  have hsign : (@unpackSign Format.binary64 bits.toBitVec).toNat =
      bits.toNat / 0x8000000000000000 := by
    have hbit : @unpackSign Format.binary64 bits.toBitVec = bits.toBitVec.extractLsb 63 63 := rfl
    rw [hbit, BitVec.extractLsb_toNat, Nat.shiftRight_eq_div_pow]
    exact Nat.mod_eq_of_lt (show bits.toNat / 0x8000000000000000 < 2 by omega)
  rcases Nat.le_one_iff_eq_zero_or_eq_one.1
    (show bits.toNat / 0x8000000000000000 ≤ 1 by omega) with hplus | hminus
  · have hzero : @unpackSign Format.binary64 bits.toBitVec = 0#1 :=
      BitVec.eq_of_toNat_eq (hsign.trans hplus)
    rw [hzero, hplus]
    rfl
  · have hone : @unpackSign Format.binary64 bits.toBitVec = 1#1 :=
      BitVec.eq_of_toNat_eq (hsign.trans hminus)
    rw [hone, hminus]
    rfl

end Bits

/-- **Decoding keeps the number** of a finite double. -/
theorem value_ofFloat {x : Float} (finite : x.isFinite = true) :
    (Dyadic.ofFloat x).value = value x := by
  obtain ⟨⟨bits, valid⟩⟩ := x
  have hexponent := unpackExponent_toNat bits
  have hmantissa := unpackMantissa_toNat bits
  have hsign := apply_unpackSign bits
  have hinfinite : @unpackExponent Format.binary64 bits.toBitVec ≠
      -BitVec.ofNat Format.binary64.exponentBits 1 := (isFinite_unpack _).1 finite
  have hbits : (Float.ofModel ⟨bits, valid⟩).toBits = bits := rfl
  have hunpack : (Float.ofModel ⟨bits, valid⟩).toModel.unpack =
      UnpackedFloat.unpack Format.binary64 bits.toBitVec := rfl
  have hbias : (Format.binary64.exponentBias + Format.binary64.mantissaBitsWithoutImplicit : ℤ) =
      1075 := rfl
  rw [value, hunpack, Dyadic.ofFloat, hbits, ← hexponent, ← hmantissa]
  by_cases hsmall : @unpackExponent Format.binary64 bits.toBitVec = 0#_
  · have hzero : (@unpackExponent Format.binary64 bits.toBitVec).toNat = 0 :=
      congrArg BitVec.toNat hsmall
    rw [unpack_of_small hinfinite hsmall, if_pos hzero]
    by_cases hnone : @unpackMantissa Format.binary64 bits.toBitVec = 0#_
    · have hzero' : (@unpackMantissa Format.binary64 bits.toBitVec).toNat = 0 :=
        congrArg BitVec.toNat hnone
      rw [dif_pos hnone, hzero', numberOf_zero, Dyadic.value, Dyadic.signed_zero, Int.cast_zero,
        zero_mul]
    · rw [dif_neg hnone, numberOf_finite, hsign _ (-1074), hzero, hbias]
      rfl
  · have hnormal : (@unpackExponent Format.binary64 bits.toBitVec).toNat ≠ 0 :=
      fun h => hsmall (BitVec.eq_of_toNat_eq h)
    have hwhole : (1#1 ++ @unpackMantissa Format.binary64 bits.toBitVec).toNat =
        0x10000000000000 + (@unpackMantissa Format.binary64 bits.toBitVec).toNat :=
      toNat_one_append _
    obtain ⟨hpos, hvalue⟩ := unpack_of_normal hinfinite hsmall
    rw [hvalue, if_neg hnormal, numberOf_finite, hwhole, Int.subNatNat_eq_coe, hbias,
      hsign _ ((@unpackExponent Format.binary64 bits.toBitVec).toNat - 1075)]
    rfl

/-- **The integer that a finite double equals** is found by decoding, if there is one. -/
theorem toInt?_ofFloat_eq_some_iff {x : Float} (finite : x.isFinite = true) (n : ℤ) :
    (Dyadic.ofFloat x).toInt? = some n ↔ value x = n := by
  rw [Dyadic.toInt?_eq_some_iff, Dyadic.equals_iff, value_ofFloat finite]

/-! ## Conversion to 64 bits -/

lemma apply_eq_signed (s : Sign) (m : ℕ) (e : ℤ) (k : ℕ) :
    s.apply k = Dyadic.signed ⟨s == .negative, m, e⟩ k := by
  cases s <;> rfl

/-- A number is converted by cutting off its fraction. -/
lemma roundToInt_eq_truncate (s : Sign) (m : ℕ) (e : ℤ) :
    roundToInt s m e = Dyadic.truncate ⟨s == .negative, m, e⟩ := by
  have hshift : (0 - (e - ((e - 0).toNat : ℤ))).toNat = (-e).toNat := by omega
  simp only [roundToInt, decreaseExponent, shiftToExponent]
  rw [hshift, mantissa_shiftRight, Nat.shiftLeft_eq, Int.sub_zero, Dyadic.truncate, Dyadic.ratio]
  exact apply_eq_signed s m e _

/-- **The conversion of an integral double to 64 bits** gives the integer, if 64 bits hold it:
nothing is cut off, and no bound is reached. -/
theorem toInt_toInt64 {x : Float} {n : ℤ} (finite : x.isFinite = true) (equal : value x = n)
    (low : -2 ^ 63 ≤ n) (high : n < 2 ^ 63) : x.toModel.toInt64.toInt = n := by
  have hinteger : UnpackedFloat.toInt Int64.minValue.toInt Int64.maxValue.toInt x.toModel.unpack =
      n := by
    have hfinite : x.toModel.unpack.isFinite = true := finite
    rw [value] at equal
    cases hunpack : x.toModel.unpack with
    | notANumber =>
      rw [hunpack] at hfinite
      exact nomatch hfinite
    | infinity s =>
      rw [hunpack] at hfinite
      exact nomatch hfinite
    | zero s =>
      rw [hunpack] at equal
      have hzero : (0 : ℚ) = n := equal
      exact_mod_cast hzero
    | finite s m e h =>
      rw [hunpack, numberOf_finite, apply_eq_signed s m e] at equal
      have hequals := (Dyadic.equals_iff ⟨s == .negative, m, e⟩ n).2 equal
      exact (roundToInt_eq_truncate s m e).trans (Dyadic.truncate_of_equals hequals)
  rw [Float.Model.toInt64, UnpackedFloat.toInt64, hinteger]
  refine Int64.toInt_ofIntClamp low ?_
  have hmax : Int64.maxValue.toInt = 2 ^ 63 - 1 := rfl
  omega

end ScriptStage.Decimal
