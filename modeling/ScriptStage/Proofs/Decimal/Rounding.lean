import Mathlib.Algebra.Order.Field.Power
import Mathlib.Algebra.Order.Field.Rat
import Mathlib.Data.Rat.Cast.Order
import Mathlib.Tactic.GCongr
import Mathlib.Tactic.Linarith
import Mathlib.Tactic.NormNum
import Mathlib.Tactic.Positivity
import Mathlib.Tactic.Ring
import ScriptStage.Proofs.Decimal.Doubles

/-!
# Products of doubles

A product of doubles is rounded: the bits behind the fifty-third are cut off, and the last bit that
is left may be raised by one. This file bounds how much greater the product can become by that, from
which follows that it does not become infinite if it stays away from the greatest double.

Only positive doubles matter here that have all their bits, as those have that are made of natural
numbers.

## Main definitions

* `ScriptStage.Decimal.IsNormal` — a positive double with all its bits.

## Main results

* `ScriptStage.Decimal.exists_round` — how much greater a number becomes by rounding.
* `ScriptStage.Decimal.exists_isNormal_toFloat` — the doubles of natural numbers.
* `ScriptStage.Decimal.isInf_mul` — products that are not infinite.
-/

set_option autoImplicit false

namespace ScriptStage.Decimal

open Float.Model Float.Model.UnpackedFloat

/-! ## Rounding -/

lemma mantissa_shiftRight (m : ExtendedMantissa) (k : ℕ) :
    (m >>> k).mantissa = m.mantissa / 2 ^ k := by
  induction k with
  | zero => exact (Nat.div_one _).symm
  | succ k ih =>
    have hstep : (m >>> (k + 1)).mantissa = (m >>> k).mantissa / 2 := rfl
    rw [hstep, ih, Nat.div_div_eq_div_mul, Nat.pow_succ]

/-- The last bit may be raised. -/
lemma roundedMantissa_mem (m : ExtendedMantissa) :
    m.mantissa ≤ m.roundedMantissa ∧ m.roundedMantissa ≤ m.mantissa + 1 := by
  obtain ⟨n, roundBit, stickyBit⟩ := m
  cases roundBit <;> cases stickyBit <;>
    simp only [ExtendedMantissa.roundedMantissa, ExtendedMantissa.accuracy,
      Accuracy.roundToNearestEven] <;> omega

/-- What is cut off, if there are bits enough and the number is not too small. -/
lemma shiftToTargetExponent_eq {m k : ℕ} {e : ℤ} (hm : m.log2 = 52 + k) (he : -1074 ≤ e) :
    shiftToTargetExponent Format.binary64 m e .exact =
      (ExtendedMantissa.mk m false false >>> k, e + k) := by
  have htarget : Format.binary64.targetExponent (totalExponent m e) = e + k := by
    have hbits : (Format.binary64.mantissaBits : ℤ) = 53 := rfl
    have hmin : Format.binary64.minExponent = -1074 := rfl
    rw [Format.targetExponent, totalExponent, hbits, hmin, hm]
    omega
  have hshift : (e + k - e).toNat = k := by omega
  rw [shiftToTargetExponent, htarget, shiftToExponent, hshift]
  rfl

/-- A finite number is told by its parts. -/
lemma finite_congr {s : Sign} {m m' : ℕ} {e e' : ℤ} (hm : m = m') (he : e = e') (h : 0 < m) :
    ∃ h', UnpackedFloat.finite s m e h = .finite s m' e' h' := by
  subst hm he
  exact ⟨h, rfl⟩

/-- What is left of a number with its last bit raised, or not, has fifty-three bits or is the least
number with one bit more, and is hardly greater. -/
lemma roundedMantissa_bounds {m k r : ℕ} (hne : m ≠ 0) (hk : m.log2 = 52 + k)
    (hr : (ExtendedMantissa.mk m false false >>> k).roundedMantissa = r) :
    2 ^ 52 ≤ r ∧ r ≤ 2 ^ 53 ∧ r * 2 ^ k * 2 ^ 52 ≤ m * (2 ^ 52 + 1) := by
  obtain ⟨hlow, hhigh⟩ := (Nat.log2_eq_iff hne).1 hk
  have hpos : 0 < 2 ^ k := Nat.two_pow_pos k
  obtain ⟨hfloor, hraised⟩ := roundedMantissa_mem (ExtendedMantissa.mk m false false >>> k)
  rw [mantissa_shiftRight, hr] at hfloor hraised
  dsimp only at hfloor hraised
  have hbits : 2 ^ 52 ≤ m / 2 ^ k := by
    rw [Nat.le_div_iff_mul_le hpos, ← Nat.pow_add]
    exact hlow
  have hfits : m / 2 ^ k < 2 ^ 53 := by
    rw [Nat.div_lt_iff_lt_mul hpos, ← Nat.pow_add]
    exact hhigh.trans_eq (congrArg _ (by omega))
  refine ⟨by omega, by omega, ?_⟩
  have hcut : m / 2 ^ k * 2 ^ k ≤ m := Nat.div_mul_le_self m _
  have hwidth : 2 ^ k * 2 ^ 52 ≤ m := by
    rw [← Nat.pow_add, Nat.add_comm]
    exact hlow
  calc r * 2 ^ k * 2 ^ 52 ≤ (m / 2 ^ k + 1) * 2 ^ k * 2 ^ 52 := by gcongr
    _ = m / 2 ^ k * 2 ^ k * 2 ^ 52 + 2 ^ k * 2 ^ 52 := by ring
    _ ≤ m * 2 ^ 52 + m := by gcongr
    _ = m * (2 ^ 52 + 1) := by ring

/-- What is left is cut once more, as it may have become longer. -/
lemma roundWithAccuracy_eq {m k r j r' : ℕ} {e : ℤ} (hk : m.log2 = 52 + k) (he : -1074 ≤ e)
    (hr : (ExtendedMantissa.mk m false false >>> k).roundedMantissa = r)
    (hj : r.log2 = 52 + j) (hcut : r / 2 ^ j = r') (hpos : 0 < r') :
    ∃ h, roundWithAccuracy Format.binary64 .positive m e .exact =
      .finite .positive r' (e + (k + j : ℕ)) h := by
  have hround : roundWithAccuracy Format.binary64 .positive m e .exact =
      if h : (shiftToTargetExponent Format.binary64 r (e + k) .exact).1.mantissa = 0 then
        .zero .positive
      else .finite .positive (shiftToTargetExponent Format.binary64 r (e + k) .exact).1.mantissa
        (shiftToTargetExponent Format.binary64 r (e + k) .exact).2 (Nat.pos_of_ne_zero h) := by
    subst hr
    rw [roundWithAccuracy, shiftToTargetExponent_eq hk he]
  rw [shiftToTargetExponent_eq hj (by omega)] at hround
  have hmantissa : (ExtendedMantissa.mk r false false >>> j).mantissa = r' :=
    (mantissa_shiftRight _ j).trans hcut
  have hsome : (ExtendedMantissa.mk r false false >>> j).mantissa ≠ 0 := by omega
  have hexponent : e + k + j = e + (k + j : ℕ) := by omega
  dsimp only at hround
  rw [dif_neg hsome] at hround
  obtain ⟨h, hfinite⟩ := finite_congr hmantissa hexponent (Nat.pos_of_ne_zero hsome)
  exact ⟨h, hround.trans hfinite⟩

/-- **A number is rounded to one with fifty-three bits**, and becomes hardly greater. -/
lemma exists_round {m : ℕ} {e : ℤ} (hm : 2 ^ 52 ≤ m) (he : -1074 ≤ e) :
    ∃ r k : ℕ, 2 ^ 52 ≤ r ∧ r < 2 ^ 53 ∧ r * 2 ^ k * 2 ^ 52 ≤ m * (2 ^ 52 + 1) ∧
      ∃ h, roundWithAccuracy Format.binary64 .positive m e .exact =
        .finite .positive r (e + k) h := by
  have hne : m ≠ 0 := by omega
  obtain ⟨k, hk⟩ := Nat.exists_eq_add_of_le ((Nat.le_log2 hne).2 hm)
  obtain ⟨r, hr⟩ : ∃ r, (ExtendedMantissa.mk m false false >>> k).roundedMantissa = r := ⟨_, rfl⟩
  obtain ⟨hlow, hhigh, hwide⟩ := roundedMantissa_bounds hne hk hr
  rcases hhigh.lt_or_eq with hlt | hcarry
  · have hlog : r.log2 = 52 + 0 := (Nat.log2_eq_iff (by omega)).2 ⟨hlow, hlt⟩
    exact ⟨r, k, hlow, hlt, hwide,
      roundWithAccuracy_eq hk he hr hlog (Nat.div_one r) (by omega)⟩
  · -- the last bit was raised when all bits were set
    have hlog : r.log2 = 52 + 1 := by rw [hcarry, Nat.log2_two_pow]
    have hcut : r / 2 ^ 1 = 2 ^ 52 := by omega
    refine ⟨2 ^ 52, k + 1, le_rfl, by decide, ?_,
      roundWithAccuracy_eq hk he hr hlog hcut (by decide)⟩
    calc 2 ^ 52 * 2 ^ (k + 1) * 2 ^ 52 = r * 2 ^ k * 2 ^ 52 := by rw [hcarry]; ring
      _ ≤ m * (2 ^ 52 + 1) := hwide

/-! ## Doubles with all their bits -/

/-- **A positive double with all its bits**, which is `m · 2 ^ e`. -/
structure IsNormal (x : Float) (m : ℕ) (e : ℤ) : Prop where
  low : 2 ^ 52 ≤ m
  high : m < 2 ^ 53
  unpack : ∃ h, x.toModel.unpack = .finite .positive m e h

/-- The bits that are kept of a number with all its bits stand for it. -/
lemma unpack_packComponents {b m : ℕ} (hb : 0 < b) (hb' : b < 2047) (hm : 2 ^ 52 ≤ m)
    (hm' : m < 2 ^ 53) : ∃ h, UnpackedFloat.unpack Format.binary64
      (packComponents Format.binary64 .positive (BitVec.ofNat 11 b) (BitVec.ofNat 52 m)) =
        .finite .positive m (b - 1075) h := by
  have hexponent : (BitVec.ofNat 11 b).toNat = b := by
    rw [BitVec.toNat_ofNat, Nat.mod_eq_of_lt (by omega)]
  have hinfinite : BitVec.ofNat 11 b ≠ -1#11 := by
    rw [Ne, ofNat_eq_neg_one_iff (by omega)]
    omega
  have hsmall : BitVec.ofNat 11 b ≠ 0#11 := by
    intro heq
    have hzero := congrArg BitVec.toNat heq
    rw [hexponent, BitVec.toNat_zero] at hzero
    omega
  have hmantissa : (1#1 ++ BitVec.ofNat 52 m).toNat = m := by
    rw [toNat_one_append, BitVec.toNat_ofNat]
    omega
  have hkept : unpackExponent (packComponents Format.binary64 .positive (BitVec.ofNat 11 b)
      (BitVec.ofNat 52 m)) = BitVec.ofNat 11 b := unpackExponent_packComponents
  have hothers : unpackMantissa (packComponents Format.binary64 .positive (BitVec.ofNat 11 b)
      (BitVec.ofNat 52 m)) = BitVec.ofNat 52 m := unpackMantissa_packComponents
  have hbias : (Format.binary64.exponentBias + Format.binary64.mantissaBitsWithoutImplicit : ℤ) =
      1075 := rfl
  obtain ⟨hpos, hnormal⟩ := unpack_of_normal (hkept.trans_ne hinfinite) (hkept.trans_ne hsmall)
  refine ⟨by omega, ?_⟩
  rw [hnormal, UnpackedFloat.finite.injEq, hkept, hothers, hexponent, hbias]
  exact ⟨ofBitVec_unpackSign _ _ _, hmantissa, rfl⟩

/-- What has all its bits is kept as it is. -/
lemma isNormal_pack {m : ℕ} {e : ℤ} (hm : 2 ^ 52 ≤ m) (hm' : m < 2 ^ 53) (he : -1074 ≤ e)
    (he' : e ≤ 971) (h : 0 < m) :
    IsNormal (.ofModel (.pack (.finite .positive m e h))) m e := by
  obtain ⟨b, hb⟩ := Int.eq_ofNat_of_zero_le (show 0 ≤ e + 1075 by omega)
  obtain rfl : e = b - 1075 := by omega
  have hbiased : biased Format.binary64 (b - 1075) = b := by
    have hbias : (Format.binary64.exponentBias : ℤ) = 1023 := rfl
    have hbits : (Format.binary64.mantissaBitsWithoutImplicit : ℤ) = 52 := rfl
    rw [biased, hbias, hbits]
    omega
  have hfits : ¬ 2 ^ Format.binary64.exponentBits ≤ biased Format.binary64 (b - 1075) + 1 := by
    have hbits : 2 ^ Format.binary64.exponentBits = 2048 := rfl
    omega
  have hall : m.log2 + 1 = Format.binary64.mantissaBits := by
    rw [(Nat.log2_eq_iff h.ne').2 ⟨hm, hm'⟩]
    rfl
  have hpack : UnpackedFloat.pack Format.binary64 (.finite .positive m (b - 1075) h) =
      packComponents Format.binary64 .positive (BitVec.ofNat 11 b) (BitVec.ofNat 52 m) := by
    rw [pack_of_normal hfits hall, hbiased]
  obtain ⟨hpos, hunpack⟩ := unpack_packComponents (b := b) (by omega) (by omega) hm hm'
  exact ⟨hm, hm', hpos, (congrArg _ hpack).trans hunpack⟩

lemma IsNormal.isInf {x : Float} {m : ℕ} {e : ℤ} (h : IsNormal x m e) : x.isInf = false := by
  obtain ⟨-, -, h, hunpack⟩ := h
  have hinf : x.isInf = x.toModel.unpack.isInf := rfl
  rw [hinf, hunpack]
  rfl

/-- The double that a number is rounded to. -/
def rounded (m : ℕ) (e : ℤ) : Float :=
  .ofModel (.pack (roundWithAccuracy Format.binary64 .positive m e .exact))

/-- **A number is rounded to a double with all its bits**, which is hardly greater, if the number
stays away from the greatest double. -/
lemma exists_isNormal_rounded {m : ℕ} {e : ℤ} (hm : 2 ^ 52 ≤ m) (he : -1074 ≤ e)
    (small : (m * 2 ^ e : ℚ) ≤ (2 ^ 53 - 2) * 2 ^ 971) :
    ∃ (r : ℕ) (d : ℤ), IsNormal (rounded m e) r d ∧ e ≤ d ∧
      (r * 2 ^ d : ℚ) * 2 ^ 52 ≤ m * 2 ^ e * (2 ^ 52 + 1) := by
  obtain ⟨r, k, hr, hr', hwide, h, hround⟩ := exists_round hm he
  have hsize : (r * 2 ^ (e + k) : ℚ) * 2 ^ 52 ≤ m * 2 ^ e * (2 ^ 52 + 1) := by
    have hwide : (r * 2 ^ k * 2 ^ 52 : ℚ) ≤ m * (2 ^ 52 + 1) := mod_cast hwide
    calc (r * 2 ^ (e + k) * 2 ^ 52 : ℚ) = r * 2 ^ k * 2 ^ 52 * 2 ^ e := by
          rw [zpow_add₀ two_ne_zero, zpow_natCast]
          ring
      _ ≤ m * (2 ^ 52 + 1) * 2 ^ e := by gcongr
      _ = m * 2 ^ e * (2 ^ 52 + 1) := by ring
  have hexponent : e + k ≤ 971 := by
    by_contra! hlarge
    have hgreat : (2 ^ 52 * 2 ^ (972 : ℤ) : ℚ) ≤ r * 2 ^ (e + k) :=
      mul_le_mul (mod_cast hr) (zpow_le_zpow_right₀ one_le_two (by omega)) (by positivity)
        (by positivity)
    have hle : (2 ^ 52 * 2 ^ (972 : ℤ) * 2 ^ 52 : ℚ) ≤ (2 ^ 53 - 2) * 2 ^ 971 * (2 ^ 52 + 1) :=
      calc (2 ^ 52 * 2 ^ (972 : ℤ) * 2 ^ 52 : ℚ) ≤ r * 2 ^ (e + k) * 2 ^ 52 := by gcongr
        _ ≤ m * 2 ^ e * (2 ^ 52 + 1) := hsize
        _ ≤ (2 ^ 53 - 2) * 2 ^ 971 * (2 ^ 52 + 1) := by gcongr
    have hdouble : (2 : ℚ) ^ (972 : ℤ) = 2 ^ 971 * 2 := by rw [zpow_ofNat, pow_succ]
    have hpos : (0 : ℚ) < 2 ^ 971 := by positivity
    rw [hdouble] at hle
    generalize (2 : ℚ) ^ 971 = w at hle hpos
    linarith only [hle, hpos]
  refine ⟨r, e + k, ?_, by omega, hsize⟩
  rw [rounded, hround]
  exact isNormal_pack hr hr' (by omega) hexponent h

/-! ## Natural numbers and products -/

/-- **The double of a natural number** that 64 bits hold. -/
lemma exists_isNormal_toFloat {n : ℕ} (hn : 0 < n) (hn' : n < 2 ^ 64) :
    ∃ m e, IsNormal (UInt64.ofNat n).toFloat m e ∧ -52 ≤ e ∧
      (m * 2 ^ e : ℚ) * 2 ^ 52 ≤ n * (2 ^ 52 + 1) := by
  have hlog : n.log2 < 64 := (Nat.log2_lt hn.ne').2 hn'
  have htarget : Format.binary64.targetExponent (totalExponent n 0) = n.log2 - 52 := by
    have hbits : (Format.binary64.mantissaBits : ℤ) = 53 := rfl
    have hmin : Format.binary64.minExponent = -1074 := rfl
    rw [Format.targetExponent, totalExponent, hbits, hmin]
    omega
  -- zeros are put behind the bits if there are too few of them
  set j := (0 - ((n.log2 : ℤ) - 52)).toNat with hj
  have hfloat : (UInt64.ofNat n).toFloat = rounded (n <<< j) (0 - j) := by
    have hmodel : (UInt64.ofNat n).toFloat =
        .ofModel (.pack (UnpackedFloat.ofNat Format.binary64 (UInt64.ofNat n).toNat)) := rfl
    have hcompare : compare (n : ℤ) 0 = .gt := by
      rw [Int.compare_eq_gt]
      omega
    have hnat : (UInt64.ofNat n).toNat = n := UInt64.toNat_ofNat_of_lt hn'
    rw [hmodel, hnat, UnpackedFloat.ofNat, UnpackedFloat.ofInt, UnpackedFloat.normalize, hcompare]
    simp only [UnpackedFloat.round, Int.toNat_natCast, htarget, decreaseExponent, ← hj, rounded]
  have hshift : n <<< j = n * 2 ^ j := Nat.shiftLeft_eq n j
  have hbits : 2 ^ 52 ≤ n <<< j := by
    rw [hshift]
    calc 2 ^ 52 ≤ 2 ^ (n.log2 + j) := Nat.pow_le_pow_right (by decide) (by omega)
      _ = 2 ^ n.log2 * 2 ^ j := Nat.pow_add _ _ _
      _ ≤ n * 2 ^ j := Nat.mul_le_mul_right _ (Nat.log2_self_le hn.ne')
  have hvalue : ((n <<< j : ℕ) * 2 ^ (0 - (j : ℤ)) : ℚ) = n := by
    rw [hshift, zero_sub, zpow_neg, zpow_natCast, Nat.cast_mul, Nat.cast_pow, Nat.cast_ofNat,
      mul_inv_cancel_right₀ (by positivity)]
  have small : ((n <<< j : ℕ) * 2 ^ (0 - (j : ℤ)) : ℚ) ≤ (2 ^ 53 - 2) * 2 ^ 971 := by
    rw [hvalue]
    calc (n : ℚ) ≤ 2 ^ 64 := mod_cast hn'.le
      _ ≤ (2 ^ 53 - 2) * 2 ^ 12 := by norm_num
      _ ≤ (2 ^ 53 - 2) * 2 ^ 971 := by gcongr <;> norm_num
  obtain ⟨r, e, hnormal, he, hsize⟩ := exists_isNormal_rounded hbits (by omega) small
  rw [hvalue] at hsize
  exact ⟨r, e, hfloat ▸ hnormal, by omega, hsize⟩

/-- **A product is not infinite** if it stays away from the greatest double. -/
lemma isInf_mul {x y : Float} {m n : ℕ} {d e : ℤ} (hx : IsNormal x m d) (hy : IsNormal y n e)
    (hd : -537 ≤ d) (he : -537 ≤ e)
    (small : (m * 2 ^ d : ℚ) * (n * 2 ^ e) ≤ (2 ^ 53 - 2) * 2 ^ 971) : (x * y).isInf = false := by
  obtain ⟨hm, -, _, hux⟩ := hx
  obtain ⟨hn, -, _, huy⟩ := hy
  have hmul : x * y = rounded (m * n) (d + e) := by
    have hmodel : x * y = .ofModel (.pack
        (UnpackedFloat.mul Format.binary64 x.toModel.unpack y.toModel.unpack)) := rfl
    rw [hmodel, hux, huy]
    rfl
  have hbits : 2 ^ 52 ≤ m * n := hm.trans (Nat.le_mul_of_pos_right m (by omega))
  have small : ((m * n : ℕ) * 2 ^ (d + e) : ℚ) ≤ (2 ^ 53 - 2) * 2 ^ 971 := by
    rw [zpow_add₀ two_ne_zero, Nat.cast_mul, mul_mul_mul_comm]
    exact small
  obtain ⟨r, k, hnormal, -⟩ := exists_isNormal_rounded hbits (by omega) small
  rw [hmul]
  exact hnormal.isInf

/-- A product with zero is zero. -/
lemma isInf_zero_mul {y : Float} {n : ℕ} {e : ℤ} (hy : IsNormal y n e) :
    ((UInt64.ofNat 0).toFloat * y).isInf = false := by
  obtain ⟨-, -, h, huy⟩ := hy
  have hzero : (UInt64.ofNat 0).toFloat.toModel.unpack = .zero .positive := rfl
  have hmodel : (UInt64.ofNat 0).toFloat * y = .ofModel (.pack (UnpackedFloat.mul Format.binary64
      (UInt64.ofNat 0).toFloat.toModel.unpack y.toModel.unpack)) := rfl
  have hmul : UnpackedFloat.mul Format.binary64 (.zero .positive) (.finite .positive n e h) =
      .zero .positive := rfl
  rw [hmodel, hzero, huy, hmul]
  decide +kernel

/-- Whether the double of a power of ten has all its bits and is hardly greater than the power. -/
def powerFits (n : ℕ) : Bool :=
  match (Float.ofScientific 1 false n).toModel.unpack with
  | .finite .positive m e _ =>
    2 ^ 52 ≤ m ∧ m < 2 ^ 53 ∧ -53 ≤ e ∧ m * 2 ^ (e + 53).toNat ≤ 2 * (10 ^ n * (2 ^ 52 + 1))
  | _ => false

lemma exists_isNormal_of_powerFits {n : ℕ} (h : powerFits n = true) :
    ∃ m e, IsNormal (Float.ofScientific 1 false n) m e ∧ -53 ≤ e ∧
      (m * 2 ^ e : ℚ) * 2 ^ 52 ≤ 10 ^ n * (2 ^ 52 + 1) := by
  unfold powerFits at h
  cases hunpack : (Float.ofScientific 1 false n).toModel.unpack with
  | notANumber | infinity | zero =>
    rw [hunpack] at h
    exact nomatch h
  | finite s m e hm =>
    rw [hunpack] at h
    cases s with
    | negative => exact nomatch h
    | positive =>
      obtain ⟨hlow, hhigh, he, hsize⟩ := of_decide_eq_true h
      refine ⟨m, e, ⟨hlow, hhigh, hm, hunpack⟩, he, ?_⟩
      obtain ⟨j, hj⟩ := Int.eq_ofNat_of_zero_le (show 0 ≤ e + 53 by omega)
      rw [hj, Int.toNat_natCast] at hsize
      have hsize : (m * 2 ^ j : ℚ) ≤ 2 * (10 ^ n * (2 ^ 52 + 1)) := mod_cast hsize
      have hexponent : (2 : ℚ) ^ j = 2 ^ e * 2 ^ 53 := by
        rw [← zpow_natCast, ← hj, zpow_add₀ two_ne_zero, zpow_ofNat]
      rw [hexponent] at hsize
      linarith

/-- A power of ten that is no double is multiplied by a power of two and rounded. -/
lemma ofScientific_eq_rounded {n : ℕ} (hlarge : 22 < n) (hn : n ≤ 308) :
    Float.ofScientific 1 false n = rounded (2 ^ 53 * 10 ^ n) (-53) := by
  have hslow : ¬ ((1 : ℕ) < 2 ^ 53 ∧ n ≤ 22) := by omega
  have hbits : (2 ^ Format.binary64.exponentBits : ℤ) = 2048 := rfl
  have hlow : ¬ Int.ofNat n > 2 ^ Format.binary64.exponentBits := by
    rw [hbits, Int.ofNat_eq_natCast]
    omega
  have hhigh : ¬ Int.ofNat n < -((2 ^ Format.binary64.exponentBits : ℤ) + Nat.log2 1) := by
    rw [hbits, Int.ofNat_eq_natCast]
    omega
  have hsign : 0 ≤ Int.ofNat n := Int.natCast_nonneg n
  have hscientific : ∃ h h', UnpackedFloat.ofScientific Format.binary64 1 (Int.ofNat n) =
      UnpackedFloat.mul Format.binary64 (.finite .positive (1 <<< 53) (-53) h)
        (.finite .positive (10 ^ n) 0 h') :=
    ⟨_, _, (dif_neg Nat.one_ne_zero).trans
      ((if_neg hlow).trans ((if_neg hhigh).trans (if_pos hsign)))⟩
  obtain ⟨h, h', hscientific⟩ := hscientific
  rw [Float.ofScientific, dif_neg hslow]
  exact congrArg (fun f => Float.ofModel (.pack f)) hscientific

/-- **The double of a power of ten** that is not beyond the doubles. -/
lemma exists_isNormal_power {n : ℕ} (hn : n ≤ 308) :
    ∃ m e, IsNormal (Float.ofScientific 1 false n) m e ∧ -53 ≤ e ∧
      (m * 2 ^ e : ℚ) * 2 ^ 52 ≤ 10 ^ n * (2 ^ 52 + 1) := by
  rcases Nat.lt_or_ge 22 n with hlarge | hsmall
  · have hvalue : ((2 ^ 53 * 10 ^ n : ℕ) * 2 ^ (-53 : ℤ) : ℚ) = 10 ^ n := by
      have hcancel : (2 ^ 53 * 2 ^ (-53 : ℤ) : ℚ) = 1 := by norm_num
      rw [Nat.cast_mul, Nat.cast_pow, Nat.cast_pow, Nat.cast_ofNat, Nat.cast_ofNat, mul_right_comm,
        hcancel, one_mul]
    have small : ((2 ^ 53 * 10 ^ n : ℕ) * 2 ^ (-53 : ℤ) : ℚ) ≤ (2 ^ 53 - 2) * 2 ^ 971 := by
      have hgreatest : 10 ^ 308 ≤ (2 ^ 53 - 2) * 2 ^ 971 := by decide +kernel
      rw [hvalue]
      calc (10 : ℚ) ^ n ≤ 10 ^ 308 := pow_le_pow_right₀ (by norm_num) hn
        _ = (10 ^ 308 : ℕ) := by rw [Nat.cast_pow, Nat.cast_ofNat]
        _ ≤ ((2 ^ 53 - 2) * 2 ^ 971 : ℕ) := Nat.cast_le.2 hgreatest
        _ = (2 ^ 53 - 2) * 2 ^ 971 := by
          rw [Nat.cast_mul, Nat.cast_pow]
          norm_num
    have hbits : 2 ^ 52 ≤ 2 ^ 53 * 10 ^ n :=
      Nat.le_mul_of_pos_right (2 ^ 53) (Nat.pow_pos (by decide)) |>.trans' (by decide)
    obtain ⟨r, e, hnormal, he, hsize⟩ := exists_isNormal_rounded hbits (by omega) small
    rw [hvalue] at hsize
    exact ⟨r, e, ofScientific_eq_rounded hlarge hn ▸ hnormal, he, hsize⟩
  · have hfits : ∀ n < 23, powerFits n = true := by decide +kernel
    exact exists_isNormal_of_powerFits (hfits n (by omega))

end ScriptStage.Decimal
