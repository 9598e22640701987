import Mathlib.Algebra.Group.Nat.Defs

/-!
# The bits of doubles

A double is kept as its bits: a sign, an exponent and a fraction. Whether it is finite is seen from
the exponent alone.

## Main results

* `ScriptStage.Decimal.isFinite_unpack` — the exponents of finite doubles.
* `ScriptStage.Decimal.isFinite_neg` — a double is finite with either sign.
* `ScriptStage.Decimal.not_nan_not_inf` — a finite double is a number and not infinite.
-/

set_option autoImplicit false

namespace ScriptStage.Decimal

open Float.Model Float.Model.UnpackedFloat

/-! ## Bits and what they stand for -/

section Bits

variable {spec : Format} {b : BitVec spec.numBits}

/-- With all bits of the exponent set, the bits stand for an infinity or for no number. -/
lemma unpack_of_infinite (h : unpackExponent b = -BitVec.ofNat spec.exponentBits 1) :
    UnpackedFloat.unpack spec b =
      if unpackMantissa b = 0#_ then .infinity (.ofBitVec (unpackSign b)) else .notANumber :=
  if_pos h

/-- With no bit of the exponent set, they stand for zero or for a number below the normal ones. -/
lemma unpack_of_small (h : unpackExponent b ≠ -BitVec.ofNat spec.exponentBits 1)
    (hsmall : unpackExponent b = 0#_) :
    UnpackedFloat.unpack spec b =
      if hzero : unpackMantissa b = 0#_ then .zero (.ofBitVec (unpackSign b))
      else .finite (.ofBitVec (unpackSign b)) (unpackMantissa b).toNat
        (((unpackExponent b).toNat : Int) - (spec.exponentBias + spec.mantissaBitsWithoutImplicit)
          + 1) (Nat.pos_of_ne_zero fun h => hzero (BitVec.eq_of_toNat_eq h)) :=
  (if_neg h).trans (if_pos hsmall)

/-- Otherwise they stand for a normal number. -/
lemma unpack_of_normal (h : unpackExponent b ≠ -BitVec.ofNat spec.exponentBits 1)
    (hnormal : unpackExponent b ≠ 0#_) :
    ∃ hpos, UnpackedFloat.unpack spec b =
      .finite (.ofBitVec (unpackSign b)) (1#1 ++ unpackMantissa b).toNat
        (((unpackExponent b).toNat : Int) - (spec.exponentBias + spec.mantissaBitsWithoutImplicit))
        hpos :=
  ⟨_, (if_neg h).trans (if_neg hnormal)⟩

/-- The first bit of a normal number, which is not kept, stands in front of the others. -/
lemma toNat_one_append {w : Nat} (m : BitVec w) : (1#1 ++ m).toNat = 2 ^ w + m.toNat := by
  have hone : (1#1).toNat = 1 := rfl
  rw [BitVec.toNat_append, ← Nat.shiftLeft_add_eq_or_of_lt m.isLt, hone, Nat.shiftLeft_eq,
    Nat.one_mul]

/-- The exponent of a number as it is kept, before it is cut to its bits. -/
def biased (spec : Format) (e : Int) : Nat :=
  (e + spec.exponentBias + spec.mantissaBitsWithoutImplicit).toNat

variable {s : Sign} {m : Nat} {e : Int} {hm : 0 < m}

/-- A number that is too large is packed as an infinity. -/
lemma pack_of_large (h : 2 ^ spec.exponentBits ≤ biased spec e + 1) :
    UnpackedFloat.pack spec (.finite s m e hm) = packedInfinity spec s :=
  if_pos h

/-- A number with all its bits is packed with its exponent and without its first bit. -/
lemma pack_of_normal (h : ¬ 2 ^ spec.exponentBits ≤ biased spec e + 1)
    (hall : m.log2 + 1 = spec.mantissaBits) :
    UnpackedFloat.pack spec (.finite s m e hm) =
      packComponents spec s (BitVec.ofNat _ (biased spec e)) (BitVec.ofNat _ m) :=
  (if_neg h).trans (if_pos hall)

/-- A number with fewer bits is packed without an exponent. -/
lemma pack_of_small (h : ¬ 2 ^ spec.exponentBits ≤ biased spec e + 1)
    (hfew : m.log2 + 1 ≠ spec.mantissaBits) :
    UnpackedFloat.pack spec (.finite s m e hm) =
      packComponents spec s 0#_ (BitVec.ofNat _ m) :=
  (if_neg h).trans (if_neg hfew)

end Bits

/-- The sign of a double is its first bit. -/
lemma ofBitVec_unpackSign (s : Sign) (e : BitVec 11) (m : BitVec 52) :
    Sign.ofBitVec (unpackSign (packComponents Format.binary64 s e m)) = s := by
  have hbit : unpackSign (packComponents Format.binary64 s e m) =
      (s.toBitVec ++ e ++ m).extractLsb' 63 1 := rfl
  rw [hbit, BitVec.extractLsb'_append_eq_of_le (by omega),
    BitVec.extractLsb'_append_eq_of_le (by omega)]
  cases s <;> rfl

/-! ## Finite doubles -/

/-- **A double is finite** unless all bits of its exponent are set. -/
theorem isFinite_unpack {spec : Format} (b : BitVec spec.numBits) :
    (UnpackedFloat.unpack spec b).isFinite = true ↔
      unpackExponent b ≠ -BitVec.ofNat spec.exponentBits 1 := by
  by_cases h : unpackExponent b = -BitVec.ofNat spec.exponentBits 1
  · rw [unpack_of_infinite h]
    refine iff_of_false ?_ (not_not_intro h)
    split <;> exact Bool.false_ne_true
  · refine iff_of_true ?_ h
    by_cases hsmall : unpackExponent b = 0#_
    · rw [unpack_of_small h hsmall]
      by_cases hzero : unpackMantissa b = 0#_
      · rw [dif_pos hzero]
        rfl
      · rw [dif_neg hzero]
        rfl
    · obtain ⟨hpos, hunpack⟩ := unpack_of_normal h hsmall
      rw [hunpack]
      rfl

/-- The sign of a double is no part of its exponent. -/
lemma unpackExponent_pack_neg (spec : Format) (f : UnpackedFloat) :
    unpackExponent (UnpackedFloat.pack spec f.neg) =
      unpackExponent (UnpackedFloat.pack spec f) := by
  have hparts : ∀ (s s' : Sign) (e : BitVec spec.exponentBits)
      (m : BitVec spec.mantissaBitsWithoutImplicit),
      unpackExponent (packComponents spec s e m) = unpackExponent (packComponents spec s' e m) :=
    fun s s' e m => by rw [unpackExponent_packComponents, unpackExponent_packComponents]
  cases f with
  | notANumber => rfl
  | infinity s => exact hparts _ _ _ _
  | zero s => exact hparts _ _ _ _
  | finite s m e hm =>
    change unpackExponent (UnpackedFloat.pack spec (.finite _ m e hm)) = _
    by_cases hlarge : 2 ^ spec.exponentBits ≤ biased spec e + 1
    · rw [pack_of_large hlarge, pack_of_large hlarge]
      exact hparts _ _ _ _
    · by_cases hall : m.log2 + 1 = spec.mantissaBits
      · rw [pack_of_normal hlarge hall, pack_of_normal hlarge hall]
        exact hparts _ _ _ _
      · rw [pack_of_small hlarge hall, pack_of_small hlarge hall]
        exact hparts _ _ _ _

/-- The number with all bits set is the greatest one. -/
lemma ofNat_eq_neg_one_iff {w n : Nat} (h : n < 2 ^ w) :
    BitVec.ofNat w n = -BitVec.ofNat w 1 ↔ n + 1 = 2 ^ w := by
  rw [BitVec.neg_one_eq_allOnes, ← BitVec.toNat_inj, BitVec.toNat_ofNat, Nat.mod_eq_of_lt h,
    BitVec.toNat_allOnes]
  have := Nat.two_pow_pos w
  omega

/-- All bits of the exponent are set if and only if the number is too large. -/
lemma unpackExponent_pack_finite {spec : Format} (hspec : 2 ≤ spec.exponentBits) (s : Sign)
    (m : Nat) (e : Int) (hm : 0 < m) :
    unpackExponent (UnpackedFloat.pack spec (.finite s m e hm)) =
        -BitVec.ofNat spec.exponentBits 1 ↔
      2 ^ spec.exponentBits ≤ biased spec e + 1 := by
  have hsize : 2 ^ 2 ≤ 2 ^ spec.exponentBits := Nat.pow_le_pow_right (by decide) hspec
  by_cases hlarge : 2 ^ spec.exponentBits ≤ biased spec e + 1
  · rw [pack_of_large hlarge, packedInfinity, unpackExponent_packComponents]
    exact iff_of_true rfl hlarge
  · by_cases hall : m.log2 + 1 = spec.mantissaBits
    · rw [pack_of_normal hlarge hall, unpackExponent_packComponents,
        ofNat_eq_neg_one_iff (by omega)]
      omega
    · rw [pack_of_small hlarge hall, unpackExponent_packComponents,
        ofNat_eq_neg_one_iff (by omega)]
      omega

/-- Bits that are taken apart and put together have all bits of their exponent set if and only if
they had. -/
lemma unpackExponent_pack_unpack {spec : Format} (hspec : 2 ≤ spec.exponentBits)
    (b : BitVec spec.numBits) :
    unpackExponent (UnpackedFloat.pack spec (UnpackedFloat.unpack spec b)) =
        -BitVec.ofNat spec.exponentBits 1 ↔
      unpackExponent b = -BitVec.ofNat spec.exponentBits 1 := by
  have hsize : 2 ^ 2 ≤ 2 ^ spec.exponentBits := Nat.pow_le_pow_right (by decide) hspec
  by_cases h : unpackExponent b = -BitVec.ofNat spec.exponentBits 1
  · refine iff_of_true ?_ h
    rw [unpack_of_infinite h]
    split <;> exact unpackExponent_packComponents
  · refine iff_of_false ?_ h
    by_cases hsmall : unpackExponent b = 0#_
    · have hnat : (unpackExponent b).toNat = 0 := by rw [hsmall, BitVec.toNat_zero]
      rw [unpack_of_small h hsmall]
      by_cases hzero : unpackMantissa b = 0#_
      · -- a zero has no bit of its exponent set
        have hnone : unpackExponent (packedZero spec (.ofBitVec (unpackSign b))) = 0#_ :=
          unpackExponent_packComponents
        rw [dif_pos hzero]
        exact fun heq => h (hsmall.trans (hnone.symm.trans heq))
      · rw [dif_neg hzero, unpackExponent_pack_finite hspec, biased]
        omega
    · obtain ⟨hpos, hunpack⟩ := unpack_of_normal h hsmall
      have hlt := (unpackExponent b).isLt
      have hall := ofNat_eq_neg_one_iff hlt
      rw [BitVec.ofNat_toNat, BitVec.setWidth_eq] at hall
      have hnat := mt hall.2 h
      rw [hunpack, unpackExponent_pack_finite hspec, biased]
      omega

/-- **A double is finite with either sign.** -/
theorem isFinite_neg (x : Float) : (-x).isFinite = x.isFinite := by
  obtain ⟨⟨bits, valid⟩⟩ := x
  have hexponent := @unpackExponent_pack_unpack Format.binary64 (by decide) bits.toBitVec
  rw [← unpackExponent_pack_neg] at hexponent
  rw [Bool.eq_iff_iff]
  exact (isFinite_unpack _).trans ((not_congr hexponent).trans (isFinite_unpack _).symm)

/-- **A finite double is a number and not infinite.** -/
lemma not_nan_not_inf {x : Float} (h : x.isFinite = true) : x.isNaN = false ∧ x.isInf = false := by
  obtain ⟨⟨bits, valid⟩⟩ := x
  have hkind : ∀ f : UnpackedFloat, f.isFinite = true → f.isNaN = false ∧ f.isInf = false := by
    intro f hf
    cases f with
    | notANumber => exact absurd hf Bool.false_ne_true
    | infinity s => exact absurd hf Bool.false_ne_true
    | zero s => exact ⟨rfl, rfl⟩
    | finite s m e hm => exact ⟨rfl, rfl⟩
  exact hkind (UnpackedFloat.unpack Format.binary64 bits.toBitVec) h

end ScriptStage.Decimal
