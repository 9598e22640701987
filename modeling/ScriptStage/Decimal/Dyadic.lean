/-!
# Binary floating-point values as dyadic numbers

A finite double is `± m · 2 ^ q` for naturals `m` and integers `q`. The decoding reads the bits,
so what is decided about a value here is decided in exact integer arithmetic.

## Main definitions

* `ScriptStage.Decimal.Dyadic`: sign, mantissa and exponent of a finite value.
* `ScriptStage.Decimal.Dyadic.ofFloat`: the decoding of a double.
* `ScriptStage.Decimal.Dyadic.toInt?`: the integer that a value equals, if it is integral.
* `ScriptStage.Decimal.Dyadic.truncate`: a value without its fraction.
* `ScriptStage.Decimal.Dyadic.toFloat`: the double nearest to a value.
* `ScriptStage.Decimal.remainder`: the remainder of a division that truncates, with the sign of
  the dividend.

## Main results

* `ScriptStage.Decimal.Dyadic.toInt?_eq_some_iff`: `toInt?` gives `n` exactly when the value
  equals `n`.
-/

set_option autoImplicit false

namespace ScriptStage.Decimal

/-- The number `± mantissa · 2 ^ exponent`. Zero keeps its sign. -/
structure Dyadic where
  /-- Whether the sign is minus. -/
  negative : Bool
  /-- The absolute value of the mantissa. -/
  mantissa : Nat
  /-- The power of two. -/
  exponent : Int
  deriving DecidableEq, Repr

namespace Dyadic

/-- Decodes a double. For infinities and NaN, which no dyadic number equals, the answer means
nothing. -/
def ofFloat (x : Float) : Dyadic :=
  let bits : Nat := x.toBits.toNat
  let biased : Nat := bits / 0x10000000000000 % 0x800
  let fraction : Nat := bits % 0x10000000000000
  let negative := bits / 0x8000000000000000 == 1
  if biased = 0 then ⟨negative, fraction, -1074⟩
  else ⟨negative, 0x10000000000000 + fraction, Int.subNatNat biased 1075⟩

/-- Gives an absolute value the sign of `d`. -/
def signed (d : Dyadic) (n : Nat) : Int :=
  if d.negative then -(n : Int) else n

/-- Numerator and denominator of the absolute value. -/
def ratio (d : Dyadic) : Nat × Nat :=
  (d.mantissa * Nat.pow 2 d.exponent.toNat, Nat.pow 2 (-d.exponent).toNat)

/-- The integer that the value equals, if there is one. -/
def toInt? (d : Dyadic) : Option Int :=
  let (num, den) := d.ratio
  if num % den = 0 then some (d.signed (num / den)) else none

/-- The value without its fraction. -/
def truncate (d : Dyadic) : Int :=
  let (num, den) := d.ratio
  d.signed (num / den)

/-- The value equals the integer `n`. -/
def Equals (d : Dyadic) (n : Int) : Prop :=
  d.signed d.ratio.1 = n * d.ratio.2

theorem ratio_den_pos (d : Dyadic) : 0 < d.ratio.2 := Nat.pow_pos (by decide)

/-- `toInt?` gives `n` exactly when the value equals `n`. -/
theorem toInt?_eq_some_iff (d : Dyadic) (n : Int) : d.toInt? = some n ↔ d.Equals n := by
  have hpos := d.ratio_den_pos
  unfold toInt? Equals
  generalize d.ratio = r at hpos ⊢
  obtain ⟨num, den⟩ := r
  simp only at hpos ⊢
  constructor
  · intro h
    split at h
    · next hmod =>
      obtain rfl := Option.some.inj h
      have hn : num / den * den = num := Nat.div_mul_cancel (Nat.dvd_of_mod_eq_zero hmod)
      have hz : ((num / den : Nat) : Int) * den = num := by exact_mod_cast hn
      unfold signed
      split
      · rw [Int.neg_mul, hz]
      · exact hz.symm
    · exact nomatch h
  · intro h
    have hden : (den : Int) ≠ 0 := by omega
    have hdvd : den ∣ num := by
      have hz : (den : Int) ∣ (num : Int) := by
        unfold signed at h
        split at h
        · exact ⟨-n, by rw [Int.mul_neg, Int.mul_comm, ← h, Int.neg_neg]⟩
        · exact ⟨n, by rw [Int.mul_comm]; exact h⟩
      exact Int.natCast_dvd_natCast.1 hz
    rw [if_pos (Nat.mod_eq_zero_of_dvd hdvd)]
    have hn : num / den * den = num := Nat.div_mul_cancel hdvd
    have hz : ((num / den : Nat) : Int) * den = num := by exact_mod_cast hn
    congr 1
    apply Int.eq_of_mul_eq_mul_right hden
    rw [← h]
    unfold signed
    split
    · rw [Int.neg_mul, hz]
    · exact hz

/-- The double nearest to a value, ties to even. -/
def toFloat (d : Dyadic) : Float :=
  let magnitude : Float :=
    if 0 ≤ d.exponent then Float.ofScientific (d.mantissa * Nat.pow 2 d.exponent.toNat) false 0
    else
      let k := (-d.exponent).toNat
      Float.ofScientific (d.mantissa * Nat.pow 5 k) true k
  if d.negative then -magnitude else magnitude

end Dyadic

/-- The remainder of `x / y` with the quotient truncated toward zero; it has the sign of `x`.
Exact, since the remainder of two doubles is a double. -/
def remainder (x y : Float) : Float :=
  if !x.isFinite || y.isNaN || y == 0 then 0 / 0
  else if y.isInf then x
  else
    let a := Dyadic.ofFloat x
    let b := Dyadic.ofFloat y
    let q := min a.exponent b.exponent
    let m := a.mantissa * Nat.pow 2 (a.exponent - q).toNat
    let n := b.mantissa * Nat.pow 2 (b.exponent - q).toNat
    Dyadic.toFloat ⟨a.negative, m % n, q⟩

end ScriptStage.Decimal
