import Mathlib.Data.List.Basic
import ScriptStage.Proofs.Decimal.Doubles
import ScriptStage.Proofs.Json.Grammar
import ScriptStage.Proofs.Json.Numbers

/-!
# Numbers that are written

The digits of a finite double are laid out as a number of JSON, whatever the decisions of the format
are: no zero stands in front of another digit, since the digit zero stands for zero alone, which has
no exponent.

## Main results

* `ScriptStage.Decimal.Dyadic.exponent_shortest` — zero has no exponent.
* `ScriptStage.Decimal.Notation.isUnsigned_layout` — what is laid out is a number.
* `ScriptStage.Decimal.Notation.isNumber_render` — so is the text of every finite double.
* `ScriptStage.Json.isNumber_writeInt` — and that of every integer.
-/

set_option autoImplicit false

namespace ScriptStage

/-! ## Shortest decimals -/

namespace Decimal

lemma compareScaled_zero (i j : ℤ) {b : ℕ} (hb : 0 < b) : compareScaled 0 i b j = .lt := by
  have hpos : 0 < b * Nat.pow 2 j.toNat * Nat.pow 10 (-i).toNat :=
    Nat.mul_pos (Nat.mul_pos hb (Nat.pow_pos (by decide))) (Nat.pow_pos (by decide))
  rw [compareScaled, Nat.zero_mul, Nat.zero_mul]
  exact Nat.compare_eq_lt.2 hpos

namespace Dyadic

variable {x : Dyadic}

/-- Zero reads back to nothing but zero. -/
lemma digits_ne_zero_of_readsBack (hx : x.mantissa ≠ 0) {d : Digits} (h : x.readsBack d = true) :
    d.digits ≠ 0 := by
  intro hzero
  have hlow : compareScaled d.digits d.exponent
      (if x.narrowBelow then 4 * x.mantissa - 1 else 4 * x.mantissa - 2) (x.exponent - 2) =
        .lt := by
    rw [hzero]
    exact compareScaled_zero _ _ (by split_ifs <;> omega)
  simp only [readsBack, hlow] at h
  simp at h

lemma stripZeros_digits_ne_zero {d : Digits} (h : d.digits ≠ 0) (fuel : ℕ) :
    (stripZeros fuel d).digits ≠ 0 := by
  induction fuel generalizing d with
  | zero => exact h
  | succ fuel ih =>
    unfold stripZeros
    split
    · next hd => exact ih (d := ⟨d.digits / 10, d.exponent + 1⟩) (by dsimp only; omega)
    · exact h

/-- **The digit zero stands for zero alone**, without an exponent. -/
lemma exponent_shortest (x : Dyadic) (tie : Tie) (h : (x.shortest tie).digits = 0) :
    (x.shortest tie).exponent = 0 := by
  unfold shortest at h ⊢
  split at h
  · next hx => rw [if_pos hx]
  · next hx =>
    refine absurd h (stripZeros_digits_ne_zero ?_ 400)
    cases hfound : (List.range 17).findSome? fun (n : ℕ) => x.onGrid tie (x.magnitude - 1 - n) with
    | some d =>
      obtain ⟨n, -, hd⟩ := List.exists_of_findSome?_eq_some hfound
      exact digits_ne_zero_of_readsBack hx (readsBack_of_onGrid hd)
    | none =>
      have hpow : ∀ b k : ℕ, 0 < b → Nat.pow b k ≠ 0 := fun b k hb => (Nat.pow_pos hb).ne'
      exact Nat.mul_ne_zero (Nat.mul_ne_zero hx (hpow 2 _ (by decide))) (hpow 5 _ (by decide))

end Dyadic

namespace Notation

open Json

variable (f : Notation)

lemma isDigits_digitsOf (n : ℕ) : IsDigits (digitsOf n) :=
  ⟨Nat.toDigits_ne_nil, fun _ => isDigit_of_mem_digitsOf⟩

lemma isDigit_of_mem_zeros {n : ℕ} {c : Char} (h : c ∈ List.replicate n '0') :
    Text.isDigit c = true := by
  rw [List.eq_of_mem_replicate h]
  rfl

lemma isExponent_exponentPart (e : ℤ) : IsExponent (f.exponentPart e) := by
  have digits : IsDigits (padZeros f.exponentWidth (digitsOf e.natAbs)) := by
    obtain ⟨hne, hdigits⟩ := isDigits_digitsOf e.natAbs
    refine ⟨fun h => hne (List.append_eq_nil_iff.1 h).2, fun c hc => ?_⟩
    exact (List.mem_append.1 hc).elim isDigit_of_mem_zeros (hdigits c)
  have signed : (if e < 0 then ['-'] else if f.exponentPlus then ['+'] else []) ∈
      [[], ['+'], ['-']] := by
    split_ifs <;> decide
  exact .given (by decide) signed digits

/-- No other digit stands behind a single one. -/
lemma zero_of_head {c : Char} (h : [c].head? = some '0') : [c] = ['0'] :=
  congrArg (fun c => [c]) (Option.some.inj h)

/-- The text of a number without a sign. -/
inductive IsUnsigned : List Char → Prop
  | mk {whole fraction exponent : List Char} (digits : IsDigits whole)
      (zero : whole.head? = some '0' → whole = ['0']) (isFraction : IsFraction fraction)
      (isExponent : IsExponent exponent) : IsUnsigned (whole ++ (fraction ++ exponent))

lemma IsUnsigned.isNumber {t sign : List Char} (h : IsUnsigned t) (signed : sign ∈ [[], ['-']]) :
    IsNumber (sign ++ t) := by
  obtain ⟨digits, zero, isFraction, isExponent⟩ := h
  exact .mk signed digits zero isFraction isExponent

/-- Only zero begins with the digit zero. -/
lemma eq_zero_of_head_digitsOf {n : ℕ} (h : (digitsOf n).head? = some '0') : n = 0 :=
  Nat.eq_zero_of_not_pos fun hpos => head_digitsOf hpos h

/-- **The decimal digits of a natural number are a number of JSON.** -/
theorem isUnsigned_digitsOf (n : ℕ) : IsUnsigned (digitsOf n) := by
  have zero : (digitsOf n).head? = some '0' → digitsOf n = ['0'] := fun h => by
    rw [eq_zero_of_head_digitsOf h]
    rfl
  simpa using IsUnsigned.mk (isDigits_digitsOf n) zero .absent .absent

/-- **What is laid out is a number of JSON**, if zero has no exponent. -/
theorem isUnsigned_layout {d : Digits} (hd : d.digits = 0 → d.exponent = 0) :
    IsUnsigned (f.layout d) := by
  obtain ⟨hne, hdigits⟩ := isDigits_digitsOf d.digits
  have hzero : (digitsOf d.digits).head? = some '0' → d.digits = 0 := eq_zero_of_head_digitsOf
  have hone : digitsOf 0 = ['0'] := rfl
  unfold layout
  dsimp only
  split
  · split
    · -- the digits and zeros behind them
      have digits : IsDigits (digitsOf d.digits ++ List.replicate d.exponent.toNat '0') :=
        ⟨fun h => hne (List.append_eq_nil_iff.1 h).1, fun c hc =>
          (List.mem_append.1 hc).elim (hdigits c) isDigit_of_mem_zeros⟩
      have zero : (digitsOf d.digits ++ List.replicate d.exponent.toNat '0').head? = some '0' →
          digitsOf d.digits ++ List.replicate d.exponent.toNat '0' = ['0'] := by
        intro h
        rw [List.head?_append_of_ne_nil _ hne] at h
        rw [hzero h, hd (hzero h), hone]
        rfl
      have point : IsFraction (if f.pointZero then ['.', '0'] else []) := by
        split_ifs
        · exact .given (isDigits_digitsOf 0)
        · exact .absent
      simpa using IsUnsigned.mk digits zero point .absent
    split
    · -- the point stands among the digits
      next hexp hlead =>
      set whole := ((digitsOf d.digits).length + d.exponent - 1 + 1).toNat with hwhole
      have hpos : 0 < whole := by omega
      have hlt : whole < (digitsOf d.digits).length := by omega
      have digits : IsDigits ((digitsOf d.digits).take whole) :=
        ⟨fun h => by simp [hne, hpos.ne'] at h, fun c hc => hdigits c (List.mem_of_mem_take hc)⟩
      have zero : ((digitsOf d.digits).take whole).head? = some '0' →
          (digitsOf d.digits).take whole = ['0'] := by
        intro h
        rw [List.head?_take, if_neg hpos.ne'] at h
        have hexp' := hd (hzero h)
        omega
      have point : IsFraction ('.' :: (digitsOf d.digits).drop whole) :=
        .given ⟨fun h => by simp at h; omega, fun c hc => hdigits c (List.mem_of_mem_drop hc)⟩
      simpa using IsUnsigned.mk digits zero point .absent
    · -- zeros stand between the point and the digits
      have point : IsFraction
          ('.' :: (List.replicate (-((digitsOf d.digits).length + d.exponent - 1) - 1).toNat '0' ++
            digitsOf d.digits)) :=
        .given ⟨fun h => hne (List.append_eq_nil_iff.1 h).2, fun c hc =>
          (List.mem_append.1 hc).elim isDigit_of_mem_zeros (hdigits c)⟩
      have digits : IsDigits ['0'] := isDigits_digitsOf 0
      simpa using IsUnsigned.mk digits zero_of_head point .absent
  · split
    · next c h =>
      have digits : IsDigits [c] := h ▸ isDigits_digitsOf d.digits
      have number : ∀ e, IsUnsigned ([c] ++ ([] ++ f.exponentPart e)) := fun e =>
        .mk digits zero_of_head .absent (f.isExponent_exponentPart e)
      exact number _
    · next c cs hcs h =>
      rw [h] at hdigits hzero
      have digits : IsDigits [c] := ⟨by simp, fun c' hc' => hdigits c' (by simp_all)⟩
      have point : IsFraction ('.' :: cs) :=
        .given ⟨fun hnil => hcs (by rw [hnil]), fun c' hc' => hdigits c' (.tail c hc')⟩
      simpa using IsUnsigned.mk digits zero_of_head point (f.isExponent_exponentPart _)
    · next h => exact absurd h hne

/-- **The text of a finite double is a number of JSON.** -/
theorem isNumber_render {x : Float} (finite : x.isFinite = true) : IsNumber (f.render x) := by
  obtain ⟨hnan, hinf⟩ := not_nan_not_inf finite
  have hlayout := f.isUnsigned_layout ((Dyadic.ofFloat x).exponent_shortest f.tie)
  unfold render
  simp only [hnan, hinf, Bool.false_eq_true, if_false]
  exact hlayout.isNumber (by split_ifs <;> decide)

end Notation

end Decimal

/-- **The text of an integer is a number of JSON.** -/
theorem Json.isNumber_writeInt (n : ℤ) : IsNumber (writeInt n) := by
  have hdigits := Decimal.Notation.isUnsigned_digitsOf n.natAbs
  unfold writeInt
  split
  · exact hdigits.isNumber (List.mem_cons_of_mem _ List.mem_cons_self)
  · exact hdigits.isNumber List.mem_cons_self

end ScriptStage
