import ScriptStage.Decimal.Reading
import ScriptStage.Proofs.Decimal.Rounding
import ScriptStage.Proofs.Json.Ignored
import ScriptStage.Proofs.Json.Layout

/-!
# Numbers in range

Whether a number is out of range is a matter of the reader's own arithmetic: it takes the leading
digits that 64 bits hold as a double and multiplies by a power of ten. Both factors and the product
are rounded, so that the product can be infinite for a number that is not greater than the greatest
double. This file shows that the reader comes to the same verdict on a number wherever it stands,
and that a number is in range if it stays some steps below the greatest double.

## Main definitions

* `ScriptStage.Json.InRange` — a number that is in range for the reader.
* `ScriptStage.Json.magnitude` — how great a number is.

## Main results

* `ScriptStage.Json.Scaled.size_le` — the significand with its power of ten is hardly greater than
  the number.
* `ScriptStage.Json.Scaled.toFloat?_ne_none` — its double is not infinite.
* `ScriptStage.Json.IsNumber.readScalar` — numbers are read if they are in range.
* `ScriptStage.Json.IsNumber.inRange` — numbers that are not too great are in range.
-/

set_option autoImplicit false

namespace ScriptStage

open Decimal

/-! ## Digits -/

namespace Text

lemma foldl_digits (ds : List Char) (s : ℕ) :
    ds.foldl (fun n c => n * 10 + digitValue c) s = s * 10 ^ ds.length + natOf ds := by
  induction ds generalizing s with
  | nil => simp [natOf]
  | cons c ds ih =>
    rw [natOf, List.foldl_cons, List.foldl_cons, ih, ih, List.length_cons]
    ring

lemma natOf_append (ds es : List Char) :
    natOf (ds ++ es) = natOf ds * 10 ^ es.length + natOf es := by
  rw [natOf, List.foldl_append, foldl_digits]
  rfl

lemma natOf_singleton (c : Char) : natOf [c] = digitValue c := by
  rw [natOf, List.foldl_cons, List.foldl_nil, Nat.zero_mul, Nat.zero_add]

lemma digitValue_lt {c : Char} (h : isDigit c = true) : digitValue c < 10 := by
  simp only [isDigit, Bool.and_eq_true, decide_eq_true_eq, Char.le_def, UInt32.le_iff_toNat_le] at h
  have hnine : c.toNat ≤ 57 := h.2
  have hzero : '0'.toNat = 48 := rfl
  rw [digitValue]
  omega

lemma natOf_lt {ds : List Char} (h : ∀ c ∈ ds, isDigit c = true) : natOf ds < 10 ^ ds.length := by
  induction ds with
  | nil => decide
  | cons c ds ih =>
    obtain ⟨hc, hds⟩ := List.forall_mem_cons.1 h
    rw [← List.singleton_append, natOf_append, natOf_singleton, List.length_append,
      List.length_singleton]
    calc digitValue c * 10 ^ ds.length + natOf ds
        < digitValue c * 10 ^ ds.length + 10 ^ ds.length := Nat.add_lt_add_left (ih hds) _
      _ = (digitValue c + 1) * 10 ^ ds.length := by ring
      _ ≤ 10 * 10 ^ ds.length := Nat.mul_le_mul_right _ (digitValue_lt hc)
      _ = 10 ^ (1 + ds.length) := by ring

end Text

namespace Json

open Text

/-! ## Significands -/

/-- The digits that a significand holds, and those that are left over. If there are any, then it
holds as many as it can. -/
lemma absorb_cases {s : ℕ} {ds : List Char} (hs : s < 2 ^ 64)
    (digits : ∀ c ∈ ds, isDigit c = true) :
    ∃ taken left, ds = taken ++ left ∧
      absorb s ds = (s * 10 ^ taken.length + natOf taken, left) ∧
      s * 10 ^ taken.length + natOf taken < 2 ^ 64 ∧
      (left ≠ [] → 2 ^ 60 ≤ s * 10 ^ taken.length + natOf taken) := by
  induction ds generalizing s with
  | nil => exact ⟨[], [], rfl, by simp [absorb, natOf], by simpa [natOf] using hs, nofun⟩
  | cons c ds ih =>
    obtain ⟨hc, hds⟩ := List.forall_mem_cons.1 digits
    have hdigit : digitValue c < 10 := digitValue_lt hc
    by_cases hfits : s * 10 + digitValue c < 0x10000000000000000
    · obtain ⟨taken, left, rfl, habsorb, hlt, hfull⟩ := ih hfits hds
      have hvalue : (s * 10 + digitValue c) * 10 ^ taken.length + natOf taken =
          s * 10 ^ (c :: taken).length + natOf (c :: taken) := by
        rw [← List.singleton_append, natOf_append, natOf_singleton, List.length_append,
          List.length_singleton]
        ring
      rw [hvalue] at habsorb hlt hfull
      refine ⟨c :: taken, left, rfl, ?_, hlt, hfull⟩
      rw [absorb, if_pos hfits, habsorb]
    · refine ⟨[], c :: ds, rfl, ?_, by simpa [natOf] using hs, fun _ => ?_⟩
      · rw [absorb, if_neg hfits]
        simp [natOf]
      · simp only [List.length_nil, Nat.pow_zero, Nat.mul_one]
        omega

namespace Scaled

/-- The number that a significand with a power of ten stands for. -/
def size (v : Scaled) : ℚ :=
  v.significand * 10 ^ v.exponent

lemma withFraction_nil (v : Scaled) : v.withFraction [] = v := by
  obtain ⟨s, e⟩ := v
  simp [withFraction, absorb]

variable {whole places : List Char}

/-- **A significand with its power of ten is hardly greater than the number.** It can be greater if
a digit in front of the point is left over, for the reader still tries the digits behind the point
then. -/
lemma size_le (hwhole : ∀ c ∈ whole, isDigit c = true) (hplaces : ∀ c ∈ places, isDigit c = true) :
    ((ofDigits whole).withFraction places).significand < 2 ^ 64 ∧
    ((ofDigits whole).withFraction places).size * 2 ^ 60 ≤
      natOf (whole ++ places) * 10 ^ (-places.length : ℤ) * (2 ^ 60 + 1) := by
  obtain ⟨w, w', rfl, hw, hlt, hfull⟩ := absorb_cases (s := 0) (by decide) hwhole
  rw [Nat.zero_mul, Nat.zero_add] at hw hlt hfull
  obtain ⟨t, t', rfl, ht, hlt', -⟩ := absorb_cases hlt hplaces
  have hdigits : ∀ c ∈ t, isDigit c = true := fun c hc => hplaces c (List.mem_append_left t' hc)
  set s := natOf w with hs
  set n := natOf (w ++ w' ++ (t ++ t')) with hn
  have hscaled : (ofDigits (w ++ w')).withFraction (t ++ t') =
      ⟨s * 10 ^ t.length + natOf t, w'.length - t.length⟩ := by
    have htaken : (t ++ t').length - t'.length = t.length := by
      rw [List.length_append, Nat.add_sub_cancel]
    simp only [ofDigits, hw, withFraction, ht, htaken]
  have hnumber : n = s * 10 ^ (w'.length + t.length + t'.length) +
      natOf w' * 10 ^ (t.length + t'.length) + natOf t * 10 ^ t'.length + natOf t' := by
    rw [hn, natOf_append, natOf_append, natOf_append, ← hs, List.length_append]
    ring
  have hsignificand : (s * 10 ^ t.length + natOf t) * 10 ^ (w'.length + t'.length) * 2 ^ 60 ≤
      n * (2 ^ 60 + 1) := by
    by_cases hleft : w' = []
    · have hle : (s * 10 ^ t.length + natOf t) * 10 ^ (w'.length + t'.length) ≤ n := by
        rw [hnumber, hleft, List.length_nil, Nat.zero_add, Nat.zero_add]
        calc (s * 10 ^ t.length + natOf t) * 10 ^ t'.length
            = s * 10 ^ (t.length + t'.length) + natOf t * 10 ^ t'.length := by ring
          _ ≤ _ := by omega
      omega
    · -- the digits behind the point stand in the place of those that are left over
      have hlarge := hfull hleft
      set p := 10 ^ (w'.length + t.length + t'.length) with hp
      have hle : (s * 10 ^ t.length + natOf t) * 10 ^ (w'.length + t'.length) ≤ n + p :=
        calc (s * 10 ^ t.length + natOf t) * 10 ^ (w'.length + t'.length)
            ≤ (s * 10 ^ t.length + 10 ^ t.length) * 10 ^ (w'.length + t'.length) :=
              Nat.mul_le_mul_right _ (Nat.add_le_add_left (natOf_lt hdigits).le _)
          _ = s * p + p := by rw [hp]; ring
          _ ≤ n + p := by omega
      have hpower : 2 ^ 60 * p ≤ n := (Nat.mul_le_mul_right p hlarge).trans (by omega)
      omega
  refine ⟨hscaled ▸ hlt', ?_⟩
  have hshift : (10 : ℚ) ^ (w'.length - t.length : ℤ) =
      10 ^ (w'.length + t'.length) * 10 ^ (-(t ++ t').length : ℤ) := by
    rw [← zpow_natCast, ← zpow_add₀ (by norm_num), List.length_append]
    congr 1
    push_cast
    ring
  have hsignificand : ((s * 10 ^ t.length + natOf t : ℕ) * 10 ^ (w'.length + t'.length) * 2 ^ 60 :
      ℚ) ≤ n * (2 ^ 60 + 1) := mod_cast hsignificand
  rw [hscaled, size, hshift]
  calc ((s * 10 ^ t.length + natOf t : ℕ) *
        (10 ^ (w'.length + t'.length) * 10 ^ (-(t ++ t').length : ℤ)) * 2 ^ 60 : ℚ)
      = (s * 10 ^ t.length + natOf t : ℕ) * 10 ^ (w'.length + t'.length) * 2 ^ 60 *
          10 ^ (-(t ++ t').length : ℤ) := by ring
    _ ≤ n * (2 ^ 60 + 1) * 10 ^ (-(t ++ t').length : ℤ) := by gcongr
    _ = n * 10 ^ (-(t ++ t').length : ℤ) * (2 ^ 60 + 1) := by ring

/-! ## Doubles -/

/-- There is a double for every negative power of ten. -/
lemma scale_ne_none {x : Float} {e : ℤ} (he : e < 0) : scale x e ≠ none := by
  induction hn : (-e).toNat using Nat.strongRecOn generalizing x e with
  | ind n ih =>
    rw [scale, if_neg (by omega)]
    split_ifs with hnear hzero
    · exact Option.some_ne_none _
    · exact Option.some_ne_none _
    · have hfar : e + greatestPower < 0 := by omega
      exact ih _ (by simp only [greatestPower] at *; omega) hfar rfl

/-- The doubles end below this power of ten. -/
lemma greatest_lt : ((2 ^ 53 - 8) * 2 ^ 971 : ℚ) < 10 ^ 309 := by
  have h : (2 ^ 53 - 8) * 2 ^ 971 < 10 ^ 309 := by decide +kernel
  calc ((2 ^ 53 - 8) * 2 ^ 971 : ℚ) = ((2 ^ 53 - 8) * 2 ^ 971 : ℕ) := by
        rw [Nat.cast_mul, Nat.cast_pow]
        norm_num
    _ < (10 ^ 309 : ℕ) := Nat.cast_lt.2 h
    _ = 10 ^ 309 := by rw [Nat.cast_pow, Nat.cast_ofNat]

/-- **A significand with a power of ten has a double** that is not infinite, if it is not too
great. -/
lemma toFloat?_ne_none {v : Scaled} (hv : v.significand < 2 ^ 64)
    (small : v.size ≤ (2 ^ 53 - 8) * 2 ^ 971) (negative : Bool) : v.toFloat? negative ≠ none := by
  obtain ⟨s, e⟩ := v
  rw [toFloat?, Ne, Option.map_eq_none_iff]
  dsimp only at hv ⊢
  rcases lt_or_ge e 0 with he | he
  · exact scale_ne_none he
  obtain ⟨n, rfl⟩ := Int.eq_ofNat_of_zero_le he
  by_cases hn : n ≤ greatestPower
  · have hfinite : ((UInt64.ofNat s).toFloat * power n).isInf = false := by
      obtain ⟨m', d', hm', hd', hsize'⟩ := exists_isNormal_power hn
      rcases Nat.eq_zero_or_pos s with rfl | hs
      · exact isInf_zero_mul hm'
      obtain ⟨m, d, hm, hd, hsize⟩ := exists_isNormal_toFloat hs hv
      refine isInf_mul hm hm' (by omega) (by omega) ?_
      rw [size, zpow_natCast] at small
      have hpos : (0 : ℚ) < 2 ^ 971 := by positivity
      generalize (2 : ℚ) ^ 971 = w at small hpos ⊢
      have hfactors : (m * 2 ^ d * 2 ^ 52 * (m' * 2 ^ d' * 2 ^ 52) : ℚ) ≤
          s * (2 ^ 52 + 1) * (10 ^ n * (2 ^ 52 + 1)) :=
        mul_le_mul hsize hsize' (by positivity) (by positivity)
      linarith only [hfactors, small, hpos]
    rw [scale, if_pos he, if_pos (Int.ofNat_le.2 hn), Int.toNat_natCast]
    dsimp only
    rw [hfinite]
    exact Option.some_ne_none _
  · -- only zero has so great a power
    have hs : s = 0 := by
      by_contra hs
      have hone : (1 : ℚ) ≤ s := mod_cast Nat.pos_of_ne_zero hs
      have hpower : (10 : ℚ) ^ 309 ≤ s * 10 ^ n :=
        (pow_le_pow_right₀ (by norm_num) (Nat.lt_of_not_le hn)).trans
          (le_mul_of_one_le_left (by positivity) hone)
      rw [size, zpow_natCast] at small
      exact absurd (hpower.trans small) greatest_lt.not_ge
    have hzero : ((UInt64.ofNat 0).toFloat == 0) = true := by decide +kernel
    rw [scale, if_pos he, if_neg (mt Int.ofNat_le.1 hn), hs, if_pos hzero]
    exact Option.some_ne_none _

end Scaled

/-! ## Verdicts -/

/-- **A number that is in range for the reader**, where it stands alone. -/
def InRange (t : List Char) : Prop :=
  ∀ q, readScalar (.ofText t) ≠ .error (.of .numberOutOfRange q)

/-- What comes of a number: a value, or that there is none in range. -/
def verdict (o : Option Json) (rest : List Char) (q : Position) : Except Fault (Json × Cursor) :=
  match o with
  | some v => .ok (v, ⟨rest, q⟩)
  | none => .error (.of .numberOutOfRange q)

/-- **A reader comes to one verdict on a text**, wherever it stands. -/
def Decides (reader : Cursor → Except Fault (Json × Cursor)) (t : List Char) (o : Option Json) :
    Prop :=
  ∀ {rest : List Char}, Delimits rest → ∀ p, ∃ q, reader ⟨t ++ rest, p⟩ = verdict o rest q

lemma finishFloat_eq (negative : Bool) (v : Scaled) (rest : List Char) (p : Position) :
    finishFloat negative v ⟨rest, p⟩ = verdict ((v.toFloat? negative).map ofFloat) rest p := by
  unfold finishFloat
  cases v.toFloat? negative <;> rfl

/-- What comes of a significand with an exponent. -/
def withExponent (negative : Bool) (v : Scaled) (down : Bool) (ds : List Char) : Option Json :=
  match digitsToExceed exponentBound 0 ds with
  | some _ =>
    if v.significand ≠ 0 ∧ down = false then none
    else some (ofFloat (if negative then -0.0 else 0.0))
  | none =>
    let e : ℤ := Text.natOf ds
    let scaled : Scaled := ⟨v.significand, if down then v.exponent - e else v.exponent + e⟩
    (scaled.toFloat? negative).map ofFloat

/-- The exponent that a text denotes. -/
def exponentOf (t : List Char) : ℤ :=
  (readExponentPart t).1

lemma exponentOf_given {e : Char} {sign ds : List Char} (letter : e ∈ ['e', 'E'])
    (signed : sign ∈ [[], ['+'], ['-']]) (digits : IsDigits ds) :
    exponentOf (e :: (sign ++ ds)) = if sign = ['-'] then -(natOf ds : ℤ) else natOf ds := by
  have he : e = 'e' ∨ e = 'E' := by simpa using letter
  have htake : ds.takeWhile isDigit = ds := List.takeWhile_eq_self_iff.2 digits.2
  have hempty : ds.isEmpty = false := by simpa using digits.1
  obtain ⟨d, ds', rfl, hd⟩ := digits.head
  have hplus : d ≠ '+' := by
    rintro rfl
    cases hd
  have hminus : d ≠ '-' := by
    rintro rfl
    cases hd
  simp only [List.mem_cons, List.not_mem_nil, or_false] at signed
  rcases signed with rfl | rfl | rfl <;>
    simp [exponentOf, readExponentPart, he, htake, hplus, hminus]

/-- What takes a number out of range: a positive exponent that is not added up, or a double that is
infinite. -/
def Overflows (negative : Bool) (v : Scaled) (e : ℤ) : Prop :=
  v.significand ≠ 0 ∧ exponentBound < e ∨
    Scaled.toFloat? ⟨v.significand, v.exponent + e⟩ negative = none

/-- Digits that exceed a bound denote a greater number. -/
lemma lt_of_digitsToExceed {bound n k : ℕ} {ds : List Char}
    (h : digitsToExceed bound n ds = some k) : bound < n * 10 ^ ds.length + natOf ds := by
  induction ds generalizing n k with
  | nil => exact nomatch h
  | cons c ds ih =>
    have hvalue : n * 10 ^ (c :: ds).length + natOf (c :: ds) =
        (n * 10 + digitValue c) * 10 ^ ds.length + natOf ds := by
      rw [← foldl_digits, ← foldl_digits, List.foldl_cons]
    rw [hvalue]
    rw [digitsToExceed] at h
    split at h
    · next hexceeds =>
      have hpos : 0 < 10 ^ ds.length := Nat.pow_pos (by decide)
      exact (hexceeds.trans_le (Nat.le_mul_of_pos_right _ hpos)).trans_le (Nat.le_add_right _ _)
    · obtain ⟨k', hk', -⟩ := Option.map_eq_some_iff.1 h
      exact ih hk'

lemma withExponent_none {negative down : Bool} {v : Scaled} {ds : List Char}
    (h : withExponent negative v down ds = none) :
    Overflows negative v (if down then -(natOf ds : ℤ) else natOf ds) := by
  unfold withExponent at h
  split at h
  · next k hexceeds =>
    have hlt := lt_of_digitsToExceed hexceeds
    rw [Nat.zero_mul, Nat.zero_add] at hlt
    split at h
    · next hcases =>
      refine .inl ⟨hcases.1, ?_⟩
      simp only [hcases.2, Bool.false_eq_true, if_false]
      exact_mod_cast hlt
    · exact nomatch h
  · refine .inr ?_
    have hdouble := Option.map_eq_none_iff.1 h
    cases down <;> exact hdouble

/-- The verdict on a number of which the digits are known is that on its exponent. -/
lemma IsExponent.decides {t : List Char} (h : IsExponent t) (negative : Bool) (v : Scaled) :
    ∃ o, Decides (readExponent negative v) t o ∧
      (o = none → Overflows negative v (exponentOf t)) := by
  cases h with
  | absent =>
    refine ⟨(v.toFloat? negative).map ofFloat, fun {rest} hrest p => ⟨p, ?_⟩, fun h => .inr ?_⟩
    · have hnext : Cursor.nextIs ⟨rest, p⟩ (fun ch => ch = 'e' || ch = 'E') = false :=
        hrest.nextIs rfl p
      rw [List.nil_append, readExponent, hnext, if_neg Bool.false_ne_true, finishFloat_eq]
    · have hzero : v.exponent + exponentOf [] = v.exponent := add_zero v.exponent
      rw [hzero]
      exact Option.map_eq_none_iff.1 h
  | @given e sign ds letter signed digits =>
    have he : (decide (e = 'e') || decide (e = 'E')) = true := by
      simpa using letter
    have hempty : ds.isEmpty = false := by simpa using digits.1
    refine ⟨withExponent negative v (decide (sign = ['-'])) ds, fun {rest} hrest p => ?_,
      fun h => ?_⟩
    · obtain ⟨q, hsign⟩ := exponentSign_append signed digits rest (p.after e)
      simp only [List.cons_append, List.append_assoc, readExponent, Cursor.nextIs_cons, he, if_true,
        Cursor.next_cons, hsign, digits.takeDigits hrest.noDigit, hempty, Bool.false_eq_true,
        if_false]
      unfold withExponent
      cases digitsToExceed exponentBound 0 ds with
      | none => exact ⟨_, finishFloat_eq _ _ _ _⟩
      | some n =>
        dsimp only
        split
        · exact ⟨_, rfl⟩
        · exact ⟨_, rfl⟩
    · rw [exponentOf_given letter signed digits]
      simpa using withExponent_none h

/-- An exponent is seen by its letter. -/
lemma IsExponent.nextIs {t rest : List Char} (h : IsExponent t) (hrest : Delimits rest)
    (p : Position) :
    Cursor.nextIs ⟨t ++ rest, p⟩ (fun ch => ch = 'e' || ch = 'E') = !t.isEmpty := by
  cases h with
  | absent => exact hrest.nextIs rfl p
  | given letter => simpa using letter

/-- The digits of a number are taken as they are, for no zero stands in front of another one. -/
lemma readNumber_append {whole rest : List Char} (digits : IsDigits whole)
    (zero : whole.head? = some '0' → whole = ['0']) (hrest : NoDigit rest) (negative : Bool)
    (p : Position) :
    ∃ q, readNumber negative ⟨whole ++ rest, p⟩ =
      if Cursor.nextIs ⟨rest, q⟩ (· = '.') then
        let digits := Cursor.takeDigits (Cursor.next ⟨rest, q⟩)
        if digits.1.isEmpty then .error (missingDigit (Cursor.next ⟨rest, q⟩))
        else readExponent negative ((Scaled.ofDigits whole).withFraction digits.1) digits.2
      else if (Scaled.ofDigits whole).exponent = 0 &&
          !(Cursor.nextIs ⟨rest, q⟩ fun ch => ch = 'e' || ch = 'E') then
        .ok (ofSigned negative (Scaled.ofDigits whole).significand, ⟨rest, q⟩)
      else readExponent negative (Scaled.ofDigits whole) ⟨rest, q⟩ := by
  refine ⟨p.afterAll whole, ?_⟩
  simp only [readNumber, digits.takeDigits hrest]
  split
  · exact absurd rfl digits.1
  · cases zero rfl
  · rfl

/-- There is one verdict on each number, behind its sign. -/
lemma readNumber_decides {whole fraction exponent : List Char} (digits : IsDigits whole)
    (zero : whole.head? = some '0' → whole = ['0']) (isFraction : IsFraction fraction)
    (isExponent : IsExponent exponent) (negative : Bool) :
    ∃ o, Decides (readNumber negative) (whole ++ (fraction ++ exponent)) o ∧
      (o = none → Overflows negative ((Scaled.ofDigits whole).withFraction (fraction.drop 1))
        (exponentOf exponent)) := by
  cases isFraction with
  | @given fs hfs =>
    obtain ⟨o, ho, hnone⟩ := isExponent.decides negative ((Scaled.ofDigits whole).withFraction fs)
    refine ⟨o, fun {rest} hrest p => ?_, hnone⟩
    obtain ⟨noDigit, -⟩ := isExponent.head hrest
    have hpoint : NoDigit ('.' :: (fs ++ (exponent ++ rest))) := fun ch hch =>
      Option.some.inj hch ▸ rfl
    obtain ⟨q, hq⟩ := readNumber_append digits zero hpoint negative p
    obtain ⟨q', hq'⟩ := ho hrest ((q.after '.').afterAll fs)
    have hempty : fs.isEmpty = false := by simpa using hfs.1
    refine ⟨q', ?_⟩
    simp only [List.append_assoc, List.cons_append, hq, Cursor.nextIs_cons, decide_true, if_true,
      Cursor.next_cons, hfs.takeDigits noDigit, hempty, Bool.false_eq_true, if_false, hq']
  | absent =>
    have hread : ∀ {rest}, Delimits rest → ∀ p, ∃ q,
        readNumber negative ⟨whole ++ ([] ++ exponent) ++ rest, p⟩ =
          if (Scaled.ofDigits whole).exponent = 0 && exponent.isEmpty then
            .ok (ofSigned negative (Scaled.ofDigits whole).significand, ⟨exponent ++ rest, q⟩)
          else readExponent negative (Scaled.ofDigits whole) ⟨exponent ++ rest, q⟩ := by
      intro rest hrest p
      obtain ⟨noDigit, noPoint⟩ := isExponent.head hrest
      obtain ⟨q, hq⟩ := readNumber_append digits zero noDigit negative p
      refine ⟨q, ?_⟩
      simp only [List.append_assoc, List.nil_append, hq, noPoint, isExponent.nextIs hrest,
        Bool.not_not, Bool.false_eq_true, if_false]
    by_cases hint : ((Scaled.ofDigits whole).exponent = 0 && exponent.isEmpty) = true
    · obtain rfl : exponent = [] := by simp_all
      refine ⟨some (ofSigned negative (Scaled.ofDigits whole).significand), fun hrest p => ?_,
        nofun⟩
      obtain ⟨q, hq⟩ := hread hrest p
      exact ⟨q, hq.trans (if_pos hint)⟩
    · obtain ⟨o, ho, hnone⟩ := isExponent.decides negative (Scaled.ofDigits whole)
      refine ⟨o, fun hrest p => ?_, ?_⟩
      · obtain ⟨q, hq⟩ := hread hrest p
        obtain ⟨q', hq'⟩ := ho hrest q
        exact ⟨q', (hq.trans (if_neg hint)).trans hq'⟩
      · rw [List.drop_nil, Scaled.withFraction_nil]
        exact hnone

lemma readScalar_minus (u : List Char) (p : Position) :
    readScalar ⟨'-' :: u, p⟩ = readNumber true ⟨u, p.after '-'⟩ := rfl

/-- What a number looks like behind its sign. -/
def numeral (t : List Char) : Numeral :=
  readDecimal (t.dropWhile (· = '-'))

/-- The significand that the reader makes of the digits of a number. -/
def significandOf (n : Numeral) : Scaled :=
  (Scaled.ofDigits n.whole).withFraction n.places

lemma IsDigits.span {ds rest : List Char} (h : IsDigits ds) (hrest : NoDigit rest) :
    (ds ++ rest).takeWhile isDigit = ds ∧ (ds ++ rest).dropWhile isDigit = rest := by
  have htake := h.takeDigits hrest .start
  simp only [Cursor.takeDigits, Prod.mk.injEq, Cursor.mk.injEq] at htake
  exact ⟨htake.1, htake.2.1⟩

lemma numeral_append {sign whole fraction exponent : List Char} (signed : sign ∈ [[], ['-']])
    (digits : IsDigits whole) (isFraction : IsFraction fraction)
    (isExponent : IsExponent exponent) :
    (numeral (sign ++ (whole ++ (fraction ++ exponent)))).whole = whole ∧
      (numeral (sign ++ (whole ++ (fraction ++ exponent)))).places = fraction.drop 1 ∧
      (numeral (sign ++ (whole ++ (fraction ++ exponent)))).exponent = exponentOf exponent := by
  have hsign : (sign ++ (whole ++ (fraction ++ exponent))).dropWhile (· = '-') =
      whole ++ (fraction ++ exponent) := by
    obtain ⟨d, ds, rfl, hd⟩ := digits.head
    have hminus : d ≠ '-' := by
      rintro rfl
      cases hd
    simp only [List.mem_cons, List.not_mem_nil, or_false] at signed
    rcases signed with rfl | rfl <;> simp [hminus]
  obtain ⟨noDigit, noPoint⟩ := isExponent.head (.of_stops stops_nil)
  rw [List.append_nil] at noDigit noPoint
  rw [numeral, hsign]
  cases isFraction with
  | @given fs hfs =>
    have hpoint : NoDigit ('.' :: (fs ++ exponent)) := fun ch hch => Option.some.inj hch ▸ rfl
    obtain ⟨htake, hdrop⟩ := digits.span hpoint
    obtain ⟨htake', hdrop'⟩ := hfs.span noDigit
    simp [readDecimal, exponentOf, htake, hdrop, htake', hdrop']
  | absent =>
    obtain ⟨htake, hdrop⟩ := digits.span noDigit
    cases exponent with
    | nil =>
      rw [List.append_nil] at htake hdrop
      simp [readDecimal, exponentOf, htake, hdrop]
    | cons e t =>
      have hpoint : e ≠ '.' := by simpa using noPoint .start
      simp [readDecimal, exponentOf, htake, hdrop, hpoint]

/-- There is one verdict on each number. -/
lemma IsNumber.decides {t : List Char} (h : IsNumber t) :
    ∃ o, Decides readScalar t o ∧ (o = none → ∃ negative,
      Overflows negative (significandOf (numeral t)) (numeral t).exponent) := by
  obtain ⟨signed, digits, zero, isFraction, isExponent⟩ := h
  obtain ⟨hwhole, hplaces, hexponent⟩ := numeral_append signed digits isFraction isExponent
  simp only [List.mem_cons, List.not_mem_nil, or_false] at signed
  rw [significandOf, hwhole, hplaces, hexponent]
  rcases signed with rfl | rfl
  · obtain ⟨o, ho, hnone⟩ := readNumber_decides digits zero isFraction isExponent false
    obtain ⟨d, ds, rfl, hd⟩ := digits.head
    refine ⟨o, fun hrest p => ?_, fun h => ⟨false, hnone h⟩⟩
    obtain ⟨q, hq⟩ := ho hrest p
    obtain ⟨-, -, -, -, hread⟩ := readScalar_digit hd (ds ++ (_ ++ _) ++ _) p
    exact ⟨q, hread.trans hq⟩
  · obtain ⟨o, ho, hnone⟩ := readNumber_decides digits zero isFraction isExponent true
    refine ⟨o, fun hrest p => ?_, fun h => ⟨true, hnone h⟩⟩
    obtain ⟨q, hq⟩ := ho hrest (p.after '-')
    exact ⟨q, (readScalar_minus _ p).trans hq⟩

/-- **A number is read if it is in range**, which it is everywhere if it is where it stands
alone. -/
lemma IsNumber.readScalar {t : List Char} (h : IsNumber t) (inRange : InRange t)
    {rest : List Char} (hrest : Delimits rest) (p : Position) :
    ∃ v q, Json.readScalar ⟨t ++ rest, p⟩ = .ok (v, ⟨rest, q⟩) := by
  obtain ⟨o, ho, -⟩ := h.decides
  cases o with
  | some v =>
    obtain ⟨q, hq⟩ := ho hrest p
    exact ⟨v, q, hq⟩
  | none =>
    obtain ⟨q, hq⟩ := ho (.of_stops stops_nil) .start
    rw [List.append_nil] at hq
    exact absurd hq (inRange q)

/-! ## Magnitudes -/

/-- How great a number is. -/
def magnitude (t : List Char) : ℚ :=
  natOf ((numeral t).whole ++ (numeral t).places) *
    10 ^ ((numeral t).exponent - (numeral t).places.length)

/-- Decimal digits are as great as the number that they denote. -/
lemma magnitude_digitsOf (n : ℕ) : magnitude (Notation.digitsOf n) = n := by
  have unsigned : [] ∈ [[], ['-']] := List.mem_cons_self
  obtain ⟨hwhole, hplaces, hexponent⟩ :=
    numeral_append unsigned (Notation.isDigits_digitsOf n) .absent .absent
  have htext : [] ++ (Notation.digitsOf n ++ ([] ++ [])) = Notation.digitsOf n := by simp
  have hzero : exponentOf [] = 0 := rfl
  rw [htext] at hwhole hplaces hexponent
  rw [magnitude, hwhole, hplaces, hexponent, hzero, List.drop_nil, List.append_nil, natOf_digitsOf]
  simp

/-- The digits of a number are digits, and there are fewer of them than characters. -/
lemma IsNumber.digits {t : List Char} (h : IsNumber t) :
    (∀ c ∈ (numeral t).whole, isDigit c = true) ∧ (∀ c ∈ (numeral t).places, isDigit c = true) ∧
      (numeral t).places.length ≤ t.length := by
  obtain ⟨signed, digits, -, isFraction, isExponent⟩ := h
  obtain ⟨hwhole, hplaces, -⟩ := numeral_append signed digits isFraction isExponent
  rw [hwhole, hplaces]
  refine ⟨digits.2, ?_, by simp only [List.length_append, List.length_drop]; omega⟩
  cases isFraction with
  | absent => exact List.forall_mem_nil _
  | given hfs => exact hfs.2

/-- **What is not too great does not overflow.** -/
lemma not_overflows {n : Numeral} (hwhole : ∀ c ∈ n.whole, isDigit c = true)
    (hplaces : ∀ c ∈ n.places, isDigit c = true)
    (small : (natOf (n.whole ++ n.places) * 10 ^ (n.exponent - n.places.length) : ℚ) ≤
      (2 ^ 53 - 16) * 2 ^ 971)
    (short : n.places.length + 308 ≤ exponentBound) (negative : Bool) :
    ¬ Overflows negative (significandOf n) n.exponent := by
  obtain ⟨hlt, hsize⟩ := Scaled.size_le hwhole hplaces
  rw [← significandOf] at hlt hsize
  generalize significandOf n = v at hlt hsize
  have hten : (10 : ℚ) ≠ 0 := by norm_num
  have hpos : (0 : ℚ) < 2 ^ 971 := by positivity
  rintro (⟨hne, hexponent⟩ | hnone)
  · have hnumber : (1 : ℚ) ≤ natOf (n.whole ++ n.places) := by
      by_contra! hzero
      have hzero : natOf (n.whole ++ n.places) = 0 := Nat.lt_one_iff.1 (mod_cast hzero)
      have hsignificand : (0 : ℚ) < v.significand :=
        mod_cast Nat.pos_of_ne_zero hne
      have hsize' : 0 < v.size := mul_pos hsignificand (zpow_pos (by norm_num) _)
      rw [hzero, Nat.cast_zero, zero_mul, zero_mul] at hsize
      linarith only [hsize, hsize']
    have hpower : (10 : ℚ) ^ (309 : ℤ) ≤ 10 ^ (n.exponent - n.places.length) :=
      zpow_le_zpow_right₀ (by norm_num) (by omega)
    have hgreat : (10 : ℚ) ^ 309 ≤ (2 ^ 53 - 16) * 2 ^ 971 := by
      refine le_trans ?_ small
      rw [zpow_ofNat] at hpower
      exact hpower.trans (le_mul_of_one_le_left (zpow_nonneg (by norm_num) _) hnumber)
    have hlimit := Scaled.greatest_lt
    generalize (10 : ℚ) ^ 309 = p at hgreat hlimit
    generalize (2 : ℚ) ^ 971 = w at hgreat hlimit hpos
    linarith only [hgreat, hlimit, hpos]
  · refine Scaled.toFloat?_ne_none (v := ⟨v.significand, v.exponent + n.exponent⟩) hlt ?_ negative
      hnone
    have hpower : (0 : ℚ) < 10 ^ n.exponent := zpow_pos (by norm_num) _
    have hscaled : v.size * 10 ^ n.exponent * 2 ^ 60 ≤
        (2 ^ 53 - 16) * 2 ^ 971 * (2 ^ 60 + 1) :=
      calc (v.size * 10 ^ n.exponent * 2 ^ 60 : ℚ)
          = v.size * 2 ^ 60 * 10 ^ n.exponent := by ring
        _ ≤ natOf (n.whole ++ n.places) * 10 ^ (-n.places.length : ℤ) * (2 ^ 60 + 1) *
            10 ^ n.exponent := by gcongr
        _ = natOf (n.whole ++ n.places) * 10 ^ (n.exponent - n.places.length) * (2 ^ 60 + 1) := by
          rw [sub_eq_add_neg, zpow_add₀ hten]
          ring
        _ ≤ (2 ^ 53 - 16) * 2 ^ 971 * (2 ^ 60 + 1) := by gcongr
    rw [Scaled.size, zpow_add₀ hten, ← mul_assoc]
    rw [Scaled.size] at hscaled
    generalize (2 : ℚ) ^ 971 = w at hscaled hpos ⊢
    linarith only [hscaled, hpos]

/-- **A number that is not too great is in range.** It may not be too long either, for an exponent
of more than thirty-one bits is not added up. -/
theorem IsNumber.inRange {t : List Char} (h : IsNumber t)
    (small : magnitude t ≤ (2 ^ 53 - 16) * 2 ^ 971) (short : t.length + 308 ≤ exponentBound) :
    InRange t := by
  intro q hq
  obtain ⟨o, ho, hnone⟩ := h.decides
  obtain ⟨q', hq'⟩ := ho (.of_stops stops_nil) .start
  rw [List.append_nil] at hq'
  cases o with
  | some v => exact nomatch hq'.symm.trans hq
  | none =>
    obtain ⟨negative, overflow⟩ := hnone rfl
    obtain ⟨hwhole, hplaces, hlength⟩ := h.digits
    exact not_overflows hwhole hplaces small (by omega) negative overflow

end Json

end ScriptStage
