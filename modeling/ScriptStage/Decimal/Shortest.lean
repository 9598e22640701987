import ScriptStage.Decimal.Dyadic

/-!
# The fewest decimal digits that read back to a value

The reals that round to a double form an interval around it: from halfway to the value below to
halfway to the value above, ends included exactly when the mantissa is even. The shortest
decimal of a value is the coarsest grid point `d · 10 ^ e` in that interval, and of two such
points on one grid the nearer. All comparisons are of natural numbers.

## Main definitions

* `ScriptStage.Decimal.Digits`: the number `digits · 10 ^ exponent`.
* `ScriptStage.Decimal.Dyadic.readsBack`: membership in the interval.
* `ScriptStage.Decimal.Dyadic.shortest`: the selection.

## Main results

* `ScriptStage.Decimal.Dyadic.readsBack_of_onGrid`: a grid point is chosen only if it reads back.
-/

set_option autoImplicit false

namespace ScriptStage.Decimal

/-- The number `digits · 10 ^ exponent`. -/
structure Digits where
  /-- The decimal digits as a natural number. -/
  digits : Nat
  /-- The power of ten. -/
  exponent : Int
  deriving DecidableEq, Repr

/-- Which of two equally near candidates is taken. -/
inductive Tie where
  /-- The one whose last digit is even. -/
  | toEven
  /-- The larger one. -/
  | awayFromZero
  deriving DecidableEq, Repr

/-- Compares `a · 10 ^ i` with `b · 2 ^ j`. -/
def compareScaled (a : Nat) (i : Int) (b : Nat) (j : Int) : Ordering :=
  compare (a * Nat.pow 10 i.toNat * Nat.pow 2 (-j).toNat)
    (b * Nat.pow 2 j.toNat * Nat.pow 10 (-i).toNat)

namespace Dyadic

/-- Whether the gap to the double below is half the gap to the double above: so at a power of
two that is not the least of its kind. -/
def narrowBelow (x : Dyadic) : Bool :=
  x.mantissa == 0x10000000000000 && decide (-1074 < x.exponent)

/-- The decimal `d` lies among the reals that round to the absolute value of `x`, to nearest and
ties to even. -/
def readsBack (x : Dyadic) (d : Digits) : Bool :=
  let low := compareScaled d.digits d.exponent
    (if x.narrowBelow then 4 * x.mantissa - 1 else 4 * x.mantissa - 2) (x.exponent - 2)
  let high := compareScaled d.digits d.exponent (4 * x.mantissa + 2) (x.exponent - 2)
  let closed := x.mantissa % 2 == 0
  (low == .gt || closed && low == .eq) && (high == .lt || closed && high == .eq)

/-- The number of decimal digits of a natural number; one for zero. -/
def digitCount (n : Nat) : Nat :=
  (Nat.toDigits 10 n).length

/-- The least `k` with absolute value below `10 ^ k`, for a value other than zero. -/
def magnitude (x : Dyadic) : Int :=
  let (num, den) := x.ratio
  if den ≤ num then digitCount (num / den)
  else
    let c := digitCount (den / num) - 1
    if num * Nat.pow 10 c = den then 1 - (c : Int) else -(c : Int)

/-- The grid point of spacing `10 ^ e` that reads back to `x` and is nearest to it, if there is
one. Only the two neighbours of `x` on the grid can be it. -/
def onGrid (x : Dyadic) (tie : Tie) (e : Int) : Option Digits :=
  let (num, den) := x.ratio
  let num := num * Nat.pow 10 (-e).toNat
  let den := den * Nat.pow 10 e.toNat
  let below := num / den
  let lower : Digits := ⟨below, e⟩
  let upper : Digits := ⟨below + 1, e⟩
  match x.readsBack lower, x.readsBack upper with
  | false, false => none
  | true, false => some lower
  | false, true => some upper
  | true, true =>
    match compare (2 * (num % den)) den with
    | .lt => some lower
    | .gt => some upper
    | .eq =>
      match tie with
      | .toEven => some (if below % 2 = 0 then lower else upper)
      | .awayFromZero => some upper

/-- A grid point is chosen only if it reads back. -/
theorem readsBack_of_onGrid {x : Dyadic} {tie : Tie} {e : Int} {d : Digits}
    (h : x.onGrid tie e = some d) : x.readsBack d = true := by
  simp only [onGrid] at h
  split at h
  · exact nomatch h
  · next hl _ => cases h; exact hl
  · next _ hu => cases h; exact hu
  · next hl hu =>
    split at h
    · cases h; exact hl
    · cases h; exact hu
    · split at h
      · split at h <;> cases h
        · exact hl
        · exact hu
      · cases h; exact hu

/-- Removes trailing zeros from the digits, at most `fuel` of them. -/
def stripZeros : Nat → Digits → Digits
  | 0, d => d
  | fuel + 1, d =>
    if d.digits % 10 = 0 ∧ d.digits ≠ 0 then stripZeros fuel ⟨d.digits / 10, d.exponent + 1⟩
    else d

/-- All digits of the value, for the case that no short decimal reads back. -/
def exactDigits (x : Dyadic) : Digits :=
  let k := (-x.exponent).toNat
  ⟨x.mantissa * Nat.pow 2 x.exponent.toNat * Nat.pow 5 k, -(k : Int)⟩

/-- The fewest digits that read back to the absolute value of `x`, nearest to it. Zero has the
digit zero. -/
def shortest (x : Dyadic) (tie : Tie) : Digits :=
  if x.mantissa = 0 then ⟨0, 0⟩
  else
    let k := x.magnitude
    let found := (List.range 17).findSome? fun (n : Nat) => x.onGrid tie (k - 1 - n)
    stripZeros 400 (found.getD x.exactDigits)

end Dyadic

end ScriptStage.Decimal
