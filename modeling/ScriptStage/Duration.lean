import ScriptStage.Decimal.Notation

/-!
# Lengths of time

Times are counted in nanoseconds and written in the largest unit that they fill.

## Main definitions

* `ScriptStage.Duration`: a length of time; `Duration.describe` is its text.
-/

set_option autoImplicit false

namespace ScriptStage

/-- A length of time. -/
structure Duration where
  /-- The number of nanoseconds. -/
  nanos : Nat
  deriving DecidableEq, Repr

namespace Duration

instance : LE Duration := ⟨fun a b => a.nanos ≤ b.nanos⟩

instance (a b : Duration) : Decidable (a ≤ b) :=
  inferInstanceAs (Decidable (a.nanos ≤ b.nanos))

/-- No time. -/
def zero : Duration := ⟨0⟩

/-- A number of milliseconds. -/
def ofMillis (n : Nat) : Duration := ⟨n * 1000000⟩

/-- A number of microseconds. -/
def ofMicros (n : Nat) : Duration := ⟨n * 1000⟩

/-- The places behind the point, for a rest that is below `10 ^ places`; none for zero. -/
def fraction (places rest : Nat) : List Char :=
  if rest = 0 then []
  else
    let ds := Decimal.Notation.padZeros places (Decimal.Notation.digitsOf rest)
    '.' :: (ds.reverse.dropWhile (· = '0')).reverse

/-- A number of units with a rest that is below `10 ^ places`. -/
def inUnit (whole places rest : Nat) (unit : String) : String :=
  String.ofList (Decimal.Notation.digitsOf whole ++ fraction places rest) ++ unit

/-- The text of a length of time. -/
def describe (d : Duration) : String :=
  if 1000000000 ≤ d.nanos then inUnit (d.nanos / 1000000000) 9 (d.nanos % 1000000000) "s"
  else if 1000000 ≤ d.nanos then inUnit (d.nanos / 1000000) 6 (d.nanos % 1000000) "ms"
  else if 1000 ≤ d.nanos then inUnit (d.nanos / 1000) 3 (d.nanos % 1000) "µs"
  else inUnit d.nanos 0 0 "ns"

end Duration

end ScriptStage
