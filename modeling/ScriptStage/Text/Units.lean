/-!
# Units of 16 bits

A character beyond the basic plane is written as two units: one from the high range and one from
the low range behind it.

## Main definitions

* `ScriptStage.Text.unitsOf`: the units of a character; `units` those of a string.
* `ScriptStage.Text.isHighUnit`, `isLowUnit`: the two ranges.
* `ScriptStage.Text.joinPair`: the character of a pair.
-/

set_option autoImplicit false

namespace ScriptStage.Text

/-- The units of a character. -/
def unitsOf (c : Char) : List Nat :=
  let n := c.toNat
  if n < 0x10000 then [n]
  else [0xD800 + (n - 0x10000) / 0x400, 0xDC00 + (n - 0x10000) % 0x400]

/-- The units of a string. -/
def units (s : String) : List UInt16 :=
  s.toList.flatMap fun c => (unitsOf c).map UInt16.ofNat

/-- The unit is the first of a pair. -/
def isHighUnit (n : Nat) : Bool :=
  0xD800 ≤ n && n < 0xDC00

/-- The unit is the second of a pair. -/
def isLowUnit (n : Nat) : Bool :=
  0xDC00 ≤ n && n < 0xE000

/-- The character of a pair. -/
def joinPair (high low : Nat) : Char :=
  Char.ofNat ((high - 0xD800) * 0x400 + (low - 0xDC00) + 0x10000)

end ScriptStage.Text
