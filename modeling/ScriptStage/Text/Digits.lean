/-!
# Digits

The digits of ASCII. In a base above ten the letters of either case stand for the values from ten
on.

## Main definitions

* `ScriptStage.Text.isDigit`: a decimal digit; `digitValue` is its value.
* `ScriptStage.Text.natOf`: the number that decimal digits denote.
* `ScriptStage.Text.digitIn?`: the value of a digit in a base.
* `ScriptStage.Text.natIn?`: the number that digits in a base denote.
-/

set_option autoImplicit false

namespace ScriptStage.Text

/-- A decimal digit. -/
def isDigit (c : Char) : Bool :=
  '0' ≤ c && c ≤ '9'

/-- The value of a decimal digit. -/
def digitValue (c : Char) : Nat :=
  c.toNat - '0'.toNat

/-- The number that decimal digits denote. -/
def natOf (ds : List Char) : Nat :=
  ds.foldl (fun n c => n * 10 + digitValue c) 0

/-- The value of a digit in a base up to 36. -/
def digitIn? (base : Nat) (c : Char) : Option Nat :=
  let n :=
    if isDigit c then digitValue c
    else if 'a' ≤ c ∧ c ≤ 'z' then c.toNat - 'a'.toNat + 10
    else if 'A' ≤ c ∧ c ≤ 'Z' then c.toNat - 'A'.toNat + 10
    else base
  if n < base then some n else none

/-- The number that digits in a base denote, if there are some and nothing else. -/
def natIn? (base : Nat) (ds : List Char) : Option Nat :=
  if ds.isEmpty then none
  else ds.foldlM (fun n c => (digitIn? base c).map (n * base + ·)) 0

end ScriptStage.Text
