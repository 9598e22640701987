import ScriptStage.Json.Fault
import ScriptStage.Text.Digits

/-!
# Reading numbers

A number without point and exponent is an integer if 64 bits hold it. Every other number becomes
a double: the leading digits that 64 bits hold form a significand, which is then multiplied or
divided by a power of ten. So the double is not always the nearest one.

## Main definitions

* `ScriptStage.Json.Scaled`: a significand with a power of ten; `Scaled.toFloat?` its double.
* `ScriptStage.Json.absorb`: digits appended to a significand while 64 bits hold it.
* `ScriptStage.Json.readNumber`: the number at a cursor, behind its sign.
* `ScriptStage.Json.ignoreNumber`: the cursor behind a number whose value does not matter.
-/

set_option autoImplicit false

namespace ScriptStage.Json

/-- The digits at a cursor and the cursor behind them. -/
def Cursor.takeDigits (c : Cursor) : List Char × Cursor :=
  let ds := c.rest.takeWhile Text.isDigit
  (ds, ⟨c.rest.dropWhile Text.isDigit, c.pos.afterAll ds⟩)

/-- Appends digits to a significand while 64 bits hold it; the second component is the digits
left over. -/
def absorb (significand : Nat) : List Char → Nat × List Char
  | [] => (significand, [])
  | c :: cs =>
    let longer := significand * 10 + Text.digitValue c
    if longer < 0x10000000000000000 then absorb longer cs else (significand, c :: cs)

/-- The number `significand · 10 ^ exponent`. -/
structure Scaled where
  /-- The significand, below `2 ^ 64`. -/
  significand : Nat
  /-- The power of ten. -/
  exponent : Int

namespace Scaled

/-- The digits of an integral part. Those that the significand does not hold count as zeros. -/
def ofDigits (ds : List Char) : Scaled :=
  let (significand, left) := absorb 0 ds
  ⟨significand, left.length⟩

/-- Appends the digits behind a point. Those that the significand does not hold are dropped. -/
def withFraction (v : Scaled) (ds : List Char) : Scaled :=
  let (significand, left) := absorb v.significand ds
  ⟨significand, v.exponent - ((ds.length - left.length : Nat) : Int)⟩

/-- The greatest power of ten among the doubles. -/
def greatestPower : Nat := 308

/-- The double of a power of ten. -/
def power (n : Nat) : Float :=
  Float.ofScientific 1 false n

/-- Multiplies or divides by a power of ten; no result if it would be infinite. -/
def scale (x : Float) (e : Int) : Option Float :=
  if 0 ≤ e then
    if e ≤ greatestPower then
      let y := x * power e.toNat
      if y.isInf then none else some y
    else if x == 0 then some x else none
  else if -greatestPower ≤ e then some (x / power (-e).toNat)
  else if x == 0 then some x
  else scale (x / power greatestPower) (e + greatestPower)
termination_by (-e).toNat
decreasing_by simp only [greatestPower] at *; omega

/-- The double, with the given sign; none if it would be infinite. -/
def toFloat? (v : Scaled) (negative : Bool) : Option Float :=
  (scale (UInt64.ofNat v.significand).toFloat v.exponent).map fun x => if negative then -x else x

end Scaled

/-- The greatest exponent that is added up; longer ones stand for infinity or zero. -/
def exponentBound : Nat := 0x7FFFFFFF

/-- How many of the digits it takes to exceed the bound, if they do. -/
def digitsToExceed (bound : Nat) (n : Nat) : List Char → Option Nat
  | [] => none
  | c :: cs =>
    let longer := n * 10 + Text.digitValue c
    if bound < longer then some 1 else (digitsToExceed bound longer cs).map (· + 1)

/-- The double of a scaled significand, or the fault that it is too large. -/
def finishFloat (negative : Bool) (v : Scaled) (c : Cursor) : Except Fault (Json × Cursor) :=
  match v.toFloat? negative with
  | some x => .ok (ofFloat x, c)
  | none => .error (.of .numberOutOfRange c.pos)

/-- The cursor behind the sign of an exponent, and whether the sign is minus. -/
def Cursor.exponentSign (c : Cursor) : Bool × Cursor :=
  match c.rest with
  | '+' :: _ => (false, c.next)
  | '-' :: _ => (true, c.next)
  | _ => (false, c)

/-- The fault of a number that goes on with no digit. -/
def missingDigit (c : Cursor) : Fault :=
  .of (if c.rest.isEmpty then .endInValue else .invalidNumber) c.look

/-- The double of a significand and the exponent that may follow it. -/
def readExponent (negative : Bool) (v : Scaled) (c : Cursor) : Except Fault (Json × Cursor) :=
  if c.nextIs fun ch => ch = 'e' || ch = 'E' then
    let (down, c₁) := c.next.exponentSign
    let (ds, c₂) := c₁.takeDigits
    if ds.isEmpty then .error (missingDigit c₁)
    else
      match digitsToExceed exponentBound 0 ds with
      | some n =>
        if v.significand ≠ 0 ∧ down = false then
          .error (.of .numberOutOfRange (c₁.pos.afterAll (ds.take n)))
        else .ok (ofFloat (if negative then -0.0 else 0.0), c₂)
      | none =>
        let e : Int := Text.natOf ds
        finishFloat negative ⟨v.significand, if down then v.exponent - e else v.exponent + e⟩ c₂
  else finishFloat negative v c

/-- An integer, with minus zero and what 64 bits do not hold as a double. -/
def ofSigned (negative : Bool) (n : Nat) : Json :=
  if negative then
    if n = 0 then ofFloat (-0.0)
    else if n ≤ 0x8000000000000000 then ofInt (-n)
    else ofFloat (-(UInt64.ofNat n).toFloat)
  else ofInt n

/-- The number at a cursor, behind its sign. -/
def readNumber (negative : Bool) (c : Cursor) : Except Fault (Json × Cursor) :=
  let (ds, c₁) := c.takeDigits
  match ds with
  | [] => .error (missingDigit c)
  | '0' :: _ :: _ => .error (.of .invalidNumber c.next.look)
  | _ =>
    let v := Scaled.ofDigits ds
    if c₁.nextIs (· = '.') then
      let (fs, c₂) := c₁.next.takeDigits
      if fs.isEmpty then .error (missingDigit c₁.next)
      else readExponent negative (v.withFraction fs) c₂
    else if v.exponent = 0 && !(c₁.nextIs fun ch => ch = 'e' || ch = 'E') then
      .ok (ofSigned negative v.significand, c₁)
    else readExponent negative v c₁

/-- The cursor behind an exponent, if there is one, whatever its value. -/
def ignoreExponent (c : Cursor) : Except Fault Cursor :=
  if c.nextIs fun ch => ch = 'e' || ch = 'E' then
    let (_, c₁) := c.next.exponentSign
    let (ds, c₂) := c₁.takeDigits
    if ds.isEmpty then .error (.of .invalidNumber c₁.look) else .ok c₂
  else .ok c

/-- The cursor behind a number, whatever its value; the cursor stands behind the sign. -/
def ignoreNumber (c : Cursor) : Except Fault Cursor :=
  let (ds, c₁) := c.takeDigits
  match ds with
  | [] => .error (.of .invalidNumber c.look)
  | '0' :: _ :: _ => .error (.of .invalidNumber c.next.look)
  | _ =>
    if c₁.nextIs (· = '.') then
      let (fs, c₂) := c₁.next.takeDigits
      if fs.isEmpty then .error (.of .invalidNumber c₁.next.look) else ignoreExponent c₂
    else ignoreExponent c₁

end ScriptStage.Json
