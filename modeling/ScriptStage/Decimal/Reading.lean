import ScriptStage.Decimal.Notation
import ScriptStage.Text.Digits

/-!
# Reading decimals

## Main definitions

* `ScriptStage.Decimal.nearest`: the double nearest to `mantissa · 10 ^ exponent`.
* `ScriptStage.Decimal.readDecimal`: a decimal with a point and an exponent at the start of a
  text.
-/

set_option autoImplicit false

namespace ScriptStage.Decimal

open Text

/-- The decimal exponent from which on every number is infinite. -/
def leadLimit : Int := 310

/-- The decimal exponent below which every number is zero. -/
def leadFloor : Int := -330

/-- The double nearest to `mantissa · 10 ^ exponent`. -/
def nearest (mantissa : Nat) (exponent : Int) : Float :=
  let lead : Int := (Notation.digitsOf mantissa).length + exponent
  if mantissa = 0 ∨ lead < leadFloor then 0
  else if leadLimit < lead then 1 / 0
  else if 0 ≤ exponent then Float.ofScientific mantissa false exponent.toNat
  else Float.ofScientific mantissa true (-exponent).toNat

/-- The exponent at the start of a text, with the mark `e` or `E`; zero and the whole text if
there is none. -/
def readExponentPart (t : List Char) : Int × List Char :=
  match t with
  | c :: rest =>
    if c = 'e' ∨ c = 'E' then
      let (negative, ds) :=
        match rest with
        | s :: more =>
          if s = '-' then (true, more) else if s = '+' then (false, more) else (false, rest)
        | [] => (false, rest)
      let digits := ds.takeWhile isDigit
      if digits.isEmpty then (0, t)
      else
        let n : Int := natOf digits
        (if negative then -n else n, ds.dropWhile isDigit)
    else (0, t)
  | [] => (0, t)

/-- What a decimal at the start of a text looks like. -/
structure Numeral where
  /-- The digits before the point. -/
  whole : List Char
  /-- Whether there is a point. -/
  hasPoint : Bool
  /-- The digits behind the point. -/
  places : List Char
  /-- The exponent. -/
  exponent : Int
  /-- Whether there is an exponent. -/
  hasExponent : Bool
  /-- What follows the decimal. -/
  rest : List Char

/-- The decimal at the start of a text. -/
def readDecimal (t : List Char) : Numeral :=
  let whole := t.takeWhile isDigit
  let (hasPoint, behind) :=
    match t.dropWhile isDigit with
    | c :: more => if c = '.' then (true, more) else (false, c :: more)
    | [] => (false, [])
  let places := if hasPoint then behind.takeWhile isDigit else []
  let behind := if hasPoint then behind.dropWhile isDigit else behind
  let (exponent, rest) := readExponentPart behind
  ⟨whole, hasPoint, places, exponent, rest.length < behind.length, rest⟩

/-- The double nearest to a decimal. -/
def Numeral.value (d : Numeral) : Float :=
  nearest (natOf (d.whole ++ d.places)) (d.exponent - d.places.length)

end ScriptStage.Decimal
