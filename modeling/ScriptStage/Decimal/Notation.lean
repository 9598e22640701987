import ScriptStage.Decimal.Shortest

/-!
# Notations for floating-point values

How the digits of a value are laid out is a record of decisions. Each format of the library that
writes such values has one record, defined where the format is.

## Main definitions

* `ScriptStage.Decimal.Notation`: the decisions.
* `ScriptStage.Decimal.Notation.render`: the text of a double.
-/

set_option autoImplicit false

namespace ScriptStage.Decimal

/-- The decisions of a format on the layout of floating-point values. -/
structure Notation where
  /-- The least decimal exponent of the first digit that is written positionally. -/
  plainFrom : Int
  /-- The least larger exponent that is not. -/
  plainBelow : Int
  /-- Whether integral values keep `.0` in positional notation. -/
  pointZero : Bool
  /-- Whether a positive exponent has a plus sign. -/
  exponentPlus : Bool
  /-- The least number of digits of an exponent. -/
  exponentWidth : Nat
  /-- Which of two equally near digit sequences is taken. -/
  tie : Tie
  /-- Whether minus zero keeps its sign. -/
  signedZero : Bool
  /-- The text of NaN. -/
  nan : String
  /-- The text of plus infinity. -/
  infinity : String

namespace Notation

/-- The decimal digits of a natural number. -/
def digitsOf (n : Nat) : List Char :=
  Nat.toDigits 10 n

/-- Zeros in front of a text up to a width. -/
def padZeros (width : Nat) (t : List Char) : List Char :=
  List.replicate (width - t.length) '0' ++ t

/-- The exponent part, as in `e+16`. -/
def exponentPart (f : Notation) (e : Int) : List Char :=
  let sign := if e < 0 then ['-'] else if f.exponentPlus then ['+'] else []
  'e' :: sign ++ padZeros f.exponentWidth (digitsOf e.natAbs)

/-- Lays out digits that have no trailing zero. -/
def layout (f : Notation) (d : Digits) : List Char :=
  let ds := digitsOf d.digits
  let n : Int := ds.length
  let lead := n + d.exponent - 1
  if f.plainFrom ≤ lead ∧ lead < f.plainBelow then
    if 0 ≤ d.exponent then
      ds ++ List.replicate d.exponent.toNat '0' ++ (if f.pointZero then ['.', '0'] else [])
    else if 0 ≤ lead then
      let whole := (lead + 1).toNat
      ds.take whole ++ '.' :: ds.drop whole
    else
      '0' :: '.' :: List.replicate (-lead - 1).toNat '0' ++ ds
  else
    match ds with
    | [c] => c :: f.exponentPart lead
    | c :: cs => c :: '.' :: cs ++ f.exponentPart lead
    | [] => []

/-- The text of a double. -/
def render (f : Notation) (x : Float) : List Char :=
  if x.isNaN then f.nan.toList
  else
    let d := Dyadic.ofFloat x
    let sign := if d.negative && (f.signedZero || d.mantissa != 0) then ['-'] else []
    if x.isInf then sign ++ f.infinity.toList
    else sign ++ f.layout (d.shortest f.tie)

end Notation

end ScriptStage.Decimal
