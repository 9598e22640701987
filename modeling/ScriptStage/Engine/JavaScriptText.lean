import ScriptStage.Decimal.Reading
import ScriptStage.Text.Blank
import ScriptStage.Text.Units

/-!
# Strings and numbers of JavaScript

A string is a sequence of 16-bit units. A character beyond the basic plane takes two of them, and
a unit of such a pair may also stand alone.

## Main definitions

* `ScriptStage.JavaScript.Units`: strings; `Units.ofString` and `Units.toText` convert them.
* `ScriptStage.JavaScript.number`: how numbers are written.
* `ScriptStage.JavaScript.numberOfUnits`: the number that a string denotes.
-/

set_option autoImplicit false

namespace ScriptStage.JavaScript

/-- A sequence of 16-bit units. -/
abbrev Units := List UInt16

namespace Units

/-- The units of a character. -/
def ofChar (c : Char) : Units :=
  (Text.unitsOf c).map UInt16.ofNat

/-- The units of a string. -/
def ofString (s : String) : Units :=
  s.toList.flatMap ofChar

/-- The four upper-case hexadecimal digits of a unit. -/
def hexDigits (u : UInt16) : List Char :=
  let ds := (Nat.toDigits 16 u.toNat).map Char.toUpper
  List.replicate (4 - ds.length) '0' ++ ds

/-- The unit is the first of a pair. -/
def isHigh (u : UInt16) : Bool :=
  Text.isHighUnit u.toNat

/-- The unit is the second of a pair. -/
def isLow (u : UInt16) : Bool :=
  Text.isLowUnit u.toNat

/-- The character of a pair. -/
def joinPair (high low : UInt16) : Char :=
  Text.joinPair high.toNat low.toNat

/-- The text of a unit outside of a pair; half a pair is written as an escape. -/
def showUnit (u : UInt16) : List Char :=
  if isHigh u || isLow u then '\\' :: 'u' :: hexDigits u else [Char.ofNat u.toNat]

/-- The characters of a string; half a pair is written as an escape. -/
def showChars : Units → List Char
  | [] => []
  | [u] => showUnit u
  | u :: v :: rest =>
    if isHigh u && isLow v then joinPair u v :: showChars rest
    else showUnit u ++ showChars (v :: rest)

/-- The text of a string; half a pair is written as an escape. -/
def toText (u : Units) : String :=
  String.ofList (showChars u)

/-- The units, compared one by one. -/
def less : Units → Units → Bool
  | _, [] => false
  | [], _ :: _ => true
  | a :: as, b :: bs => if a < b then true else if b < a then false else less as bs

/-- The string with each character replaced by characters; half a pair stays. -/
def mapChars (f : Char → List Char) : Units → Units
  | [] => []
  | [u] => mapUnit u
  | u :: v :: rest =>
    if isHigh u && isLow v then (f (joinPair u v)).flatMap ofChar ++ mapChars f rest
    else mapUnit u ++ mapChars f (v :: rest)
where
  /-- The replacement of a unit outside of a pair. -/
  mapUnit (u : UInt16) : Units :=
    if isHigh u || isLow u then [u] else (f (Char.ofNat u.toNat)).flatMap ofChar

end Units

/-- Numbers are written positionally for decimal exponents from -6 to 20. -/
def number : Decimal.Notation where
  plainFrom := -6
  plainBelow := 21
  pointZero := false
  exponentPlus := true
  exponentWidth := 1
  tie := .toEven
  signedZero := false
  nan := "NaN"
  infinity := "Infinity"

/-- The text of a number. -/
def unitsOfNumber (x : Float) : Units :=
  Units.ofString (String.ofList (number.render x))

/-- A blank of the language. -/
def isBlank (c : Char) : Bool :=
  (Text.isBlank c && c ≠ '\u0085') || c = '\uFEFF'

/-- The number that a text of digits, point and exponent denotes. -/
def decimalOf (t : List Char) : Float :=
  let d := Decimal.readDecimal t
  if d.rest.isEmpty && !(d.whole.isEmpty && d.places.isEmpty) then d.value else 0 / 0

/-- The number that a text behind a sign denotes: a decimal, or infinity in letters of any case. -/
def unsignedOf (t : List Char) : Float :=
  let name := t.map Char.toLower
  if name = "inf".toList ∨ name = "infinity".toList then 1 / 0 else decimalOf t

/-- The base that a mark in front of digits stands for. -/
def baseOfMark? (c : Char) : Option Nat :=
  if c = 'x' ∨ c = 'X' then some 16
  else if c = 'o' ∨ c = 'O' then some 8
  else if c = 'b' ∨ c = 'B' then some 2
  else none

/-- The number of digits in a base. Each digit is added to the number of those before it, and the
sum is rounded. -/
def sumOfDigits? (base : Nat) (ds : List Char) : Option Float :=
  ds.foldlM (fun x c => (Text.digitIn? base c).map fun n => x * Float.ofNat base + Float.ofNat n) 0

/-- The number that a text behind the mark of a base denotes. A plus sign may stand in front of the
digits of a number of 32 bits. -/
def basedOf (base : Nat) (t : List Char) : Float :=
  match t with
  | [] => 0 / 0
  | '+' :: ds =>
    match Text.natIn? base ds with
    | some n => if n < 0x100000000 then Float.ofNat n else 0 / 0
    | none => 0 / 0
  | ds => (sumOfDigits? base ds).getD (0 / 0)

/-- The number that a text denotes: zero if it is blank, NaN if it denotes none. Without a sign
infinity has one spelling. -/
def numberOfChars (t : List Char) : Float :=
  let t := Text.dropEndWhile isBlank (t.dropWhile isBlank)
  match t with
  | [] => 0
  | '-' :: rest => -unsignedOf rest
  | '+' :: rest => unsignedOf rest
  | '0' :: m :: rest =>
    match baseOfMark? m with
    | some base => basedOf base rest
    | none => decimalOf t
  | _ => if t = "Infinity".toList then 1 / 0 else decimalOf t

/-- The number that a string denotes. -/
def numberOfUnits (u : Units) : Float :=
  numberOfChars (Units.showChars u)

end ScriptStage.JavaScript
