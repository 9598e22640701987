import ScriptStage.Json.Printer
import ScriptStage.Text.Digits

/-!
# Typed property values

A value that looks like a boolean, an integer or a decimal is taken as one; every other value is
a string.

## Main definitions

* `ScriptStage.Properties.integer?`: the integer that a text is the canonical form of.
* `ScriptStage.Properties.decimal?`: the double that a text with a point denotes.
* `ScriptStage.Properties.infer`: the value of a text.
-/

set_option autoImplicit false

namespace ScriptStage.Properties

open Text

/-- A minus sign in front of a text, and what follows. -/
def splitSign (t : List Char) : Bool × List Char :=
  match t with
  | [] => (false, [])
  | c :: rest => if c = '-' then (true, rest) else (false, c :: rest)

/-- The integers of 64 bits with a sign. -/
def isWord (n : Int) : Bool :=
  -0x8000000000000000 ≤ n && n < 0x8000000000000000

/-- The integer of 64 bits that the text is the canonical form of. -/
def integer? (t : List Char) : Option Int :=
  let (negative, ds) := splitSign t
  if !ds.isEmpty && ds.all isDigit then
    let n : Int := if negative then -(natOf ds : Int) else natOf ds
    if isWord n && Json.writeInt n == t then some n else none
  else none

/-- The finite double that a text denotes: digits with one point among them, not at either end,
and perhaps a minus sign in front. -/
def decimal? (t : List Char) : Option Float :=
  if t.head? = some '.' || t.getLast? = some '.' then none
  else
    let (negative, ds) := splitSign t
    let whole := ds.takeWhile isDigit
    match ds.dropWhile isDigit with
    | [] => none
    | point :: places =>
      if point = '.' && places.all isDigit then
        let x := Float.ofScientific (natOf (whole ++ places)) true places.length
        if x.isFinite then some (if negative then -x else x) else none
      else none

/-- The value of a text: a boolean, a number or else the text as a string. -/
def infer (t : List Char) : Json :=
  if t = Json.writeBool true then .bool true
  else if t = Json.writeBool false then .bool false
  else
    match integer? t with
    | some n => .ofInt n
    | none =>
      match decimal? t with
      | some x => .ofFloat x
      | none => .str (String.ofList t)

end ScriptStage.Properties
