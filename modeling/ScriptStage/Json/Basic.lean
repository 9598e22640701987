import ScriptStage.Decimal.Dyadic
import ScriptStage.Dict

/-!
# JSON values

Integers and floating-point numbers are different values: `1` and `1.0` differ. An integer fits
into 64 bits, signed or unsigned, and a floating-point number is finite, by the type. The fields
of an object are kept in ascending order of keys, as `Dict.put` leaves them.

## Main definitions

* `ScriptStage.Json`: the values; `ScriptStage.Json.Number`: their numbers.
* `ScriptStage.Json.ofInt`, `ofFloat`: the number that stands for an integer, a double.
* `ScriptStage.Json.Canonical`: every object in a value has ascending keys.
* `ScriptStage.Json.depth`: how deep arrays and objects nest.
* `ScriptStage.Json.ofResult`, `normalize`: doubles without a fraction become integers.
-/

set_option autoImplicit false

namespace ScriptStage

/-- The integers that JSON numbers keep exactly: those of 64 bits, signed or unsigned. -/
def Json.Fits (n : Int) : Prop :=
  -0x8000000000000000 ≤ n ∧ n < 0x10000000000000000

instance (n : Int) : Decidable (Json.Fits n) :=
  inferInstanceAs (Decidable (_ ∧ _))

/-- A number: an integer of 64 bits or a finite double. -/
inductive Json.Number where
  /-- An integer. -/
  | int (n : Int) (fits : Json.Fits n)
  /-- A finite double. -/
  | float (x : Float) (finite : x.isFinite = true)
  deriving DecidableEq

/-- A JSON value. -/
inductive Json where
  /-- The value `null`. -/
  | null
  /-- A boolean. -/
  | bool (b : Bool)
  /-- A number. -/
  | num (n : Json.Number)
  /-- A string. -/
  | str (s : String)
  /-- An array. -/
  | arr (items : List Json)
  /-- An object, with its fields in ascending order of keys. -/
  | obj (fields : List (String × Json))

namespace Json

instance : Inhabited Json := ⟨null⟩

/-- The double as a number, and null for a value that is not finite. -/
def ofFloat (x : Float) : Json :=
  if h : x.isFinite = true then num (.float x h) else null

/-- The integer as a number, and the nearest double when 64 bits do not hold it. -/
def ofInt (n : Int) : Json :=
  if h : Fits n then num (.int n h) else ofFloat (Float.ofInt n)

/-- The natural number as a number. -/
def ofNat (n : Nat) : Json :=
  ofInt n

/-- The object of a dictionary. -/
def ofDict (d : Dict Json) : Json :=
  obj d.entries

/-- The string or null. -/
def ofString? : Option String → Json
  | some s => str s
  | none => null

mutual

/-- Every object in the value has its keys in strictly ascending order. -/
def Canonical : Json → Prop
  | arr items => CanonicalItems items
  | obj fields => (fields.Pairwise fun a b => a.1 < b.1) ∧ CanonicalFields fields
  | _ => True

/-- Every value of the list is canonical. -/
def CanonicalItems : List Json → Prop
  | [] => True
  | v :: vs => Canonical v ∧ CanonicalItems vs

/-- Every value of the fields is canonical. -/
def CanonicalFields : List (String × Json) → Prop
  | [] => True
  | (_, v) :: fs => Canonical v ∧ CanonicalFields fs

end

mutual

/-- How deep arrays and objects nest: zero for a scalar. -/
def depth : Json → Nat
  | arr items => depthItems items + 1
  | obj fields => depthFields fields + 1
  | _ => 0

/-- The greatest depth in a list. -/
def depthItems : List Json → Nat
  | [] => 0
  | v :: vs => max (depth v) (depthItems vs)

/-- The greatest depth in fields. -/
def depthFields : List (String × Json) → Nat
  | [] => 0
  | (_, v) :: fs => max (depth v) (depthFields fs)

end

/-- The bound on the integers that a double without a fraction is turned into. -/
def exactBound : Nat := 0x20000000000000

/-- The value of a numeric result: null if it is not finite, the integer if it has no fraction
and is below `2 ^ 53` in magnitude, else the double. -/
def ofResult (x : Float) : Json :=
  if x.isFinite then
    match (Decimal.Dyadic.ofFloat x).toInt? with
    | some n => if n.natAbs < exactBound then ofInt n else ofFloat x
    | none => ofFloat x
  else null

mutual

/-- Replaces each double in a value by the value of that numeric result. -/
def normalize : Json → Json
  | num (.float x _) => ofResult x
  | arr items => arr (normalizeItems items)
  | obj fields => obj (normalizeFields fields)
  | v => v

/-- Normalizes the items of an array. -/
def normalizeItems : List Json → List Json
  | [] => []
  | v :: vs => normalize v :: normalizeItems vs

/-- Normalizes the values of fields. -/
def normalizeFields : List (String × Json) → List (String × Json)
  | [] => []
  | (k, v) :: fs => (k, normalize v) :: normalizeFields fs

end

/-- The value is the boolean `true`. -/
def isTrue : Json → Bool
  | bool b => b
  | _ => false

end Json

end ScriptStage
