import ScriptStage.Decimal.Reading
import ScriptStage.Engine.Conventions
import ScriptStage.Engine.PythonValue
import ScriptStage.Text.Blank
import ScriptStage.Text.Search

/-!
# Operators of Python

## Main definitions

* `ScriptStage.Python.quotient`: the double nearest to a quotient of integers.
* `ScriptStage.Python.applyUnary`, `applyBinary`, `applyUpdate`, `compareValues`: operators.
* `ScriptStage.Python.elements`: the items that a loop runs over.
* `ScriptStage.Python.readItem`, `writeItem`, `removeItem`: items.
-/

set_option autoImplicit false

namespace ScriptStage.Python

/-- The double nearest to the quotient of natural numbers: the quotient is computed to at least 66
bits, and the last bit tells of a remainder. -/
def quotientOfNats (a b : Nat) : Float :=
  let shift : Int := 66 + b.log2 - a.log2
  let num := a * Nat.pow 2 shift.toNat
  let den := b * Nat.pow 2 (-shift).toNat
  let q := num / den
  Decimal.Dyadic.toFloat ⟨false, 2 * q + (if num % den = 0 then 0 else 1), -shift - 1⟩

/-- The double nearest to a quotient of integers. -/
def quotient (a b : Int) : Float :=
  if a = 0 then 0
  else
    let x := quotientOfNats a.natAbs b.natAbs
    if (a < 0) = (b < 0) then x else -x

/-- The double nearest to an integer. -/
def floatOfInt (n : Int) : Eval Float := do
  let x := Float.ofInt n
  if x.isFinite then return x
  else Eval.fail .overflowError "int too large to convert to float"

/-- The remainder of doubles with the sign of the divisor. -/
def floatMod (x y : Float) : Float :=
  let r := Decimal.remainder x y
  if r == 0 then (if y < 0 then -0.0 else 0)
  else if (r < 0) == (y < 0) then r
  else r + y

/-- The quotient of doubles rounded down. -/
def floatFloorDiv (x y : Float) : Float :=
  let d := (x - floatMod x y) / y
  let f := d.floor
  if d - f > 0.5 then f + 1 else f

/-- A power of doubles. -/
def floatPow (x y : Float) : Eval Value := do
  if x == 0 && y < 0 then Eval.fail .zeroDivisionError "zero to a negative power"
  else if x < 0 && y.isFinite && x.isFinite && y.floor != y then
    Eval.fail .typeError "complex numbers are not supported"
  else
    let z := Float.pow x y
    if z.isInf && x.isFinite && y.isFinite then
      Eval.fail .overflowError "(34, 'Numerical result out of range')"
    else return .float (if x == 1 || y == 0 then 1 else z)

/-- The values are of no use to an operator. -/
def unsupported {α : Type} (op : String) (a b : Value) : Eval α := do
  let w ← get
  Eval.fail .typeError
    ("unsupported operand type(s) for " ++ op ++ ": '" ++ w.typeName a ++ "' and '" ++ w.typeName b
      ++ "'")

/-- An operator on two integers. -/
def onIntegers (op : BinaryOp) (x y : Int) : Eval Value := do
  match op with
  | .add => return .int (x + y)
  | .sub => return .int (x - y)
  | .mul => return .int (x * y)
  | .div =>
    if y = 0 then Eval.fail .zeroDivisionError "division by zero"
    else
      let z := quotient x y
      if z.isFinite then return .float z
      else Eval.fail .overflowError "integer division result too large for a float"
  | .floorDiv =>
    if y = 0 then Eval.fail .zeroDivisionError "integer division or modulo by zero"
    else return .int (x.fdiv y)
  | .mod =>
    if y = 0 then Eval.fail .zeroDivisionError "integer modulo by zero"
    else return .int (x.fmod y)
  | .pow =>
    if y < 0 then floatPow (← floatOfInt x) (← floatOfInt y)
    else return .int (Int.pow x y.toNat)
  | .bitAnd => return .int (bits (· && ·) x y)
  | .bitOr => return .int (bits (· || ·) x y)
  | .bitXor => return .int (bits (· != ·) x y)
  | .shiftLeft =>
    if y < 0 then Eval.fail .valueError "negative shift count"
    else return .int (x * Nat.pow 2 y.toNat)
  | .shiftRight =>
    if y < 0 then Eval.fail .valueError "negative shift count"
    else return .int (x / Nat.pow 2 y.toNat)
where
  /-- The integer whose bits are joined, in two's complement of enough bits for both. -/
  bits (f : Bool → Bool → Bool) (x y : Int) : Int :=
    let width := max x.natAbs.log2 y.natAbs.log2 + 2
    let a := (x % Nat.pow 2 width).toNat
    let b := (y % Nat.pow 2 width).toNat
    let n := (List.range width).foldl
      (fun n i => if f (a.testBit i) (b.testBit i) then n + Nat.pow 2 i else n) 0
    Int.bmod n (Nat.pow 2 width)

/-- An operator on two doubles. -/
def onFloats (op : BinaryOp) (x y : Float) : Eval Value := do
  match op with
  | .add => return .float (x + y)
  | .sub => return .float (x - y)
  | .mul => return .float (x * y)
  | .div =>
    if y == 0 then Eval.fail .zeroDivisionError "float division by zero"
    else return .float (x / y)
  | .floorDiv =>
    if y == 0 then Eval.fail .zeroDivisionError "float floor division by zero"
    else return .float (floatFloorDiv x y)
  | .mod =>
    if y == 0 then Eval.fail .zeroDivisionError "float modulo"
    else return .float (floatMod x y)
  | .pow => floatPow x y
  | _ => unsupported op.text (.float x) (.float y)

/-- A sequence repeated. -/
def times {α : Type} (items : List α) (n : Int) : List α :=
  (List.replicate n.toNat items).flatten

/-- The number of a value, for a mixed operator. -/
def mixed (v : Value) : Eval Float := do
  match v with
  | .float x => return x
  | v => floatOfInt (v.int?.getD 0)

/-- Refuses to join a value to a sequence of another type. -/
def refuseJoin {α : Type} (a b : Value) : Eval α := do
  let w ← get
  Eval.fail .typeError
    ("can only concatenate " ++ w.typeName a ++ " (not \"" ++ w.typeName b ++ "\") to "
      ++ w.typeName a)

/-- Refuses to repeat a sequence. -/
def refuseTimes {α : Type} (n : Value) : Eval α := do
  Eval.fail .typeError
    ("can't multiply sequence by non-int of type '" ++ (← get).typeName n ++ "'")

/-- An operator on two values; `sign` is how it was written. -/
def applyWritten (sign : String) (op : BinaryOp) (a b : Value) : Eval Value := do
  let w ← get
  let listOf (v : Value) : Option (List Value) :=
    match v with
    | .object place =>
      match w.objects.getD place default with
      | .list items => some items
      | _ => none
    | _ => none
  match a.int?, b.int? with
  | some x, some y => onIntegers op x y
  | _, _ =>
    match a.float?, b.float? with
    | some _, some _ => onFloats op (← mixed a) (← mixed b)
    | _, _ =>
      match op, a, b, listOf a, listOf b with
      | .add, .str s, .str t, _, _ => return .str (s ++ t)
      | .add, .tuple xs, .tuple ys, _, _ => return .tuple (xs ++ ys)
      | .add, _, _, some xs, some ys => Eval.make (.list (xs ++ ys))
      | .add, .str _, _, _, _ | .add, .tuple _, _, _, _ | .add, _, _, some _, _ => refuseJoin a b
      | .mul, .str s, n, _, _ | .mul, n, .str s, _, _ =>
        match n.int? with
        | some n => return .str (String.ofList (times s.toList n))
        | none => refuseTimes n
      | .mul, .tuple xs, n, _, _ | .mul, n, .tuple xs, _, _ =>
        match n.int? with
        | some n => return .tuple (times xs n)
        | none => refuseTimes n
      | .mul, _, n, some xs, none | .mul, n, _, none, some xs =>
        match n.int? with
        | some n => Eval.make (.list (times xs n))
        | none => refuseTimes n
      | _, _, _, _, _ => unsupported sign a b

/-- An operator on two values. -/
def applyBinary (op : BinaryOp) (a b : Value) : Eval Value :=
  applyWritten op.text op a b

/-- An operator on a value. -/
def applyUnary (op : UnaryOp) (v : Value) : Eval Value := do
  let w ← get
  match op, v.int?, v with
  | .not, _, _ => return .bool (!w.truthy v)
  | .neg, some n, _ => return .int (-n)
  | .plus, some n, _ => return .int n
  | .invert, some n, _ => return .int (-n - 1)
  | .neg, none, .float x => return .float (-x)
  | .plus, none, .float x => return .float x
  | _, _, _ =>
    Eval.fail .typeError
      ("bad operand type for unary " ++ op.text ++ ": '" ++ w.typeName v ++ "'")

/-- The items that a loop over a value runs over. -/
def elements? (w : World) : Value → Option (List Value)
  | .str s => some (s.toList.map fun c => .str (String.singleton c))
  | .tuple items | .view _ items => some items
  | .range a b c =>
    let n := if 0 < c then (b - a + c - 1) / c else (a - b - c - 1) / (-c)
    some ((List.range n.toNat).map fun (i : Nat) => .int (a + c * i))
  | .object place =>
    match w.objects.getD place default with
    | .list items | .set items => some items
    | .dict entries => some (entries.map (·.1))
    | .function _ _ _ _ => none
  | _ => none

/-- The items that a loop over a value runs over. -/
def elements (v : Value) : Eval (List Value) := do
  let w ← get
  match elements? w v with
  | some items => return items
  | none => Eval.fail .typeError ("'" ++ w.typeName v ++ "' object is not iterable")

/-- The value of a target after an operator. A list to which items are added stays the object that
it is. -/
def applyUpdate (op : BinaryOp) (old v : Value) : Eval Value := do
  match op, old with
  | .add, .object place =>
    match ← Eval.object place with
    | .list items =>
      Eval.put place (.list (items ++ (← elements v)))
      return old
    | _ => applyWritten op.updateText op old v
  | _, _ => applyWritten op.updateText op old v

/-- How two numbers are ordered, if they are. -/
def orderNumbers (a b : Value) : Option Ordering :=
  match a.int?, b.int?, a.float?, b.float? with
  | some x, some y, _, _ => some (compare x y)
  | _, _, some x, some y =>
    if x < y then some .lt else if x > y then some .gt else if x == y then some .eq else none
  | _, _, _, _ => none

/-- Compares values by their order. The fuel bounds how deep they nest. -/
def orderAt (w : World) : Nat → Value → Value → Option (Option Ordering)
  | 0, _, _ => none
  | fuel + 1, a, b =>
    let rec items : List Value → List Value → Option (Option Ordering)
      | [], [] => some (some .eq)
      | [], _ :: _ => some (some .lt)
      | _ :: _, [] => some (some .gt)
      | x :: xs, y :: ys => if w.same x y then items xs ys else orderAt w fuel x y
    match a, b with
    | .str s, .str t => some (some (compare s t))
    | .tuple xs, .tuple ys => items xs ys
    | .object i, .object j =>
      match w.objects.getD i default, w.objects.getD j default with
      | .list xs, .list ys => items xs ys
      | _, _ => none
    | a, b =>
      if a.float?.isSome && b.float?.isSome then some (orderNumbers a b) else none

/-- How two values are ordered, given the text of the comparison; no order if they are not
comparable numbers. -/
def order (op : String) (a b : Value) : Eval (Option Ordering) := do
  let w ← get
  match orderAt w World.nesting a b with
  | some o => return o
  | none =>
    Eval.fail .typeError
      ("'" ++ op ++ "' not supported between instances of '" ++ w.typeName a ++ "' and '"
        ++ w.typeName b ++ "'")

/-- A value belongs to another. -/
def contains (whole part : Value) : Eval Bool := do
  let w ← get
  match whole, part with
  | .str s, .str t => return (Text.find? t.toList s.toList).isSome
  | .str _, _ => Eval.fail .typeError "'in <string>' requires string as left operand"
  | v, x =>
    match elements? w v with
    | some items => return items.any (w.same x)
    | none => Eval.fail .typeError ("argument of type '" ++ w.typeName v ++ "' is not iterable")

/-- The values are one. -/
def identical : Value → Value → Bool
  | .bool _, .int _ | .int _, .bool _ | .float _, .int _ | .int _, .float _ | .bool _, .float _
  | .float _, .bool _ => false
  | a, b => a.sameKey b

/-- A comparison of two values. -/
def compareValues (op : Comparison) (a b : Value) : Eval Bool := do
  let w ← get
  match op with
  | .eq => return w.same a b
  | .ne => return !w.same a b
  | .lt => return (← order "<" a b) == some .lt
  | .gt => return (← order ">" a b) == some .gt
  | .le =>
    let o ← order "<=" a b
    return o == some .lt || o == some .eq
  | .ge =>
    let o ← order ">=" a b
    return o == some .gt || o == some .eq
  | .isIn => contains b a
  | .notIn => return !(← contains b a)
  | .same => return identical a b
  | .notSame => return !identical a b

/-- Refuses a value that cannot be a key. -/
def checkKey (v : Value) : Eval Unit := do
  let w ← get
  if unhashable w World.nesting v then
    Eval.fail .typeError ("unhashable type: '" ++ w.typeName v ++ "'")
where
  /-- The value cannot be a key. -/
  unhashable (w : World) : Nat → Value → Bool
    | 0, _ => true
    | fuel + 1, .tuple items => items.any (unhashable w fuel)
    | _, .object place =>
      match w.objects.getD place default with
      | .function _ _ _ _ => false
      | _ => true
    | _, _ => false

/-- Entries with one written over that with its key, or behind all others. -/
def writeEntry (k v : Value) : List (Value × Value) → List (Value × Value)
  | [] => [(k, v)]
  | e :: rest => if e.1.sameKey k then (e.1, v) :: rest else e :: writeEntry k v rest

/-- The part of a list between bounds, each counted from the end if it is negative. -/
def part {α : Type} (items : List α) (start stop : Option Int) : List α :=
  let clamp (n : Int) : Nat :=
    if n < 0 then (items.length + n).toNat else min n.toNat items.length
  let a := (start.map clamp).getD 0
  let b := (stop.map clamp).getD items.length
  (items.take b).drop a

/-- The types that count the items of a sequence. -/
def countingTypes (what : String) : String :=
  if what = "string" then "integers" else "integers or slices"

/-- Refuses a key that does not count items. The name of its type stands in quotes for strings. -/
def refuseKey {α : Type} (what : String) (key : Value) : Eval α := do
  let type := (← get).typeName key
  Eval.fail .typeError
    (what ++ " indices must be " ++ countingTypes what ++ ", not "
      ++ if what = "string" then "'" ++ type ++ "'" else type)

/-- The item of a list. -/
def itemAt {α : Type} (what : String) (items : List α) (key : Value) : Eval α := do
  match key.int? with
  | some n =>
    match (Engine.placeIn? items.length n).bind fun k => items[k]? with
    | some x => return x
    | none => Eval.fail .indexError (what ++ " index out of range")
  | none => refuseKey what key

/-- The item of a value at a key. -/
def readItem (v key : Value) : Eval Value := do
  let w ← get
  match v with
  | .str s => return .str (String.singleton (← itemAt "string" s.toList key))
  | .tuple items => itemAt "tuple" items key
  | .object place =>
    match w.objects.getD place default with
    | .list items => itemAt "list" items key
    | .dict entries =>
      checkKey key
      match entries.find? fun e => e.1.sameKey key with
      | some e => return e.2
      | none => throw ⟨.keyError, [key]⟩
    | _ => Eval.fail .typeError ("'" ++ w.typeName v ++ "' object is not subscriptable")
  | _ => Eval.fail .typeError ("'" ++ w.typeName v ++ "' object is not subscriptable")

/-- The part of a value between bounds. -/
def readPart (v : Value) (start stop : Option Int) : Eval Value := do
  let w ← get
  match v with
  | .str s => return .str (String.ofList (part s.toList start stop))
  | .tuple items => return .tuple (part items start stop)
  | .object place =>
    match w.objects.getD place default with
    | .list items => Eval.make (.list (part items start stop))
    | _ => Eval.fail .typeError ("'" ++ w.typeName v ++ "' object is not subscriptable")
  | _ => Eval.fail .typeError ("'" ++ w.typeName v ++ "' object is not subscriptable")

/-- Writes the item of a value at a key. -/
def writeItem (v key x : Value) : Eval Unit := do
  let w ← get
  let refuse : Eval Unit :=
    Eval.fail .typeError ("'" ++ w.typeName v ++ "' object does not support item assignment")
  match v with
  | .object place =>
    match w.objects.getD place default with
    | .list items =>
      match key.int? with
      | some n =>
        match Engine.placeIn? items.length n with
        | some k => Eval.put place (.list (items.set k x))
        | none => Eval.fail .indexError "list assignment index out of range"
      | none => refuseKey "list" key
    | .dict entries =>
      checkKey key
      Eval.put place (.dict (writeEntry key x entries))
    | _ => refuse
  | _ => refuse

/-- Removes the item of a value at a key. -/
def removeItem (v key : Value) : Eval Unit := do
  let w ← get
  let refuse : Eval Unit :=
    Eval.fail .typeError ("'" ++ w.typeName v ++ "' object does not support item deletion")
  match v with
  | .object place =>
    match w.objects.getD place default with
    | .list items =>
      match key.int?.bind (Engine.placeIn? items.length) with
      | some k => Eval.put place (.list (items.eraseIdx k))
      | none => Eval.fail .indexError "list assignment index out of range"
    | .dict entries =>
      if entries.any fun e => e.1.sameKey key then
        Eval.put place (.dict (entries.filter fun e => !e.1.sameKey key))
      else throw ⟨.keyError, [key]⟩
    | _ => refuse
  | _ => refuse

end ScriptStage.Python
