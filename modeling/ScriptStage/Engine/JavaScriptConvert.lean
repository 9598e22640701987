import ScriptStage.Engine.JavaScriptWorld

/-!
# Conversions and operators of JavaScript

Conversions of objects may call functions of the program. What calls them is a parameter here.

## Main definitions

* `ScriptStage.JavaScript.Caller`: what calls functions.
* `ScriptStage.JavaScript.property`, `setProperty`: properties of values.
* `ScriptStage.JavaScript.toPrimitive`, `toUnits`, `toNumber`: conversions.
* `ScriptStage.JavaScript.applyUnary`, `applyBinary`: operators.
-/

set_option autoImplicit false

namespace ScriptStage.JavaScript

/-- What calls a function, with the object of the call and its arguments. -/
abbrev Caller := Value → Value → List Value → Eval Value

/-- The names of the functions of arrays. -/
def arrayFns : List (String × ArrayFn) :=
  [ ("concat", .concat), ("every", .every), ("filter", .filter), ("find", .find),
    ("forEach", .forEach), ("includes", .includes), ("indexOf", .indexOf), ("join", .join),
    ("map", .map), ("pop", .pop), ("push", .push), ("reduce", .reduce), ("reverse", .reverse),
    ("shift", .shift), ("slice", .slice), ("some", .some), ("sort", .sort) ]

/-- The names of the functions of strings. -/
def stringFns : List (String × StringFn) :=
  [ ("charAt", .charAt), ("charCodeAt", .charCodeAt), ("concat", .concat), ("endsWith", .endsWith),
    ("includes", .includes), ("indexOf", .indexOf), ("repeat", .repeat), ("slice", .slice),
    ("split", .split), ("startsWith", .startsWith), ("substring", .substring),
    ("toLowerCase", .toLowerCase), ("toUpperCase", .toUpperCase), ("trim", .trim) ]

/-- The functions that every value has. -/
def commonFns : List (String × Builtin) :=
  [("toString", .toText), ("valueOf", .valueOf), ("hasOwnProperty", .hasOwn)]

/-- The entry of a table at a key given by units. -/
def valueAt? {α : Type} (table : List (String × α)) (key : Units) : Option α :=
  (table.find? fun p => Units.ofString p.1 == key).map (·.2)

/-- The place of an item that a key names. -/
def index? (key : Units) : Option Nat :=
  let ds := Units.showChars key
  if ds.isEmpty || !ds.all Text.isDigit || (1 < ds.length && ds.head? == some '0') then none
  else
    let n := Text.natOf ds
    if n < 0xFFFFFFFF then some n else none

/-- The key of the length. -/
def lengthKey : Units := Units.ofString "length"

/-- The text of a natural number. -/
def unitsOfNat (n : Nat) : Units :=
  Units.ofString (String.ofList (Decimal.Notation.digitsOf n))

/-- The function that a value has under a name because of its kind. -/
def inherited? (v : Value) (body : Body) (key : Units) : Option Value :=
  let own : Option Builtin :=
    match v, body with
    | .str _, _ => (valueAt? stringFns key).map .onString
    | .object _, .array _ => (valueAt? arrayFns key).map .onArray
    | _, _ => none
  (own.orElse fun _ => valueAt? commonFns key).map .builtin

/-- A property of a value. -/
def property (call : Caller) (v : Value) (key : Units) : Eval Value := do
  match v with
  | .undefined | .null =>
    Eval.fail .typeError "cannot convert 'null' or 'undefined' to object"
  | .str u =>
    if key == lengthKey then return .num (Float.ofNat u.length)
    else
      match (index? key).bind fun i => u[i]? with
      | some c => return .str [c]
      | none => return (inherited? v .plain key).getD .undefined
  | .object place =>
    let o ← Eval.object place
    let item : Option Value :=
      match o.body with
      | .array items =>
        if key == lengthKey then some (.num (Float.ofNat items.size))
        else (index? key).bind fun i => (items[i]?).join
      | .error kind =>
        if key == Units.ofString "name" then some (.ofString kind.name) else none
      | .function f _ _ =>
        let (.mk name params _ _) := f
        if key == lengthKey then some (.num (Float.ofNat params.length))
        else if key == Units.ofString "name" then some (.ofString name)
        else none
      | .plain | .named _ => none
    match item, o.slot? key with
    | some x, _ => return x
    | none, some (.value x) => return x
    | none, some (.accessor (some getter) _) => call getter v []
    | none, some (.accessor none _) => return .undefined
    | none, none =>
      let message := if let .error _ := o.body then key == Units.ofString "message" else false
      return if message then .str [] else (inherited? v o.body key).getD .undefined
  | .builtin .object =>
    return ((valueAt? [("keys", Builtin.keys), ("values", Builtin.values)] key).map .builtin).getD
      ((inherited? v .plain key).getD .undefined)
  | .builtin .array =>
    return ((valueAt? [("isArray", Builtin.isArray)] key).map .builtin).getD
      ((inherited? v .plain key).getD .undefined)
  | _ => return (inherited? v .plain key).getD .undefined

/-- Writes a property of a value. -/
def setProperty (call : Caller) (v : Value) (key : Units) (x : Value) : Eval Unit := do
  match v with
  | .undefined | .null =>
    Eval.fail .typeError "cannot convert 'null' or 'undefined' to object"
  | .object place =>
    let o ← Eval.object place
    match o.body, index? key, o.slot? key with
    | .array items, some i, _ =>
      if i < items.size then
        Eval.change place fun o =>
          match o.body with
          | .array items => { o with body := .array (items.setIfInBounds i (some x)) }
          | _ => o
      else if i < limits.items then
        Eval.change place fun o =>
          { o with body := .array ((items ++ Array.replicate (i - items.size) none).push (some x)) }
      else throw (.limit "RuntimeLimit: Maximum array length exceeded")
    | .array items, none, none =>
      if key == lengthKey then
        match x with
        | .num n =>
          match (Decimal.Dyadic.ofFloat n).toInt? with
          | some (.ofNat k) =>
            if n.isFinite && k < limits.items then
              let grown := items ++ Array.replicate (k - items.size) none
              Eval.change place fun o => { o with body := .array (grown.extract 0 k) }
            else Eval.fail .rangeError "invalid array length"
          | _ => Eval.fail .rangeError "invalid array length"
        | _ => Eval.fail .rangeError "invalid array length"
      else Eval.change place fun o => o.put key (.value x)
    | _, _, some (.accessor _ (some setter)) => let _ ← call setter v [x]
    | _, _, some (.accessor _ none) => return
    | _, _, _ => Eval.change place fun o => o.put key (.value x)
  | _ => return

/-- Removes a property of a value. -/
def removeProperty (v : Value) (key : Units) : Eval Unit := do
  match v with
  | .object place =>
    Eval.change place fun o =>
      match o.body, index? key with
      | .array items, some i => { o with body := .array (items.setIfInBounds i none) }
      | _, _ => o.remove key
  | _ => return

/-- A value of its own has a property. -/
def hasProperty (v : Value) (key : Units) : Eval Bool := do
  match v with
  | .object place =>
    let o ← Eval.object place
    let item :=
      match o.body with
      | .array items => key == lengthKey || ((index? key).bind fun i => (items[i]?).join).isSome
      | _ => false
    return item || (o.slot? key).isSome
  | _ => return false

/-- The keys of an object: those that name places of items in ascending order, then the others in
the order in which they were made. -/
def keysOf (o : Object) : List Units :=
  let items : List Nat :=
    match o.body with
    | .array items => (List.range items.size).filter fun i => (items[i]?).join.isSome
    | _ => []
  let keys := o.slots.map (·.1)
  let named := if let .error _ := o.body then [] else keys
  let places := (named.filterMap index?).mergeSort (· ≤ ·)
  (items ++ places).map unitsOfNat ++ named.filter fun k => (index? k).isNone

/-- The value is a function. -/
def isCallable : Value → Eval Bool
  | .builtin _ => return true
  | .object place => do
    match (← Eval.object place).body with
    | .function _ _ _ => return true
    | _ => return false
  | _ => return false

/-- The value is an object. -/
def Value.isObject : Value → Bool
  | .object _ | .builtin _ => true
  | _ => false

/-- The value with objects replaced: by what `valueOf` answers, else by what `toString` answers, or
the other way round. -/
def toPrimitive (call : Caller) (textFirst : Bool) (v : Value) : Eval Value := do
  if !v.isObject then return v
  let names := if textFirst then ["toString", "valueOf"] else ["valueOf", "toString"]
  for name in names do
    let f ← property call v (Units.ofString name)
    if ← isCallable f then
      let x ← call f v []
      if !x.isObject then return x
  Eval.fail .typeError "cannot convert object to primitive value"

/-- The text of a value that is no object. -/
def primitiveUnits : Value → Units
  | .undefined => Units.ofString "undefined"
  | .null => Units.ofString "null"
  | .bool b => Units.ofString (if b then "true" else "false")
  | .num x => unitsOfNumber x
  | .bigint n => Units.ofString (toString n)
  | .str u => u
  | .builtin _ | .object _ => Units.ofString "[object Object]"

/-- The text of a value. -/
def toUnits (call : Caller) (v : Value) : Eval Units := do
  return primitiveUnits (← toPrimitive call true v)

/-- The number of a value that is no object. -/
def primitiveNumber : Value → Eval Float
  | .undefined => return 0 / 0
  | .null => return 0
  | .bool b => return if b then 1 else 0
  | .num x => return x
  | .str u => return numberOfUnits u
  | .bigint _ => Eval.fail .typeError "cannot convert BigInt to number"
  | .builtin _ | .object _ => return 0 / 0

/-- The number of a value. -/
def toNumber (call : Caller) (v : Value) : Eval Float := do
  primitiveNumber (← toPrimitive call false v)

/-- The value counts as true. -/
def Value.truthy : Value → Bool
  | .undefined | .null => false
  | .bool b => b
  | .num x => !(x.isNaN || x == 0)
  | .bigint n => n != 0
  | .str u => !u.isEmpty
  | .builtin _ | .object _ => true

/-- The name of the type of a value. -/
def typeName (v : Value) : Eval String := do
  match v with
  | .undefined => return "undefined"
  | .null => return "object"
  | .bool _ => return "boolean"
  | .num _ => return "number"
  | .bigint _ => return "bigint"
  | .str _ => return "string"
  | .builtin _ | .object _ => return if ← isCallable v then "function" else "object"

/-- The integer of a number, as a count or a place: zero for NaN, and a bound for the infinities. -/
def toInteger (x : Float) : Int :=
  if x.isNaN then 0
  else if x.isInf then (if x < 0 then -0x20000000000000 else 0x20000000000000)
  else (Decimal.Dyadic.ofFloat x).truncate

/-- The 32 bits of a number as a natural number. -/
def toBits32 (x : Float) : Nat :=
  let n : Int := (Decimal.Dyadic.ofFloat x).truncate % 0x100000000
  if x.isFinite then n.toNat else 0

/-- The number of 32 bits with a sign. -/
def ofBits32 (n : Nat) : Value :=
  let low : Nat := n % 0x100000000
  .num (Float.ofInt (if low < 0x80000000 then (low : Int) else (low : Int) - 0x100000000))

/-- The values are the same. -/
def strictEquals : Value → Value → Bool
  | .undefined, .undefined | .null, .null => true
  | .bool a, .bool b => a == b
  | .num a, .num b => a == b
  | .bigint a, .bigint b => a == b
  | .str a, .str b => a == b
  | .builtin a, .builtin b => a == b
  | .object a, .object b => a == b
  | _, _ => false

/-- The number of a value for a comparison. -/
def comparable : Value → Eval Float
  | .bigint n => return Float.ofInt n
  | v => primitiveNumber v

/-- The values are the same after conversion. -/
def looseEquals (call : Caller) (a b : Value) : Eval Bool := do
  match a, b with
  | .undefined, .null | .null, .undefined => return true
  | .undefined, _ | .null, _ | _, .undefined | _, .null => return strictEquals a b
  | _, _ =>
    if a.isObject && b.isObject then return strictEquals a b
    let a ← toPrimitive call false a
    let b ← toPrimitive call false b
    match a, b with
    | .str x, .str y => return x == y
    | .undefined, _ | .null, _ | _, .undefined | _, .null => return strictEquals a b
    | _, _ => return (← comparable a) == (← comparable b)

/-- An operator on two numbers. -/
def onNumbers (op : BinaryOp) (x y : Float) : Value :=
  match op with
  | .sub => .num (x - y)
  | .mul => .num (x * y)
  | .div => .num (x / y)
  | .rem => .num (Decimal.remainder x y)
  | .pow => .num (if y.isNaN || (x.abs == 1 && y.isInf) then 0 / 0 else Float.pow x y)
  | .bitAnd => ofBits32 (toBits32 x &&& toBits32 y)
  | .bitOr => ofBits32 (toBits32 x ||| toBits32 y)
  | .bitXor => ofBits32 (toBits32 x ^^^ toBits32 y)
  | .shiftLeft => ofBits32 (toBits32 x <<< (toBits32 y % 32))
  | .shiftRight =>
    let bits := toBits32 x
    let n : Int := if bits < 0x80000000 then bits else (bits : Int) - 0x100000000
    .num (Float.ofInt (n / Nat.pow 2 (toBits32 y % 32)))
  | .shiftRightZero => .num (Float.ofNat (toBits32 x >>> (toBits32 y % 32)))
  | _ => .num (x + y)

/-- An operator on two integers of any size. -/
def onIntegers (op : BinaryOp) (x y : Int) : Eval Value :=
  match op with
  | .add => return .bigint (x + y)
  | .sub => return .bigint (x - y)
  | .mul => return .bigint (x * y)
  | .div =>
    if y = 0 then Eval.fail .rangeError "BigInt division by zero"
    else return .bigint (x.tdiv y)
  | .rem =>
    if y = 0 then Eval.fail .rangeError "BigInt division by zero"
    else return .bigint (x.tmod y)
  | _ => Eval.fail .typeError "operator is not defined for BigInt"

/-- An operator on two values that are numbers after conversion. -/
def arithmetic (call : Caller) (op : BinaryOp) (a b : Value) : Eval Value := do
  let a ← toPrimitive call false a
  let b ← toPrimitive call false b
  match a, b with
  | .bigint x, .bigint y => onIntegers op x y
  | .bigint _, _ | _, .bigint _ =>
    Eval.fail .typeError "cannot mix BigInt and other types, use explicit conversions"
  | _, _ => return onNumbers op (← primitiveNumber a) (← primitiveNumber b)

/-- A comparison of two values. -/
def ordered (call : Caller) (units : Units → Units → Bool) (numbers : Float → Float → Bool)
    (a b : Value) : Eval Value := do
  let a ← toPrimitive call false a
  let b ← toPrimitive call false b
  match a, b with
  | .str x, .str y => return .bool (units x y)
  | _, _ => return .bool (numbers (← comparable a) (← comparable b))

/-- An operator on two values. -/
def applyBinary (call : Caller) (op : BinaryOp) (a b : Value) : Eval Value := do
  match op with
  | .add =>
    let a ← toPrimitive call false a
    let b ← toPrimitive call false b
    match a, b with
    | .str x, _ => return .str (x ++ primitiveUnits b)
    | _, .str y => return .str (primitiveUnits a ++ y)
    | _, _ => arithmetic call .add a b
  | .eq => return .bool (strictEquals a b)
  | .ne => return .bool (!strictEquals a b)
  | .looseEq => return .bool (← looseEquals call a b)
  | .looseNe => return .bool (!(← looseEquals call a b))
  | .lt => ordered call Units.less (· < ·) a b
  | .gt => ordered call (fun x y => Units.less y x) (· > ·) a b
  | .le => ordered call (fun x y => !Units.less y x) (· ≤ ·) a b
  | .ge => ordered call (fun x y => !Units.less x y) (· ≥ ·) a b
  | .isIn =>
    if b.isObject then return .bool (← hasProperty b (← toUnits call a))
    else Eval.fail .typeError "right-hand side of 'in' should be an object"
  | _ => arithmetic call op a b

/-- An operator on a value. -/
def applyUnary (call : Caller) (op : UnaryOp) (v : Value) : Eval Value := do
  match op with
  | .not => return .bool (!v.truthy)
  | .typeOf => return .ofString (← typeName v)
  | .void => return .undefined
  | .plus => return .num (← toNumber call v)
  | .neg =>
    match ← toPrimitive call false v with
    | .bigint n => return .bigint (-n)
    | v => return .num (-(← primitiveNumber v))
  | .complement =>
    match ← toPrimitive call false v with
    | .bigint n => return .bigint (-n - 1)
    | v => return ofBits32 (0xFFFFFFFF - toBits32 (← primitiveNumber v))

end ScriptStage.JavaScript
