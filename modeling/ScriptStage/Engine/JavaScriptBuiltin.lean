import ScriptStage.Engine.JavaScriptConvert
import ScriptStage.Text.Case
import ScriptStage.Text.Search

/-!
# Built-in functions of JavaScript

## Main definitions

* `ScriptStage.JavaScript.runBuiltin`: a call of a built-in function.
* `ScriptStage.JavaScript.globals`: the variables that every program sees.
-/

set_option autoImplicit false

namespace ScriptStage.JavaScript

/-- The argument at a place. -/
def argument (args : List Value) (n : Nat) : Value :=
  args.getD n .undefined

/-- The items of an array; those that are missing count as undefined. -/
def itemsOf (v : Value) : Eval (List Value) := do
  match v with
  | .object place =>
    match (← Eval.object place).body with
    | .array items => return items.toList.map (·.getD .undefined)
    | _ => return []
  | _ => return []

/-- The value is an array. -/
def isArray (v : Value) : Eval Bool := do
  match v with
  | .object place =>
    match (← Eval.object place).body with
    | .array _ => return true
    | _ => return false
  | _ => return false

/-- A place counted from the start, or from the end if it is negative, within a length. -/
def clampPlace (length : Nat) (n : Int) : Nat :=
  if n < 0 then (length + n).toNat else min n.toNat length

/-- The place that an argument gives, with a default for a missing argument. -/
def placeOf (call : Caller) (length default : Nat) (v : Value) : Eval Nat := do
  match v with
  | .undefined => return default
  | v => return clampPlace length (toInteger (← toNumber call v))

/-- Replaces the items of an array. -/
def setItems (v : Value) (items : List Value) : Eval Unit := do
  match v with
  | .object place => Eval.change place fun o => { o with body := .array (items.map some).toArray }
  | _ => return

/-- Puts an item into a sorted list, behind those that do not come after it. -/
def insertSorted (after : Value → Value → Eval Bool) (x : Value) : List Value → Eval (List Value)
  | [] => return [x]
  | y :: rest => do
    if ← after y x then return x :: y :: rest
    else return y :: (← insertSorted after x rest)

/-- The text of an item inside a longer text: nothing for a missing one. -/
def itemUnits (call : Caller) : Value → Eval Units
  | .undefined | .null => return []
  | v => toUnits call v

/-- The pieces of a text between the places of a separator that is not empty. -/
def splitUnits (separator : Units) : Nat → Units → Units → List Units
  | _, piece, [] => [piece.reverse]
  | k + 1, piece, _ :: rest => splitUnits separator k piece rest
  | 0, piece, u :: rest =>
    if separator.isPrefixOf (u :: rest) then
      piece.reverse :: splitUnits separator (separator.length - 1) [] rest
    else splitUnits separator 0 (u :: piece) rest

/-- A call of a function of an array. -/
def runArrayFn (call : Caller) (f : ArrayFn) (this : Value) (args : List Value) : Eval Value := do
  let items ← itemsOf this
  let test (x : Value) (i : Nat) : Eval Value :=
    call (argument args 0) .undefined [x, .num (Float.ofNat i), this]
  let tested (x : Value) (i : Nat) : Eval Bool := do return (← test x i).truthy
  match f with
  | .map => Eval.makeArray (← items.zipIdx.mapM fun p => test p.1 p.2)
  | .filter => Eval.makeArray ((← items.zipIdx.filterM fun p => tested p.1 p.2).map (·.1))
  | .forEach =>
    for p in items.zipIdx do
      let _ ← test p.1 p.2
    return .undefined
  | .some => return .bool (← items.zipIdx.anyM fun p => tested p.1 p.2)
  | .every => return .bool (← items.zipIdx.allM fun p => tested p.1 p.2)
  | .find =>
    for p in items.zipIdx do
      if ← tested p.1 p.2 then return p.1
    return .undefined
  | .reduce =>
    let step (total : Value) (p : Value × Nat) : Eval Value :=
      call (argument args 0) .undefined [total, p.1, .num (Float.ofNat p.2), this]
    match args, items.zipIdx with
    | _ :: start :: _, rest => rest.foldlM step start
    | _, (x, _) :: rest => rest.foldlM step x
    | _, [] => Eval.fail .typeError "Reduce of empty array with no initial value"
  | .join =>
    let separator ←
      match argument args 0 with
      | .undefined => pure (Units.ofString ",")
      | v => toUnits call v
    return .str (separator.intercalate (← items.mapM (itemUnits call)))
  | .concat =>
    let more ← args.mapM fun a => do if ← isArray a then itemsOf a else return [a]
    Eval.makeArray (items ++ more.flatten)
  | .slice =>
    let start ← placeOf call items.length 0 (argument args 0)
    let stop ← placeOf call items.length items.length (argument args 1)
    Eval.makeArray ((items.take stop).drop start)
  | .push =>
    setItems this (items ++ args)
    return .num (Float.ofNat (items.length + args.length))
  | .pop =>
    setItems this items.dropLast
    return items.getLastD .undefined
  | .shift =>
    setItems this (items.drop 1)
    return items.headD .undefined
  | .reverse =>
    setItems this items.reverse
    return this
  | .indexOf =>
    match items.findIdx? (strictEquals (argument args 0)) with
    | some i => return .num (Float.ofNat i)
    | none => return .num (-1)
  | .includes => return .bool (items.any (strictEquals (argument args 0)))
  | .sort =>
    let after (x y : Value) : Eval Bool := do
      match x, y, argument args 0 with
      | .undefined, _, _ => return !(y matches .undefined)
      | _, .undefined, _ => return false
      | _, _, .undefined => return Units.less (← toUnits call y) (← toUnits call x)
      | _, _, f => return 0 < (← toNumber call (← call f .undefined [x, y]))
    setItems this (← items.foldlM (fun sorted x => insertSorted after x sorted) [])
    return this

/-- A call of a function of a string. -/
def runStringFn (call : Caller) (f : StringFn) (this : Value) (args : List Value) :
    Eval Value := do
  let u ← toUnits call this
  let text : Eval Units := toUnits call (argument args 0)
  match f with
  | .toUpperCase => return .str (Units.mapChars (Text.upper [·]) u)
  | .toLowerCase => return .str (Units.mapChars (Text.lower [·]) u)
  | .trim =>
    let blank (c : UInt16) : Bool := isBlank (Char.ofNat c.toNat)
    return .str ((u.dropWhile blank).reverse.dropWhile blank).reverse
  | .substring =>
    let bound (n : Int) : Nat := min n.toNat u.length
    let a := bound (toInteger (← toNumber call (argument args 0)))
    let b ←
      match argument args 1 with
      | .undefined => pure u.length
      | v => pure (bound (toInteger (← toNumber call v)))
    return .str ((u.take (max a b)).drop (min a b))
  | .slice =>
    let start ← placeOf call u.length 0 (argument args 0)
    let stop ← placeOf call u.length u.length (argument args 1)
    return .str ((u.take stop).drop start)
  | .charAt =>
    let i := toInteger (← toNumber call (argument args 0))
    return .str (if i < 0 then [] else (u[i.toNat]?).toList)
  | .charCodeAt =>
    let i := toInteger (← toNumber call (argument args 0))
    match if i < 0 then none else u[i.toNat]? with
    | some c => return .num (Float.ofNat c.toNat)
    | none => return .num (0 / 0)
  | .concat => return .str (u ++ (← args.mapM (toUnits call)).flatten)
  | .includes => return .bool (Text.find? (← text) u).isSome
  | .indexOf =>
    match Text.find? (← text) u with
    | some i => return .num (Float.ofNat i)
    | none => return .num (-1)
  | .startsWith => return .bool ((← text).isPrefixOf u)
  | .endsWith => return .bool ((← text).isSuffixOf u)
  | .repeat =>
    let n := toInteger (← toNumber call (argument args 0))
    if n < 0 ∨ (0x20000000000000 : Int) ≤ n then
      Eval.fail .rangeError "repeat count must be a positive finite number"
    else if limits.items < u.length * n.toNat then
      Eval.fail .rangeError "repeat count must not overflow maximum string length"
    else return .str (List.replicate n.toNat u).flatten
  | .split =>
    match argument args 0 with
    | .undefined => Eval.makeArray [.str u]
    | v =>
      let separator ← toUnits call v
      if separator.isEmpty then Eval.makeArray (u.map fun c => .str [c])
      else Eval.makeArray ((splitUnits separator 0 [] u).map .str)

/-- A call of a function of numbers. -/
def runMathFn (call : Caller) (f : MathFn) (args : List Value) : Eval Value := do
  let numbers ← args.mapM (toNumber call)
  let x := numbers.getD 0 (0 / 0)
  let extreme (less : Float → Float → Bool) (start : Float) : Value :=
    .num (numbers.foldl (fun a b =>
      if a.isNaN || b.isNaN then 0 / 0 else if less a b then a else b) start)
  match f with
  | .abs => return .num x.abs
  | .ceil => return .num x.ceil
  | .floor => return .num x.floor
  | .round => return .num (x + 0.5).floor
  | .sign => return .num (if x > 0 then 1 else if x < 0 then -1 else x)
  | .sqrt => return .num x.sqrt
  | .trunc => return .num (if x < 0 then x.ceil else x.floor)
  | .pow => return onNumbers .pow x (numbers.getD 1 (0 / 0))
  | .max => return extreme (· > ·) (-1 / 0)
  | .min => return extreme (· < ·) (1 / 0)

/-- The text that an object answers by itself. -/
def objectUnits (call : Caller) (v : Value) : Eval Units := do
  match v with
  | .object place =>
    match (← Eval.object place).body with
    | .array _ =>
      return (Units.ofString ",").intercalate (← (← itemsOf v).mapM (itemUnits call))
    | .function _ _ _ => return Units.ofString "function () \x7b [native code] \x7d"
    | .error _ =>
      let name ← toUnits call (← property call v (Units.ofString "name"))
      let message ← toUnits call (← property call v (Units.ofString "message"))
      if message.isEmpty then return name
      else return name ++ Units.ofString ": " ++ message
    | .plain => return Units.ofString "[object Object]"
    | .named name => return Units.ofString ("[object " ++ name ++ "]")
  | .builtin _ => return Units.ofString "function () \x7b [native code] \x7d"
  | .undefined | .null =>
    Eval.fail .typeError "cannot convert 'null' or 'undefined' to object"
  | v => return primitiveUnits v

/-- A call of a built-in function. -/
def runBuiltin (call : Caller) (f : Builtin) (this : Value) (args : List Value) : Eval Value := do
  let first := argument args 0
  match f with
  | .onArray f =>
    if ← isArray this then runArrayFn call f this args
    else Eval.fail .typeError "this is not an array"
  | .onString f => runStringFn call f this args
  | .math f => runMathFn call f args
  | .makeError kind =>
    match first with
    | .undefined => Eval.make ⟨.error kind, []⟩
    | v =>
      let text ← toUnits call v
      Eval.make ⟨.error kind, [(Units.ofString "message", .value (.str text))]⟩
  | .toText => return .str (← objectUnits call this)
  | .valueOf => return this
  | .hasOwn => return .bool (← hasProperty this (← toUnits call first))
  | .object =>
    match first with
    | .undefined | .null => Eval.make default
    | v => return v
  | .keys | .values =>
    match first with
    | .object place =>
      let keys := keysOf (← Eval.object place)
      if f = .keys then Eval.makeArray (keys.map .str)
      else Eval.makeArray (← keys.mapM (property call first))
    | .undefined | .null =>
      Eval.fail .typeError "cannot convert 'null' or 'undefined' to object"
    | _ => Eval.makeArray []
  | .array => Eval.makeArray args
  | .isArray => return .bool (← isArray first)
  | .string => if args.isEmpty then return .str [] else return .str (← toUnits call first)
  | .number =>
    if args.isEmpty then return .num 0
    else
      match ← toPrimitive call false first with
      | .bigint n => return .num (Float.ofInt n)
      | v => return .num (← primitiveNumber v)
  | .boolean => return .bool first.truthy

/-- The functions of numbers and their names. -/
def mathFns : List (String × MathFn) :=
  [ ("abs", .abs), ("ceil", .ceil), ("floor", .floor), ("max", .max), ("min", .min), ("pow", .pow),
    ("round", .round), ("sign", .sign), ("sqrt", .sqrt), ("trunc", .trunc) ]

/-- The object of the functions of numbers. -/
def mathObject : Object :=
  ⟨.named "Math", mathFns.map fun p => (Units.ofString p.1, .value (.builtin (.math p.2)))⟩

/-- The variables that every program sees, apart from those that cannot be redefined. The objects
at places zero and one are the global object and the object of the functions of numbers. -/
def globals : List (String × Value) :=
  [ ("globalThis", .object 0), ("Math", .object 1), ("Object", .builtin .object),
    ("Array", .builtin .array), ("String", .builtin .string), ("Number", .builtin .number),
    ("Boolean", .builtin .boolean) ]
  ++ ErrorKind.all.map fun k => (k.name, .builtin (.makeError k))

/-- The variables that cannot be redefined. -/
def constants : List (String × Value) :=
  [("undefined", .undefined), ("NaN", .num (0 / 0)), ("Infinity", .num (1 / 0))]

end ScriptStage.JavaScript
