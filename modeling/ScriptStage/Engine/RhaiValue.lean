import ScriptStage.Dict
import ScriptStage.Engine.Conventions
import ScriptStage.Engine.RhaiToken
import ScriptStage.Text.Quoted

/-!
# Values of Rhai programs

Arrays and maps are values: a variable that is given one has a copy of its own.

## Main definitions

* `ScriptStage.Rhai.Value`: the values; `Value.typeName`, `Value.text` their types and texts.
* `ScriptStage.Rhai.Cause`: what goes wrong in a running program.
* `ScriptStage.Rhai.applyBinary`, `applyUpdate`, `applyUnary`: operators.
* `ScriptStage.Rhai.item`, `setItem`, `field`, `setField`: parts of values.
-/

set_option autoImplicit false

namespace ScriptStage.Rhai

/-- The values. -/
inductive Value where
  /-- The unit. -/
  | unit
  /-- A boolean. -/
  | bool (b : Bool)
  /-- An integer of 64 bits. -/
  | int (n : Int)
  /-- A number with a fraction. -/
  | float (x : Float)
  /-- A character. -/
  | char (c : Char)
  /-- A string. -/
  | str (s : String)
  /-- An array. -/
  | array (items : List Value)
  /-- A map with ascending keys. -/
  | map (fields : List (String × Value))
  /-- A function without a name, with the variables that it saw when it was made. -/
  | closure (params : List String) (body : Stmt) (seen : List (String × Value))
  /-- A range of integers; the flag says whether its end belongs to it. -/
  | range (low high : Int) (through : Bool)
  /-- An array of bytes. -/
  | blob (bytes : List UInt8)

instance : Inhabited Value := ⟨.unit⟩

namespace Value

/-- The name of a value's type. -/
def typeName : Value → String
  | unit => "()"
  | bool _ => "bool"
  | int _ => "i64"
  | float _ => "f64"
  | char _ => "char"
  | str _ => "string"
  | array _ => "array"
  | map _ => "map"
  | closure _ _ _ => "Fn"
  | range _ _ false => "range"
  | range _ _ true => "range="
  | blob _ => "blob"

/-- The name of a value's type in a list of arguments: a string goes by all types of strings. -/
def argumentName : Value → String
  | str _ => "&str | ImmutableString | String"
  | v => v.typeName

/-- Numbers inside of other values are written positionally for decimal exponents from -4 to 15. -/
def numberInside : Decimal.Notation where
  plainFrom := -4
  plainBelow := 16
  pointZero := true
  exponentPlus := false
  exponentWidth := 1
  tie := .toEven
  signedZero := true
  nan := "NaN"
  infinity := "inf"

/-- The largest number that is written positionally: of 10 ^ 13 the bits that single precision has
room for. -/
def largestPlain : Float := 9999999827968.0

/-- The smallest number that is written positionally: of 10 ^ -13 the bits that single precision has
room for. -/
def smallestPlain : Float := 9.9999998245167e-14

/-- How a number that is a value of its own is written. -/
def number (x : Float) : Decimal.Notation :=
  let bound : Int :=
    if x != 0 && (largestPlain < x.abs || x.abs < smallestPlain) then 0 else 0x400
  { numberInside with plainFrom := -bound, plainBelow := bound, signedZero := false }

mutual

/-- The text of a value. -/
def text : Value → String
  | unit => ""
  | bool b => if b then "true" else "false"
  | int n => toString n
  | float x => String.ofList ((number x).render x)
  | char c => String.singleton c
  | str s => s
  | array items => "[" ++ textItems items ++ "]"
  | map fields => "#\x7b" ++ textFields fields ++ "\x7d"
  | closure _ _ _ => "Fn"
  | range low high through => toString low ++ (if through then "..=" else "..") ++ toString high
  | blob bytes => "[" ++ " ".intercalate (bytes.map fun b => toString b) ++ "]"

/-- The text of a value inside of another. -/
def textInside : Value → String
  | unit => "()"
  | float x => String.ofList (numberInside.render x)
  | str s => Text.quoted s
  | char c => "'" ++ String.singleton c ++ "'"
  | array items => "[" ++ textItems items ++ "]"
  | map fields => "#\x7b" ++ textFields fields ++ "\x7d"
  | v => v.text

/-- The texts of items. -/
def textItems : List Value → String
  | [] => ""
  | [v] => v.textInside
  | v :: rest => v.textInside ++ ", " ++ textItems rest

/-- The texts of fields. -/
def textFields : List (String × Value) → String
  | [] => ""
  | [(k, v)] => Text.quoted k ++ ": " ++ v.textInside
  | (k, v) :: rest => Text.quoted k ++ ": " ++ v.textInside ++ ", " ++ textFields rest

end

/-- The number of a value, if it is one. -/
def number? : Value → Option Float
  | int n => some (Float.ofInt n)
  | float x => some x
  | _ => none

/-- The distance between one and the next larger number. -/
def epsilon : Float := Float.ofScientific 2220446049250313 true 31

/-- How two numbers are ordered, if they are. Numbers whose distance is at most the least of one,
relative to the larger of them, count as equal. -/
def orderOfFloats? (x y : Float) : Option Ordering :=
  let size := if x.abs < y.abs then y.abs else x.abs
  if x == y || ((x - y) / size).abs ≤ epsilon then some .eq
  else if x < y then some .lt
  else if x > y then some .gt
  else none

mutual

/-- The values are the same; numbers of both kinds are compared by what they are. -/
def same : Value → Value → Bool
  | unit, unit => true
  | bool a, bool b => a == b
  | int a, int b => a == b
  | int a, float b => orderOfFloats? (Float.ofInt a) b == some .eq
  | float a, int b => orderOfFloats? a (Float.ofInt b) == some .eq
  | float a, float b => orderOfFloats? a b == some .eq
  | char a, char b => a == b
  | str a, str b => a == b
  | char a, str b => String.singleton a == b
  | str a, char b => a == String.singleton b
  | array as, array bs => sameItems as bs
  | map as, map bs => sameFields as bs
  | range a b t, range c d u => a == c && b == d && t == u
  | blob as, blob bs => as == bs
  | _, _ => false

/-- The items are the same. -/
def sameItems : List Value → List Value → Bool
  | [], [] => true
  | a :: as, b :: bs => a.same b && sameItems as bs
  | _, _ => false

/-- The fields are the same. -/
def sameFields : List (String × Value) → List (String × Value) → Bool
  | [], [] => true
  | (j, a) :: as, (k, b) :: bs => j == k && a.same b && sameFields as bs
  | _, _ => false

end

end Value

/-- What has items at places that are counted. -/
inductive Sequence where
  /-- An array. -/
  | array
  /-- A string. -/
  | string
  /-- The bits of an integer. -/
  | bits
  deriving DecidableEq, Repr

/-- The wording of a place outside of a sequence. -/
def Sequence.outside (s : Sequence) (place : Int) (length : Nat) : String :=
  let (name, whole, part) :=
    match s with
    | array => ("Array", "array", "element")
    | string => ("String", "string", "character")
    | bits => ("Bit-field", "bit-field", "bit")
  let why :=
    match length with
    | 0 => whole ++ " is empty"
    | 1 => "only 1 " ++ part ++ " in " ++ whole
    | n => "only " ++ toString n ++ " " ++ part ++ "s in " ++ whole
  name ++ " index " ++ toString place ++ " out of bounds: " ++ why

/-- What goes wrong in a running program. -/
inductive Cause where
  /-- A value was thrown. -/
  | thrown (v : Value)
  /-- A variable is not declared. -/
  | noVariable (name : String)
  /-- No function takes such arguments. -/
  | noFunction (name : String) (args : List String)
  /-- A division by zero. -/
  | divisionByZero (op : BinaryOp) (a b : Value)
  /-- A result that is no integer of 64 bits. -/
  | overflow (op : BinaryOp) (a b : Value)
  /-- The negative of an integer is none of 64 bits. -/
  | negativeOverflow (n : Int)
  /-- A value of the wrong type. -/
  | mismatch (actual expected : String)
  /-- A value has no such item. -/
  | outOfBounds (whole : Sequence) (place : Int) (length : Nat)
  /-- A type has no such property. -/
  | noProperty (name type : String)
  /-- A type has no such property that can be written. -/
  | noWritableProperty (name type given : String)
  /-- A type has no items under such keys. -/
  | noItems (type key : String)
  /-- An assignment to what cannot be changed. -/
  | constant (name : String)
  /-- A text denotes no number. -/
  | noNumber (text : String)
  /-- Too many operations. -/
  | tooManyOperations
  /-- Too many nested calls. -/
  | tooManyCalls
  /-- A value is too large. -/
  | tooLarge (what : String)

namespace Cause

/-- The rule that an integer operator breaks on overflow. -/
def overflowName : BinaryOp → String
  | .add => "Addition overflow"
  | .sub => "Subtraction overflow"
  | .mul => "Multiplication overflow"
  | .div => "Division overflow"
  | .rem => "Modulo division by zero or overflow"
  | _ => "Exponential overflow"

/-- The wording of a cause, without its place. -/
def message : Cause → String
  | thrown .unit => "Runtime error"
  | thrown v => "Runtime error: " ++ v.text
  | noVariable name => "Variable not found: " ++ name
  | noFunction name args => "Function not found: " ++ name ++ " (" ++ ", ".intercalate args ++ ")"
  | divisionByZero op a b =>
    (if op = .rem then "Modulo division by zero or overflow: " else "Division by zero: ")
      ++ a.text ++ " " ++ op.text ++ " " ++ b.text
  | overflow op a b =>
    overflowName op ++ ": " ++ a.text ++ " " ++ op.text ++ " " ++ b.text
  | negativeOverflow n => "Negation overflow: -" ++ toString n
  | mismatch actual expected =>
    "Data type incorrect: " ++ actual ++ " (expecting " ++ expected ++ ")"
  | outOfBounds whole place length => whole.outside place length
  | noProperty name type =>
    "Unknown property '" ++ name ++ "' - a getter is not registered for type '" ++ type ++ "'"
  | noWritableProperty name type given =>
    "No writable property '" ++ name ++ "' - a setter is not registered for type '" ++ type
      ++ "' to handle '" ++ given ++ "'"
  | noItems type key => "Indexer unavailable: " ++ type ++ " [" ++ key ++ "]"
  | constant name => "Cannot modify constant: " ++ name
  | noNumber text => "Error parsing number '" ++ text ++ "'"
  | tooManyOperations => "Too many operations"
  | tooManyCalls => "Stack overflow"
  | tooLarge what => what ++ " too large"

/-- A handler in the program may take care of it. -/
def catchable : Cause → Bool
  | tooManyOperations | tooManyCalls | tooLarge _ => false
  | _ => true

end Cause

/-- The most items of an array and fields of a map. -/
def maxItems : Nat := 100000

/-- The most bytes of a string. -/
def maxBytes : Nat := 10 * 1024 * 1024

/-- The value, unless it is too large. -/
def sized (v : Value) : Except Cause Value :=
  match v with
  | .str s => if s.utf8ByteSize ≤ maxBytes then .ok v else .error (.tooLarge "Length of string")
  | .array items =>
    if items.length ≤ maxItems then .ok v else .error (.tooLarge "Size of array/BLOB")
  | .blob bytes =>
    if bytes.length ≤ maxItems then .ok v else .error (.tooLarge "Size of array/BLOB")
  | .map fields =>
    if fields.length ≤ maxItems then .ok v else .error (.tooLarge "Size of object map")
  | _ => .ok v

/-- The integer, unless 64 bits do not hold it. -/
def fitted (op : BinaryOp) (a b : Value) (n : Int) : Except Cause Value :=
  if intMin ≤ n ∧ n ≤ intMax then .ok (.int n) else .error (.overflow op a b)

/-- No operator takes such values. -/
def noOperator (op : BinaryOp) (a b : Value) : Except Cause Value :=
  .error (.noFunction op.text [a.argumentName, b.argumentName])

/-- An operator on two integers. -/
def onIntegers (op : BinaryOp) (x y : Int) : Except Cause Value :=
  let a := Value.int x
  let b := Value.int y
  match op with
  | .add => fitted op a b (x + y)
  | .sub => fitted op a b (x - y)
  | .mul => fitted op a b (x * y)
  | .div => if y = 0 then .error (.divisionByZero op a b) else fitted op a b (x.tdiv y)
  | .rem =>
    if y = 0 then .error (.divisionByZero op a b)
    else if y = -1 ∧ x = intMin then .error (.overflow op a b)
    else .ok (.int (x.tmod y))
  | .pow =>
    if y < 0 then .error (.overflow op a b)
    else if 64 ≤ y ∧ 2 ≤ x.natAbs then .error (.overflow op a b)
    else if x.natAbs ≤ 1 then .ok (.int (if y = 0 then 1 else if y % 2 = 0 then x * x else x))
    else fitted op a b (Int.pow x y.toNat)
  | .bitAnd => .ok (.int (ofBits (toBits x &&& toBits y)))
  | .bitOr => .ok (.int (ofBits (toBits x ||| toBits y)))
  | .bitXor => .ok (.int (ofBits (toBits x ^^^ toBits y)))
  | .shiftLeft =>
    if y < 0 ∨ 64 ≤ y then .ok (.int 0)
    else .ok (.int (ofBits (toBits (x * Nat.pow 2 y.toNat))))
  | .shiftRight =>
    if y < 0 then .ok (.int 0)
    else if 64 ≤ y then .ok (.int (if x < 0 then -1 else 0))
    else .ok (.int (x / Nat.pow 2 y.toNat))
  | .range => .ok (.range x y false)
  | .rangeThrough => .ok (.range x y true)
  | _ => noOperator op a b

/-- An operator on two numbers with fractions. -/
def onFloats (op : BinaryOp) (x y : Float) : Except Cause Value :=
  match op with
  | .add => .ok (.float (x + y))
  | .sub => .ok (.float (x - y))
  | .mul => .ok (.float (x * y))
  | .div => .ok (.float (x / y))
  | .rem => .ok (.float (Decimal.remainder x y))
  | .pow => .ok (.float (Float.pow x y))
  | _ => noOperator op (.float x) (.float y)

/-- How two values are ordered, if they are. -/
def order? : Value → Value → Option Ordering
  | .int a, .int b => some (compare a b)
  | .str a, .str b => some (compare a b)
  | .char a, .char b => some (compare a b)
  | .bool a, .bool b => some (compare a.toNat b.toNat)
  | a, b =>
    match a.number?, b.number? with
    | some x, some y => Value.orderOfFloats? x y
    | _, _ => none

/-- A value belongs to another. -/
def contains (whole part : Value) : Except Cause Value :=
  match whole, part with
  | .array items, v => .ok (.bool (items.any (Value.same v)))
  | .str s, .str t => .ok (.bool (t.isEmpty || 1 < (s.splitOn t).length))
  | .str s, .char c => .ok (.bool (s.toList.contains c))
  | .map fields, .str k => .ok (.bool (Dict.find? k fields).isSome)
  | .range low high through, .int n =>
    .ok (.bool (low ≤ n && (if through then n ≤ high else n < high)))
  | _, _ => .error (.noFunction "contains" [whole.argumentName, part.argumentName])

/-- An operator on two values. -/
def applyBinary (op : BinaryOp) (a b : Value) : Except Cause Value :=
  match op, a, b with
  | .eq, _, _ => .ok (.bool (a.same b))
  | .ne, _, _ => .ok (.bool (!a.same b))
  | .lt, _, _ => .ok (.bool (order? a b == some .lt))
  | .gt, _, _ => .ok (.bool (order? a b == some .gt))
  | .le, _, _ => .ok (.bool (order? a b == some .lt || order? a b == some .eq))
  | .ge, _, _ => .ok (.bool (order? a b == some .gt || order? a b == some .eq))
  | .isIn, _, _ => contains b a
  | _, .int x, .int y => onIntegers op x y
  | .pow, .float x, .int y => .ok (.float (Float.pow x (Float.ofInt y)))
  | _, .int x, .float y => onFloats op (Float.ofInt x) y
  | _, .float x, .int y => onFloats op x (Float.ofInt y)
  | _, .float x, .float y => onFloats op x y
  | .add, .str s, v => sized (.str (s ++ v.text))
  | .add, v, .str s => sized (.str (v.text ++ s))
  | .add, .char c, .char d => .ok (.str (String.ofList [c, d]))
  | .add, .array as, .array bs => sized (.array (as ++ bs))
  | .add, .map as, .map bs =>
    sized (.map (bs.foldl (fun fields f => Dict.put f.1 f.2 fields) as))
  | .sub, .str s, .str t => .ok (.str (String.join (s.splitOn t)))
  | .bitAnd, .bool x, .bool y => .ok (.bool (x && y))
  | .bitOr, .bool x, .bool y => .ok (.bool (x || y))
  | .bitXor, .bool x, .bool y => .ok (.bool (x != y))
  | _, _, _ => noOperator op a b

/-- What an operator makes of the value of a variable. An array takes a value that is no array as
its last item. -/
def applyUpdate (op : BinaryOp) (old v : Value) : Except Cause Value :=
  match op, old, v with
  | .add, .array as, .array bs => sized (.array (as ++ bs))
  | .add, .array as, _ => sized (.array (as ++ [v]))
  | _, _, _ => applyBinary op old v

/-- An operator on a value. -/
def applyUnary (op : UnaryOp) (v : Value) : Except Cause Value :=
  match op, v with
  | .neg, .int n =>
    if n = intMin then .error (.negativeOverflow n) else .ok (.int (-n))
  | .neg, .float x => .ok (.float (-x))
  | .plus, .int _ | .plus, .float _ => .ok v
  | .not, .bool b => .ok (.bool !b)
  | .neg, _ => .error (.noFunction "-" [v.argumentName])
  | .plus, _ => .error (.noFunction "+" [v.argumentName])
  | .not, _ => .error (.noFunction "!" [v.argumentName])

/-- The item of a list at a place. -/
def itemAt {α : Type} (whole : Sequence) (items : List α) (n : Int) : Except Cause α :=
  match (Engine.placeIn? items.length n).bind fun k => items[k]? with
  | some x => .ok x
  | none => .error (.outOfBounds whole n items.length)

/-- The bits of an integer, from the lowest to the highest. -/
def bitsOf (n : Int) : List Bool :=
  (List.range 64).map (toBits n).testBit

/-- A key of the wrong type for a value. -/
def wrongKey {α : Type} (v key : Value) : Except Cause α :=
  match v with
  | .array _ | .str _ | .int _ | .blob _ => .error (.mismatch key.typeName "i64")
  | .map _ => .error (.mismatch key.typeName "string")
  | _ => .error (.noItems v.typeName key.typeName)

/-- The item of a value at a key. The items of an integer are its bits. -/
def item (v key : Value) : Except Cause Value :=
  match v, key with
  | .array items, .int n => itemAt .array items n
  | .str s, .int n => (itemAt .string s.toList n).map .char
  | .int m, .int n => (itemAt .bits (bitsOf m) n).map .bool
  | .blob bytes, .int n => (itemAt .array bytes n).map fun b => .int b.toNat
  | .map fields, .str k => .ok ((Dict.find? k fields).getD .unit)
  | _, _ => wrongKey v key

/-- The value with the item at a key replaced. -/
def setItem (v key x : Value) : Except Cause Value :=
  match v, key, x with
  | .array items, .int n, _ =>
    match Engine.placeIn? items.length n with
    | some k => .ok (.array (items.set k x))
    | none => .error (.outOfBounds .array n items.length)
  | .str s, .int n, .char c =>
    let cs := s.toList
    match Engine.placeIn? cs.length n with
    | some k => .ok (.str (String.ofList (cs.set k c)))
    | none => .error (.outOfBounds .string n cs.length)
  | .map fields, .str k, _ => sized (.map (Dict.put k x fields))
  | _, _, _ => wrongKey v key

/-- The property of a value: the unit if a map has none of that name. -/
def field (v : Value) (name : String) : Except Cause Value :=
  match v with
  | .map fields => .ok ((Dict.find? name fields).getD .unit)
  | _ => .error (.noProperty name v.typeName)

/-- The value with a property written. -/
def setField (v : Value) (name : String) (x : Value) : Except Cause Value :=
  match v with
  | .map fields => sized (.map (Dict.put name x fields))
  | _ => .error (.noWritableProperty name v.typeName x.typeName)

end ScriptStage.Rhai
