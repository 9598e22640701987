import ScriptStage.Engine.PythonTree
import ScriptStage.Text.Printable
import ScriptStage.Worker.Document

/-!
# Values and objects of Python programs

Lists, dictionaries, sets and functions are objects with a place in the world; all other values are
what they are.

## Main definitions

* `ScriptStage.Python.Value`, `Object`, `World`: values, objects and all that a program can change.
* `ScriptStage.Python.ErrorKind`, `Raised`: exceptions.
* `ScriptStage.Python.Eval`: computations of a running program.
* `ScriptStage.Python.World.same`, `repr`, `text`: equality and texts of values.
-/

set_option autoImplicit false

namespace ScriptStage.Python

/-- The kinds of exceptions. -/
inductive ErrorKind where
  | baseException | systemExit | keyboardInterrupt | generatorExit | exception | arithmeticError
  | zeroDivisionError | overflowError | lookupError | keyError | indexError | nameError
  | unboundLocalError | typeError | valueError | attributeError | runtimeError | recursionError
  | notImplementedError | stopIteration | assertionError | osError
  deriving DecidableEq, Repr

namespace ErrorKind

/-- All kinds. -/
def all : List ErrorKind :=
  [ baseException, systemExit, keyboardInterrupt, generatorExit, exception, arithmeticError,
    zeroDivisionError, overflowError, lookupError, keyError, indexError, nameError,
    unboundLocalError, typeError, valueError, attributeError, runtimeError, recursionError,
    notImplementedError, stopIteration, assertionError, osError ]

/-- The name of a kind. -/
def name : ErrorKind → String
  | baseException => "BaseException"
  | systemExit => "SystemExit"
  | keyboardInterrupt => "KeyboardInterrupt"
  | generatorExit => "GeneratorExit"
  | exception => "Exception"
  | arithmeticError => "ArithmeticError"
  | zeroDivisionError => "ZeroDivisionError"
  | overflowError => "OverflowError"
  | lookupError => "LookupError"
  | keyError => "KeyError"
  | indexError => "IndexError"
  | nameError => "NameError"
  | unboundLocalError => "UnboundLocalError"
  | typeError => "TypeError"
  | valueError => "ValueError"
  | attributeError => "AttributeError"
  | runtimeError => "RuntimeError"
  | recursionError => "RecursionError"
  | notImplementedError => "NotImplementedError"
  | stopIteration => "StopIteration"
  | assertionError => "AssertionError"
  | osError => "OSError"

/-- The kinds that a kind belongs to, itself first. -/
def line : ErrorKind → List ErrorKind
  | baseException => [baseException]
  | k@systemExit | k@keyboardInterrupt | k@generatorExit | k@exception => [k, baseException]
  | k@zeroDivisionError | k@overflowError => [k, arithmeticError, exception, baseException]
  | k@keyError | k@indexError => [k, lookupError, exception, baseException]
  | k@unboundLocalError => [k, nameError, exception, baseException]
  | k@recursionError | k@notImplementedError => [k, runtimeError, exception, baseException]
  | k => [k, exception, baseException]

end ErrorKind

/-- The built-in functions. -/
inductive Builtin where
  | abs | bool | dict | float | globals | int | len | list | max | min | print | range | repr | set
  | sorted | str | sum | tuple
  deriving DecidableEq, Repr

namespace Builtin

/-- The built-in functions and their names. -/
def table : List (String × Builtin) :=
  [ ("abs", abs), ("bool", bool), ("dict", dict), ("float", float), ("globals", globals),
    ("int", int), ("len", len), ("list", list), ("max", max), ("min", min), ("print", print),
    ("range", range), ("repr", repr), ("set", set), ("sorted", sorted), ("str", str), ("sum", sum),
    ("tuple", tuple) ]

/-- The name of a built-in function. -/
def name (b : Builtin) : String :=
  ((table.find? fun e => e.2 = b).map (·.1)).getD ""

/-- The function makes values of a type. -/
def isType (b : Builtin) : Bool :=
  [bool, dict, float, int, list, range, set, str, tuple].contains b

end Builtin

/-- The values. -/
inductive Value where
  /-- No value. -/
  | none
  /-- A boolean. -/
  | bool (b : Bool)
  /-- An integer. -/
  | int (n : Int)
  /-- A number with a fraction. -/
  | float (x : Float)
  /-- A string. -/
  | str (s : String)
  /-- A tuple. -/
  | tuple (items : List Value)
  /-- The integers from one before another, in steps. -/
  | range (start stop step : Int)
  /-- The keys, values or entries of a dictionary. -/
  | view (kind : String) (items : List Value)
  /-- A built-in function. -/
  | builtin (f : Builtin)
  /-- A kind of exceptions. -/
  | kind (k : ErrorKind)
  /-- An exception. -/
  | error (k : ErrorKind) (args : List Value)
  /-- A method of a value. -/
  | method (self : Value) (name : String)
  /-- An object, by its place in the world. -/
  | object (place : Nat)

instance : Inhabited Value := ⟨.none⟩

/-- The objects. -/
inductive Object where
  /-- A list. -/
  | list (items : List Value)
  /-- A dictionary, with its entries in the order in which their keys came. -/
  | dict (entries : List (Value × Value))
  /-- A set. -/
  | set (items : List Value)
  /-- A function with the scope around it. -/
  | function (name : String) (params : List String) (body : List Stmt) (scope : Option Nat)

instance : Inhabited Object := ⟨.list []⟩

/-- The variables of a function. -/
structure Scope where
  /-- The names that stand for variables of its own. -/
  own : List String
  /-- Those that have a value. -/
  vars : List (String × Value)
  /-- The scope around. -/
  outer : Option Nat

instance : Inhabited Scope := ⟨⟨[], [], none⟩⟩

/-- An exception on its way to a handler. -/
structure Raised where
  /-- Its kind. -/
  kind : ErrorKind
  /-- Its arguments. -/
  args : List Value

/-- What is raised when a value has no text. -/
structure Untold where
  /-- Its kind. -/
  kind : ErrorKind
  /-- Its text. -/
  text : String

/-- All that a program can change. The object at place zero is the dictionary of the variables of
the program. -/
structure World where
  /-- The objects. -/
  objects : Array Object
  /-- The scopes of functions. -/
  scopes : Array Scope
  /-- The nested calls that are left. -/
  calls : Nat
  /-- The exceptions that are handled, the last one first. -/
  handled : List Raised

/-- Computations of a running program. -/
abbrev Eval := EStateM Raised World

/-- How deep calls may nest. -/
def maxCalls : Nat := 1000

/-- The most decimal digits of an integer that is written or read. -/
def maxDigits : Nat := 4300

/-- The complaint about an integer with more digits. -/
def tooManyDigits : String :=
  "Exceeds the limit (4300 digits) for integer string conversion"

namespace Eval

/-- Raises an exception with a text. -/
def fail {α : Type} (kind : ErrorKind) (text : String) : Eval α :=
  throw ⟨kind, [.str text]⟩

/-- An object. -/
def object (place : Nat) : Eval Object := do
  return (← get).objects.getD place default

/-- Makes an object. -/
def make (o : Object) : Eval Value :=
  modifyGet fun w => (.object w.objects.size, { w with objects := w.objects.push o })

/-- Replaces an object. -/
def put (place : Nat) (o : Object) : Eval Unit :=
  modify fun w => { w with objects := w.objects.setIfInBounds place o }

/-- Runs a call one level deeper. -/
def deeper {α : Type} (m : Eval α) : Eval α := do
  let w ← get
  match w.calls with
  | 0 => fail .recursionError "maximum recursion depth exceeded"
  | n + 1 =>
    set { w with calls := n }
    let a ← tryCatch m fun e => do
      modify fun w => { w with calls := n + 1 }
      throw e
    modify fun w => { w with calls := n + 1 }
    return a

end Eval

namespace Value

/-- The integer of a value, for booleans and integers. -/
def int? : Value → Option Int
  | bool b => some (if b then 1 else 0)
  | int n => some n
  | _ => Option.none

/-- The double of a value, for numbers of all kinds. -/
def float? : Value → Option Float
  | float x => some x
  | v => v.int?.map Float.ofInt

/-- An integer and a double are equal. -/
def equalsFloat (n : Int) (x : Float) : Bool :=
  x.isFinite && (Decimal.Dyadic.ofFloat x).toInt? == some n

mutual

/-- The values are the same as keys; objects if they are one object. -/
def sameKey : Value → Value → Bool
  | none, none => true
  | bool a, bool b => a == b
  | bool a, int b => (if a then 1 else 0) == b
  | int a, bool b => a == (if b then 1 else 0)
  | int a, int b => a == b
  | int a, float b => equalsFloat a b
  | bool a, float b => equalsFloat (if a then 1 else 0) b
  | float a, int b => equalsFloat b a
  | float a, bool b => equalsFloat (if b then 1 else 0) a
  | float a, float b => a == b
  | str a, str b => a == b
  | tuple as, tuple bs => sameKeys as bs
  | range a b c, range d e f => a == d && b == e && c == f
  | builtin a, builtin b => a == b
  | kind a, kind b => a == b
  | object a, object b => a == b
  | _, _ => false

/-- The values are the same as keys, one by one. -/
def sameKeys : List Value → List Value → Bool
  | [], [] => true
  | a :: as, b :: bs => a.sameKey b && sameKeys as bs
  | _, _ => false

end

/-- A character that stands for itself in the text of a string: it is shown, and it is no blank
but the space. -/
def isPrintable (c : Char) : Bool :=
  c = ' ' || (Text.isShown c && !Text.inRanges #[(0xA0, 0xA0), (0x1680, 0x1680),
    (0x2000, 0x200A), (0x2028, 0x2029), (0x202F, 0x202F), (0x205F, 0x205F), (0x3000, 0x3000)]
    c.toNat)

/-- So many hexadecimal digits of a number. -/
def hex (width n : Nat) : List Char :=
  Decimal.Notation.padZeros width (Nat.toDigits 16 n)

/-- The escaped form of a character between quotes. -/
def escaped (quote c : Char) : List Char :=
  if c = quote ∨ c = '\\' then ['\\', c]
  else if c = '\n' then ['\\', 'n']
  else if c = '\r' then ['\\', 'r']
  else if c = '\t' then ['\\', 't']
  else if isPrintable c then [c]
  else if c.toNat < 0x100 then '\\' :: 'x' :: hex 2 c.toNat
  else if c.toNat < 0x10000 then '\\' :: 'u' :: hex 4 c.toNat
  else '\\' :: 'U' :: hex 8 c.toNat

/-- A string in quotes: in double ones if that saves escapes. -/
def quoted (s : String) : String :=
  let t := s.toList
  let quote := if t.contains '\u0027' && !t.contains '"' then '"' else '\u0027'
  String.ofList (quote :: t.flatMap (escaped quote) ++ [quote])

/-- The decimal text of an integer that is not too long. -/
def decimal (n : Int) : Except Untold String :=
  if n.natAbs < Nat.pow 10 maxDigits then .ok (toString n)
  else
    .error ⟨.valueError,
      tooManyDigits ++ "; use sys.set_int_max_str_digits() to increase the limit"⟩

end Value

namespace World

/-- The name of a value's type. -/
def typeName (w : World) : Value → String
  | .none => "NoneType"
  | .bool _ => "bool"
  | .int _ => "int"
  | .float _ => "float"
  | .str _ => "str"
  | .tuple _ => "tuple"
  | .range _ _ _ => "range"
  | .view kind _ => kind
  | .builtin f => if f.isType then "type" else "builtin_function_or_method"
  | .kind _ => "type"
  | .error k _ => k.name
  | .method _ _ => "builtin_function_or_method"
  | .object place =>
    match w.objects.getD place default with
    | .list _ => "list"
    | .dict _ => "dict"
    | .set _ => "set"
    | .function _ _ _ _ => "function"

/-- How deep values may nest in each other to be compared and written. -/
def nesting : Nat := 1000

/-- The values are equal. -/
def sameAt (w : World) : Nat → Value → Value → Bool
  | 0, _, _ => false
  | fuel + 1, a, b =>
    let items (as bs : List Value) : Bool :=
      as.length == bs.length && (as.zip bs).all fun p => w.sameAt fuel p.1 p.2
    match a, b with
    | .tuple as, .tuple bs => items as bs
    | .object i, .object j =>
      match w.objects.getD i default, w.objects.getD j default with
      | .list as, .list bs => items as bs
      | .set as, .set bs => as.length == bs.length && as.all fun x => bs.any (Value.sameKey x)
      | .dict as, .dict bs =>
        as.length == bs.length && as.all fun p =>
          match bs.find? fun q => Value.sameKey p.1 q.1 with
          | some q => w.sameAt fuel p.2 q.2
          | none => false
      | _, _ => i == j
    | a, b => a.sameKey b

/-- The values are equal. -/
def same (w : World) (a b : Value) : Bool :=
  w.sameAt nesting a b

/-- The text of a value as it is written inside of others, given the places of the objects that it
is written inside of. -/
def reprAt (w : World) : Nat → List Nat → Value → Except Untold String
  | 0, _, _ =>
    .error ⟨.recursionError,
      "maximum recursion depth exceeded while getting the repr of an object"⟩
  | fuel + 1, around, v =>
    let items (around : List Nat) (vs : List Value) : Except Untold String := do
      return ", ".intercalate (← vs.mapM (w.reprAt fuel around))
    let numbers (ns : List Int) : Except Untold String := do
      return ", ".intercalate (← ns.mapM Value.decimal)
    match v with
    | .none => return "None"
    | .bool b => return if b then "True" else "False"
    | .int n => Value.decimal n
    | .float x => return String.ofList (Worker.Document.number.render x)
    | .str s => return Value.quoted s
    | .tuple [v] => return "(" ++ (← w.reprAt fuel around v) ++ ",)"
    | .tuple vs => return "(" ++ (← items around vs) ++ ")"
    | .range a b 1 => return "range(" ++ (← numbers [a, b]) ++ ")"
    | .range a b c => return "range(" ++ (← numbers [a, b, c]) ++ ")"
    | .view kind vs => return kind ++ "([" ++ (← items around vs) ++ "])"
    | .builtin f =>
      return if f.isType then "<class '" ++ f.name ++ "'>"
        else "<built-in function " ++ f.name ++ ">"
    | .kind k => return "<class '" ++ k.name ++ "'>"
    | .error k args => return k.name ++ "(" ++ (← items around args) ++ ")"
    | .method _ name => return "<built-in method " ++ name ++ ">"
    | .object place =>
      match w.objects.getD place default, around.contains place with
      | .list _, true => return "[...]"
      | .dict _, true => return "\x7b...\x7d"
      | .list vs, false => return "[" ++ (← items (place :: around) vs) ++ "]"
      | .set [], _ => return "set()"
      | .set vs, _ => return "\x7b" ++ (← items around vs) ++ "\x7d"
      | .dict es, false =>
        let entry (e : Value × Value) : Except Untold String := do
          let key ← w.reprAt fuel (place :: around) e.1
          return key ++ ": " ++ (← w.reprAt fuel (place :: around) e.2)
        return "\x7b" ++ ", ".intercalate (← es.mapM entry) ++ "\x7d"
      | .function name _ _ _, _ => return "<function " ++ name ++ ">"

/-- The text of a value as it is written inside of others. -/
def repr (w : World) (v : Value) : Except Untold String :=
  w.reprAt nesting [] v

/-- The text of an exception without its kind: of its argument, of all of them if they are
several, nothing if there is none. -/
def errorText (w : World) (k : ErrorKind) (args : List Value) : Except Untold String :=
  match k, args with
  | _, [] => return ""
  | .keyError, [v] => w.repr v
  | _, [.str s] => return s
  | _, [v] => w.repr v
  | _, args => w.repr (.tuple args)

/-- The text of a value. -/
def text (w : World) (v : Value) : Except Untold String :=
  match v with
  | .str s => return s
  | .error k args => w.errorText k args
  | v => w.repr v

/-- The value counts as true. -/
def truthy (w : World) : Value → Bool
  | .none => false
  | .bool b => b
  | .int n => n != 0
  | .float x => !(x == 0)
  | .str s => !s.isEmpty
  | .tuple items | .view _ items => !items.isEmpty
  | .range a b c => if 0 < c then a < b else b < a
  | .object place =>
    match w.objects.getD place default with
    | .list items | .set items => !items.isEmpty
    | .dict entries => !entries.isEmpty
    | .function _ _ _ _ => true
  | _ => true

end World

/-- The text of an exception. -/
def Raised.text (r : Raised) (w : World) : Except Untold String :=
  w.errorText r.kind r.args

/-- A text, or the exception that there is none. -/
def Eval.told (text : World → Except Untold String) : Eval String := do
  match text (← get) with
  | .ok s => return s
  | .error u => Eval.fail u.kind u.text

end ScriptStage.Python
