import ScriptStage.Engine.JavaScriptTree

/-!
# Values and objects of a running JavaScript program

## Main definitions

* `ScriptStage.JavaScript.Value`, `Object`, `World`: values, objects and all that a program can
  change.
* `ScriptStage.JavaScript.Stop`: why a program stops before its end.
* `ScriptStage.JavaScript.Eval`: computations of a running program.
* `ScriptStage.JavaScript.Limits`: what a program may use.
-/

set_option autoImplicit false

namespace ScriptStage.JavaScript

/-- The kinds of errors. -/
inductive ErrorKind where
  /-- Any error. -/
  | error
  /-- A value of the wrong type. -/
  | typeError
  /-- A number out of range. -/
  | rangeError
  /-- An unknown variable. -/
  | referenceError
  /-- A malformed text. -/
  | syntaxError
  /-- A misuse of evaluation. -/
  | evalError
  /-- A malformed address. -/
  | uriError
  deriving DecidableEq, Repr

/-- The name of a kind of errors. -/
def ErrorKind.name : ErrorKind → String
  | error => "Error"
  | typeError => "TypeError"
  | rangeError => "RangeError"
  | referenceError => "ReferenceError"
  | syntaxError => "SyntaxError"
  | evalError => "EvalError"
  | uriError => "URIError"

/-- All kinds of errors. -/
def ErrorKind.all : List ErrorKind :=
  [error, typeError, rangeError, referenceError, syntaxError, evalError, uriError]

/-- The functions of arrays. -/
inductive ArrayFn where
  | concat | every | filter | find | forEach | includes | indexOf | join | map | pop | push | reduce
  | reverse | shift | slice | some | sort
  deriving DecidableEq, Repr

/-- The functions of strings. -/
inductive StringFn where
  | charAt | charCodeAt | concat | endsWith | includes | indexOf | repeat | slice | split
  | startsWith | substring | toLowerCase | toUpperCase | trim
  deriving DecidableEq, Repr

/-- The functions of numbers. -/
inductive MathFn where
  | abs | ceil | floor | max | min | pow | round | sign | sqrt | trunc
  deriving DecidableEq, Repr

/-- The built-in functions. -/
inductive Builtin where
  /-- A function of an array. -/
  | onArray (f : ArrayFn)
  /-- A function of a string. -/
  | onString (f : StringFn)
  /-- A function of numbers. -/
  | math (f : MathFn)
  /-- The maker of errors. -/
  | makeError (kind : ErrorKind)
  /-- The text of a value. -/
  | toText
  /-- The value itself. -/
  | valueOf
  /-- Whether an object has a property of its own. -/
  | hasOwn
  /-- The function `Object`. -/
  | object
  /-- The keys of an object. -/
  | keys
  /-- The values of an object. -/
  | values
  /-- The function `Array`. -/
  | array
  /-- Whether a value is an array. -/
  | isArray
  /-- The function `String`. -/
  | string
  /-- The function `Number`. -/
  | number
  /-- The function `Boolean`. -/
  | boolean
  deriving DecidableEq, Repr

/-- The values. -/
inductive Value where
  /-- The value of what has none. -/
  | undefined
  /-- The missing object. -/
  | null
  /-- A boolean. -/
  | bool (b : Bool)
  /-- A number. -/
  | num (x : Float)
  /-- An integer of any size. -/
  | bigint (n : Int)
  /-- A string. -/
  | str (u : Units)
  /-- A built-in function. -/
  | builtin (f : Builtin)
  /-- An object, by its place in the world. -/
  | object (place : Nat)

instance : Inhabited Value := ⟨.undefined⟩

/-- A value given by a string. -/
def Value.ofString (s : String) : Value :=
  .str (Units.ofString s)

/-- What a property holds. -/
inductive Slot where
  /-- A value. -/
  | value (v : Value)
  /-- Functions that read and write it. -/
  | accessor (getter setter : Option Value)

/-- What kind of object an object is. -/
inductive Body where
  /-- An object with nothing but properties. -/
  | plain
  /-- An object that also has a name, under a key that is no string. -/
  | named (name : String)
  /-- An array; items may be missing. -/
  | array (items : Array (Option Value))
  /-- A function, with the scope and the object `this` around it. -/
  | function (f : Func) (scope : Nat) (this : Value)
  /-- An error. -/
  | error (kind : ErrorKind)

/-- An object. -/
structure Object where
  /-- Its kind. -/
  body : Body
  /-- Its properties in the order in which they were made. -/
  slots : List (Units × Slot)

instance : Inhabited Object := ⟨⟨.plain, []⟩⟩

namespace Object

/-- A property. -/
def slot? (o : Object) (key : Units) : Option Slot :=
  (o.slots.find? fun p => p.1 == key).map (·.2)

/-- Writes an entry over the entry with its key, or behind all others. -/
def write {κ α : Type} [BEq κ] (key : κ) (a : α) : List (κ × α) → List (κ × α)
  | [] => [(key, a)]
  | p :: rest => if p.1 == key then (key, a) :: rest else p :: write key a rest

/-- The object with a property written. -/
def put (o : Object) (key : Units) (s : Slot) : Object :=
  { o with slots := write key s o.slots }

/-- The object without a property. -/
def remove (o : Object) (key : Units) : Object :=
  { o with slots := o.slots.filter fun p => p.1 != key }

end Object

/-- A variable. Before its declaration has run it has no value. -/
structure Variable where
  /-- Its value. -/
  value : Option Value
  /-- It cannot be written. -/
  constant : Bool

/-- The variables of a block or a function. -/
structure Scope where
  /-- The variables. -/
  vars : List (String × Variable)
  /-- The scope around. -/
  outer : Option Nat

instance : Inhabited Scope := ⟨⟨[], none⟩⟩

/-- All that a program can change. The object at place zero holds the global variables, and the
scope at place zero those that are declared for the outermost block. -/
structure World where
  /-- The objects. -/
  objects : Array Object
  /-- The scopes. -/
  scopes : Array Scope
  /-- The rounds of loops that are left. -/
  rounds : Nat
  /-- The nested calls that are left. -/
  calls : Nat

/-- Why a program stops before its end. -/
inductive Stop where
  /-- A value was thrown. -/
  | thrown (v : Value)
  /-- A limit was reached. -/
  | limit (text : String)

/-- Computations of a running program. -/
abbrev Eval := EStateM Stop World

/-- What a program may use. -/
structure Limits where
  /-- The rounds of loops. -/
  rounds : Nat
  /-- The depth of calls. -/
  calls : Nat
  /-- The greatest length of an array. -/
  items : Nat

/-- The limits of scripts. -/
def limits : Limits := ⟨10000000, 512, 10000000⟩

namespace Eval

/-- An object. -/
def object (place : Nat) : Eval Object := do
  return (← get).objects.getD place default

/-- Makes an object. -/
def make (o : Object) : Eval Value :=
  modifyGet fun w => (.object w.objects.size, { w with objects := w.objects.push o })

/-- Changes an object. -/
def change (place : Nat) (f : Object → Object) : Eval Unit :=
  modify fun w => { w with objects := w.objects.modify place f }

/-- Makes an array. -/
def makeArray (items : List Value) : Eval Value :=
  make ⟨.array (items.map some).toArray, []⟩

/-- Throws an error. -/
def fail {α : Type} (kind : ErrorKind) (text : String) : Eval α := do
  let e ← make ⟨.error kind, [(Units.ofString "message", .value (.ofString text))]⟩
  throw (.thrown e)

/-- Counts a round of a loop. -/
def countRound : Eval Unit := do
  let w ← get
  match w.rounds with
  | 0 =>
    throw (.limit
      ("RuntimeLimit: Maximum loop iteration limit " ++ toString limits.rounds ++ " exceeded"))
  | n + 1 => set { w with rounds := n }

/-- Runs a call one level deeper. -/
def deeper {α : Type} (m : Eval α) : Eval α := do
  let w ← get
  match w.calls with
  | 0 =>
    throw (.limit
      ("RuntimeLimit: Maximum recursion limit " ++ toString limits.calls ++ " exceeded"))
  | n + 1 =>
    set { w with calls := n }
    let a ← tryCatch m fun e => do
      modify fun w => { w with calls := n + 1 }
      throw e
    modify fun w => { w with calls := n + 1 }
    return a

/-- Opens a scope. -/
def openScope (outer : Nat) (vars : List (String × Variable)) : Eval Nat :=
  modifyGet fun w => (w.scopes.size, { w with scopes := w.scopes.push ⟨vars, some outer⟩ })

/-- Declares a variable of a scope. -/
def declare (scope : Nat) (name : String) (v : Variable) : Eval Unit :=
  modify fun w => { w with scopes := w.scopes.modify scope fun s =>
    { s with vars := Object.write name v s.vars } }

/-- The scope that has a variable, from a scope outward. The fuel is the number of scopes. -/
def findScope (scopes : Array Scope) (name : String) : Nat → Nat → Option (Nat × Variable)
  | 0, _ => none
  | fuel + 1, scope =>
    let s := scopes.getD scope default
    match s.vars.lookup name with
    | some v => some (scope, v)
    | none => s.outer.bind (findScope scopes name fuel)

/-- The scope that has a variable. -/
def scopeOf? (scope : Nat) (name : String) : Eval (Option (Nat × Variable)) := do
  let w ← get
  return findScope w.scopes name w.scopes.size scope

end Eval

end ScriptStage.JavaScript
