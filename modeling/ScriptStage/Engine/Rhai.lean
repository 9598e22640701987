import ScriptStage.Embedded.Rhai
import ScriptStage.Engine.RhaiParser
import ScriptStage.Engine.RhaiRun

/-!
# An engine for Rhai

The engine that runs scripts in Rhai, as far as scripts use it.

## Main definitions

* `ScriptStage.Rhai.ofJson`, `ScriptStage.Rhai.toJson?`: JSON values in and out.
* `ScriptStage.Rhai.engine`: the engine.
-/

set_option autoImplicit false

namespace ScriptStage.Rhai

open Embedded (Operation)

/-- Why a result is no JSON value. -/
inductive ResultFault where
  /-- It has a value of a type that JSON does not have. -/
  | unrepresentable (type : String)
  /-- It has bytes, which JSON does not have. -/
  | bytes

/-- The wording of a fault. -/
def ResultFault.message : ResultFault → String
  | unrepresentable type =>
    "Output type incorrect: " ++ type ++ " (expecting serde_json::value::Value)"
  | bytes => "Syntax error: invalid type: byte array, expected any valid JSON value"

mutual

/-- The value that stands for a JSON value. An integer that 64 bits with a sign do not hold becomes
a number with a fraction. -/
def ofJson : Json → Value
  | .null => .unit
  | .bool b => .bool b
  | .num (.int n _) => if n ≤ intMax then .int n else .float (Float.ofInt n)
  | .num (.float x _) => .float x
  | .str s => .str s
  | .arr items => .array (ofItems items)
  | .obj fields => .map (ofFields fields)

/-- The values that stand for the items of an array. -/
def ofItems : List Json → List Value
  | [] => []
  | v :: vs => ofJson v :: ofItems vs

/-- The values that stand for the fields of an object. -/
def ofFields : List (String × Json) → List (String × Value)
  | [] => []
  | (k, v) :: fs => (k, ofJson v) :: ofFields fs

end

mutual

/-- The JSON value of a result. -/
def toJson? : Value → Except ResultFault Json
  | .unit => .ok .null
  | .bool b => .ok (.bool b)
  | .int n => .ok (Json.ofInt n)
  | .float x => .ok (Json.ofFloat x)
  | .char c => .ok (.str (String.singleton c))
  | .str s => .ok (.str s)
  | .array items => (toItems? items).map .arr
  | .map fields => (toFields? fields).map .obj
  | .closure _ _ _ => .error (.unrepresentable "Fn")
  | .range _ _ false => .error (.unrepresentable "Range<i64>")
  | .range _ _ true => .error (.unrepresentable "RangeInclusive<i64>")
  | .blob _ => .error .bytes

/-- The JSON values of items. -/
def toItems? : List Value → Except ResultFault (List Json)
  | [] => .ok []
  | v :: vs => do
    let j ← toJson? v
    return j :: (← toItems? vs)

/-- The JSON values of fields. -/
def toFields? : List (String × Value) → Except ResultFault (List (String × Json))
  | [] => .ok []
  | (k, v) :: fs => do
    let j ← toJson? v
    return (k, j) :: (← toFields? fs)

end

/-- The world before a program runs with variables. -/
def World.initial (vars : List Variable) : World where
  vars := vars
  operations := maxOperations
  calls := maxCalls

/-- Runs a program. -/
def evalProgram (p : Program) : Operation (List Variable) String Value :=
  .mk fun vars =>
    match (runProgram p).run (.initial vars) with
    | .ok v w => .returned (.ok v, w.vars)
    | .error (.fault f) w => .returned (.error f.message, w.vars)
    | .error _ w => .returned (.ok .unit, w.vars)

/-- The engine. -/
def engine : Engine where
  Program := Program
  Scope := List Variable
  Value := Value
  compile := fun text => (program text).mapError SyntaxFault.message
  empty := []
  push := fun name v vars => ⟨name, v, false⟩ :: vars
  toDynamic := fun v => pure (.ok (ofJson v))
  eval := evalProgram
  isUnit := fun
    | .unit => true
    | _ => false
  fromDynamic := fun v => pure ((toJson? v).mapError ResultFault.message)

end ScriptStage.Rhai
