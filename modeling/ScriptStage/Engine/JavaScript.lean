import ScriptStage.Embedded.JavaScript
import ScriptStage.Engine.JavaScriptParser
import ScriptStage.Engine.JavaScriptRun

/-!
# An engine for JavaScript

The engine that runs scripts in JavaScript, as far as scripts use it.

## Main definitions

* `ScriptStage.JavaScript.RunFault`: its errors.
* `ScriptStage.JavaScript.ofJson`, `ScriptStage.JavaScript.toJson`: JSON values in and out.
* `ScriptStage.JavaScript.engine`: the engine.
-/

set_option autoImplicit false

namespace ScriptStage.JavaScript

open Embedded (Outcome Operation)

/-- Why an operation fails. -/
inductive RunFault where
  /-- The text is no program. -/
  | grammar (text : String)
  /-- A binding has the name of a variable that cannot be redefined. -/
  | fixedVariable (name : String)
  /-- The program stopped. -/
  | stopped (s : Stop)
  /-- The result has an integer of any size. -/
  | bigint
  /-- The result has a property whose key is no string. -/
  | symbol

/-- How a thrown value is shown. -/
def shown : Value → String
  | .str u => "\"" ++ Units.toText u ++ "\""
  | .bigint n => toString n ++ "n"
  | .object _ => "[object]"
  | v => Units.toText (primitiveUnits v)

/-- The text of an object that is an error. -/
def errorText? (o : Object) : Option String :=
  match o.body, o.slot? (Units.ofString "message") with
  | .error kind, some (.value (.str text)) =>
    some (if text.isEmpty then kind.name else kind.name ++ ": " ++ Units.toText text)
  | .error kind, _ => some kind.name
  | _, _ => none

/-- The wording of a fault. -/
def RunFault.message : RunFault → String
  | grammar text => text
  | fixedVariable name => "TypeError: cannot redefine property: " ++ name
  | stopped (.limit text) => text
  | stopped (.thrown v) => shown v
  | bigint => "TypeError: cannot convert bigint to JSON"
  | symbol => "TypeError: cannot convert Symbol to JSON"

/-- The wording of a fault that is no thrown value, or a thrown error. -/
def RunFault.native? (w : World) : RunFault → Option String
  | stopped (.thrown (.object place)) => errorText? (w.objects.getD place default)
  | stopped (.thrown _) => none
  | f => some f.message

mutual

/-- The value that stands for a JSON value. -/
def ofJson : Json → Eval Value
  | .null => return .null
  | .bool b => return .bool b
  | .num (.int n _) => return .num (Float.ofInt n)
  | .num (.float x _) => return .num x
  | .str s => return .ofString s
  | .arr items => do Eval.makeArray (← ofItems items)
  | .obj fields => do Eval.make ⟨.plain, ← ofFields fields⟩

/-- The values that stand for the items of an array. -/
def ofItems : List Json → Eval (List Value)
  | [] => return []
  | v :: vs => do
    let x ← ofJson v
    return x :: (← ofItems vs)

/-- The properties that stand for the fields of an object. -/
def ofFields : List (String × Json) → Eval (List (Units × Slot))
  | [] => return []
  | (k, v) :: fs => do
    let x ← ofJson v
    return (Units.ofString k, .value x) :: (← ofFields fs)

end

/-- The JSON value of a value inside a result. Missing items and properties that are read by
functions become null; the engine panics where JSON has no value. The fuel bounds how deep objects
nest; one more than their number is always enough, unless an object contains itself. -/
def toJson (objects : Array Object) : Nat → Value → ExceptT RunFault Outcome Json
  | 0, _ => unrepresentable
  | fuel + 1, v =>
    match v with
    | .undefined | .builtin _ => unrepresentable
    | .null => return .null
    | .bool b => return .bool b
    | .num x => return Json.ofFloat x
    | .bigint _ => throw .bigint
    | .str u => return .str (Units.toText u)
    | .object place =>
      let o := objects.getD place default
      match o.body with
      | .array items => do
        let item : Option Value → ExceptT RunFault Outcome Json
          | some v => toJson objects fuel v
          | none => return .null
        return .arr (← items.toList.mapM item)
      | .function _ _ _ => unrepresentable
      | .named _ => throw .symbol
      | _ => do
        let field : Units × Slot → ExceptT RunFault Outcome (String × Json)
          | (key, .value v) => return (Units.toText key, ← toJson objects fuel v)
          | (key, .accessor _ _) => return (Units.toText key, .null)
        return Json.ofDict (Dict.ofList (← o.slots.mapM field))
where
  /-- There is no JSON value. -/
  unrepresentable : ExceptT RunFault Outcome Json := .mk (.panicked "no JSON value")

/-- What a value is. -/
def view : Value → View
  | .undefined | .null => .nothing
  | .num x => .number x
  | .bool b => .flag b
  | .str u => .text (Units.toText u)
  | _ => .other

/-- The world before the bindings are defined. -/
def World.initial : World where
  objects := #[⟨.plain, globals.map fun g => (Units.ofString g.1, .value g.2)⟩, mathObject]
  scopes := #[⟨[], none⟩]
  rounds := limits.rounds
  calls := limits.calls

/-- A computation of a program as an operation of the engine. -/
def operation {α : Type} (x : Eval α) : Operation World RunFault α :=
  .mk fun w =>
    match x.run w with
    | .ok v w => .returned (.ok v, w)
    | .error s w => .returned (.error (.stopped s), w)

/-- Defines a global variable. -/
def define (name : String) (x : Value) : Operation World RunFault Unit :=
  if (constants.lookup name).isSome then throw (.fixedVariable name)
  else operation (Eval.change 0 fun o => o.put (Units.ofString name) (.value x))

/-- Runs a text. -/
def evalText (text : String) : Operation World RunFault Value :=
  match program text with
  | .error fault => throw (.grammar fault.message)
  | .ok body => operation (runProgram body)

/-- The engine. -/
def engine : Engine where
  Context := World
  Value := Value
  Error := RunFault
  check := fun text => ((program text).mapError SyntaxFault.message).map fun _ => ()
  fresh := .initial
  fromJson := fun v => operation (ofJson v)
  define := define
  eval := evalText
  view := view
  toJson := fun v => do
    let objects := (← get).objects
    Operation.ofOutcome (toJson objects (objects.size + 1) v)
  native? := fun f => return f.native? (← get)
  display := RunFault.message

end ScriptStage.JavaScript
