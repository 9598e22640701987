import ScriptStage.Embedded.Operation

/-!
# Running Rhai in an engine

A script is compiled once. Each run starts with the bindings as its variables, and its result is the
value of the last statement. Whatever the engine reports is a failure of the script.

## Main definitions

* `ScriptStage.Rhai.Engine`: the engines.
* `ScriptStage.Rhai.Engine.evaluate`: a run of a program.
* `ScriptStage.Rhai.Engine.executor`: the executor with an engine.
-/

set_option autoImplicit false

namespace ScriptStage.Rhai

open Embedded

/-- **An engine that runs Rhai.** All its errors have texts. -/
structure Engine where
  /-- The programs. -/
  Program : Type
  /-- The variables that a program sees. -/
  Scope : Type
  /-- The values. -/
  Value : Type
  /-- The program of a text. -/
  compile : String → Except String Program
  /-- No variables. -/
  empty : Scope
  /-- Adds a variable. -/
  push : String → Value → Scope → Scope
  /-- The value that stands for a JSON value. -/
  toDynamic : Json → Outcome (Except String Value)
  /-- Runs a program. -/
  eval : Program → Operation Scope String Value
  /-- The value that is none. -/
  isUnit : Value → Bool
  /-- The JSON value of a value. -/
  fromDynamic : Value → Outcome (Except String Json)

namespace Engine

variable (h : Engine)

/-- Adds bindings to the variables. -/
def bindAll : List (String × Json) → Operation h.Scope Failure Unit
  | [] => return ()
  | (name, v) :: rest => do
    let x ← (Operation.ofOutcome (h.toDynamic v)).told fun e =>
      return "Cannot bind '" ++ name ++ "': " ++ e
    modify (h.push name x)
    bindAll rest

/-- The JSON value of a result. -/
def resultOf (v : h.Value) : Operation h.Scope Failure Json :=
  if h.isUnit v then return .null
  else (Operation.ofOutcome (h.fromDynamic v)).told fun e =>
    return "Cannot convert rhai result: " ++ e

/-- A run of a program with bindings. -/
def evaluate (p : h.Program) (b : Bindings) : Operation h.Scope Failure Json := do
  h.bindAll b.entries
  let v ← (h.eval p).told pure
  h.resultOf v

/-- The script of a text. -/
def compileScript (text : String) : Except Failure Script :=
  match h.compile text with
  | .error why => .error (.configuration ("Failed to compile rhai script: " ++ why))
  | .ok p => .ok (script "rhai runtime task failed: " h.empty (h.evaluate p))

/-- The executor with the engine. -/
def executor : Executor := ⟨"rhai", h.compileScript⟩

end Engine

end ScriptStage.Rhai
