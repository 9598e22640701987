import ScriptStage.Embedded.Operation
import ScriptStage.Json.Basic

/-!
# Running JavaScript in an engine

A script is compiled by checking its grammar. Each run starts in a context of its own, in which the
bindings are defined as global variables, and its result is the value of the last expression that
ran as a statement. Whatever the engine reports is a failure of the script.

## Main definitions

* `ScriptStage.JavaScript.Engine`: the engines.
* `ScriptStage.JavaScript.Engine.resultOf`: the JSON value of a result.
* `ScriptStage.JavaScript.Engine.evaluate`: a run of a script.
* `ScriptStage.JavaScript.Engine.executor`: the executor with an engine.
-/

set_option autoImplicit false

namespace ScriptStage.JavaScript

open Embedded

/-- What a value is to one who wants JSON. -/
inductive View where
  /-- It is undefined or null. -/
  | nothing
  /-- A number. -/
  | number (x : Float)
  /-- A boolean. -/
  | flag (b : Bool)
  /-- A string, with what is no text in it escaped. -/
  | text (s : String)
  /-- Anything else. -/
  | other

/-- **An engine that runs JavaScript.** -/
structure Engine where
  /-- The contexts in which scripts run. -/
  Context : Type
  /-- The values. -/
  Value : Type
  /-- The errors. -/
  Error : Type
  /-- What is wrong with the grammar of a text, if anything is. -/
  check : String → Except String Unit
  /-- The context in which a run starts. It holds the limits of the run. -/
  fresh : Context
  /-- The value that stands for a JSON value. -/
  fromJson : Json → Operation Context Error Value
  /-- Defines a global variable. -/
  define : String → Value → Operation Context Error Unit
  /-- Runs a text. -/
  eval : String → Operation Context Error Value
  /-- What a value is. -/
  view : Value → View
  /-- The JSON value of a value. -/
  toJson : Value → Operation Context Error Json
  /-- The text of an error that the engine itself makes, or of one that can be taken for such. -/
  native? : Error → StateT Context Outcome (Option String)
  /-- The text of an error. -/
  display : Error → String

namespace Engine

variable (h : Engine)

/-- The text by which an error is told. -/
def errorText (e : h.Error) : StateT h.Context Outcome String := do
  match ← h.native? e with
  | some text => return text
  | none => return h.display e

/-- Defines bindings as global variables. -/
def defineAll : List (String × Json) → Operation h.Context Failure Unit
  | [] => return ()
  | (name, v) :: rest => do
    let x ← (h.fromJson v).told h.errorText
    (h.define name x).told h.errorText
    defineAll rest

/-- The JSON value of a result. -/
def resultOf (v : h.Value) : Operation h.Context Failure Json :=
  match h.view v with
  | .nothing => return .null
  | .number x => return .ofResult x
  | .flag b => return .bool b
  | .text s => return .str s
  | .other => do
    let j ← (h.toJson v).told h.errorText
    return j.normalize

/-- A run of a text with bindings. -/
def evaluate (text : String) (b : Bindings) : Operation h.Context Failure Json := do
  h.defineAll b.entries
  let v ← (h.eval text).told h.errorText
  h.resultOf v

/-- The script of a text. -/
def compile (text : String) : Except Failure Script :=
  match h.check text with
  | .error why => .error (.configuration ("Failed to compile javascript script: " ++ why))
  | .ok () => .ok (script "javascript runtime task failed: " h.fresh (h.evaluate text))

/-- The executor with the engine. -/
def executor : Executor := ⟨"javascript", h.compile⟩

end Engine

end ScriptStage.JavaScript
