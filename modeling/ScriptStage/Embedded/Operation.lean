import ScriptStage.Script

/-!
# Engines inside of the library

Some scripts run in an engine that is part of the program, on a thread of their own. All that the
library knows of an engine are the operations that it calls. An operation returns a value or an
error and may change the state of the engine either way; it may also panic, which ends the thread,
or never return.

## Main definitions

* `ScriptStage.Embedded.Outcome`: how a computation on the thread ends.
* `ScriptStage.Embedded.Operation`: computations that return a value or an error.
* `ScriptStage.Embedded.Operation.told`: the computation whose errors are failures of the script.
* `ScriptStage.Embedded.script`: the script that each run computes on a thread of its own.
-/

set_option autoImplicit false

namespace ScriptStage.Embedded

/-- How a computation on the thread ends. -/
inductive Outcome (α : Type) where
  /-- It returns. -/
  | returned (v : α)
  /-- It panics with this text. -/
  | panicked (text : String)
  /-- It never ends. -/
  | stuck

/-- The outcome of a computation and another one behind it. -/
def Outcome.bind {α β : Type} (x : Outcome α) (f : α → Outcome β) : Outcome β :=
  match x with
  | returned v => f v
  | panicked text => panicked text
  | stuck => stuck

instance : Monad Outcome where
  pure := .returned
  bind := .bind

/-- Computations on an engine with a state, which return a value or an error. -/
abbrev Operation (σ ε α : Type) := ExceptT ε (StateT σ Outcome) α

namespace Operation

variable {σ ε α : Type}

/-- The computation that leaves the state alone. -/
def ofOutcome (x : Outcome (Except ε α)) : Operation σ ε α :=
  .mk (StateT.lift x)

/-- The computation whose errors are failures of the script, told in the state that the error leaves
behind. -/
def told (tell : ε → StateT σ Outcome String) (x : Operation σ ε α) : Operation σ Failure α :=
  .mk do
    match ← x.run with
    | .ok v => return .ok v
    | .error e => return .error (.script (← tell e))

/-- How a run ends that is such a computation from a state on. The text of a panic follows another
one. -/
def attempt (lost : String) (start : σ) (x : Operation σ Failure Json) : Attempt :=
  match x.run.run start with
  | .returned (result, _) => .now result
  | .panicked text => .now (.error (.script (lost ++ text)))
  | .stuck => .pending

end Operation

/-- A script that keeps nothing: each run is a computation from the same state on. -/
def script {σ : Type} (lost : String) (start : σ) (run : Bindings → Operation σ Failure Json) :
    Script where
  respond := fun _ b => (run b).attempt lost start

end ScriptStage.Embedded
