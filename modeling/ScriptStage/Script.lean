import ScriptStage.Duration
import ScriptStage.Variables

/-!
# Scripts that can be run

A script is run with bindings. What it answers may depend on its earlier runs, for it may keep an
interpreter alive between them. An executor makes scripts of texts in one language.

## Main definitions

* `ScriptStage.Attempt`: how a run ends and when.
* `ScriptStage.Past`: an earlier run.
* `ScriptStage.Script`: a script; `Script.ofFunction` and `Script.ofMachine` make one.
* `ScriptStage.Executor`: what turns texts into scripts.
-/

set_option autoImplicit false

namespace ScriptStage

/-- How a run ends. -/
inductive Attempt where
  /-- It ends after some time with a result. -/
  | finished (after : Duration) (result : Except Failure Json)
  /-- It never ends. -/
  | pending

namespace Attempt

/-- A run that ends at once. -/
def now (result : Except Failure Json) : Attempt :=
  .finished .zero result

/-- The run with its failure changed. -/
def mapFailure (f : Failure → Failure) : Attempt → Attempt
  | finished after result => .finished after (result.mapError f)
  | pending => .pending

/-- How the run ends for one who waits no longer than a limit: a run that ends exactly at the
limit is not late. -/
def within (limit : Duration) : Attempt → Option (Except Failure Json)
  | finished after result => if after ≤ limit then some result else none
  | pending => none

/-- How the run ends for one who waits as long as it takes. -/
def outcome? : Attempt → Option (Except Failure Json)
  | finished _ result => some result
  | pending => none

end Attempt

/-- An earlier run of a script. -/
structure Past where
  /-- What the script saw. -/
  bindings : Bindings
  /-- Whether the run was left to end. -/
  completed : Bool

/-- A script that can be run. -/
structure Script where
  /-- How a run ends, given the earlier runs, oldest first, and what the script sees. -/
  respond : List Past → Bindings → Attempt

namespace Script

/-- A script that keeps nothing between its runs. -/
def ofFunction (f : Bindings → Except Failure Json) : Script where
  respond := fun _ b => .now (f b)

/-- A script that keeps a state between its runs. A run that is not left to end leaves the state
that `dropped` gives. -/
def ofMachine {σ : Type} (start : σ) (step : σ → Bindings → σ × Attempt) (dropped : σ → σ) :
    Script where
  respond := fun past b =>
    let state := past.foldl
      (fun s p => if p.completed then (step s p.bindings).1 else dropped s) start
    (step state b).2

end Script

/-- What turns texts in one language into scripts. -/
structure Executor where
  /-- The identifier of the language. -/
  language : String
  /-- The script of a text. -/
  compile : String → Except Failure Script

end ScriptStage
