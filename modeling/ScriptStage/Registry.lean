import ScriptStage.Language
import ScriptStage.Notice
import ScriptStage.Script

/-!
# Registries of executors

A registry finds executors by identifiers, compared without regard to the case of ASCII letters.
A later registration replaces an earlier one under the same identifier.

## Main definitions

* `ScriptStage.Registry`: a registry; `register`, `get?`, `contains`, `languages`.
-/

set_option autoImplicit false

namespace ScriptStage

/-- Executors under identifiers in lower case. -/
structure Registry where
  /-- The executors. -/
  executors : Dict Executor

namespace Registry

/-- The registry without executors. -/
def empty : Registry := ⟨.empty⟩

/-- Registers an executor under each of some identifiers. -/
def register (r : Registry) (names : List String) (e : Executor) : Registry :=
  ⟨names.foldl (fun d name => d.insert (lowerCase name) e) r.executors⟩

/-- The executor under an identifier. -/
def get? (r : Registry) (name : String) : Option Executor :=
  r.executors.get? (lowerCase name)

/-- Whether there is an executor under an identifier. -/
def contains (r : Registry) (name : String) : Bool :=
  r.executors.contains (lowerCase name)

/-- All identifiers in ascending order. -/
def languages (r : Registry) : List String :=
  r.executors.keys

end Registry

end ScriptStage
