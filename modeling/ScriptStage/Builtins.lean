import ScriptStage.Engine.JavaScript
import ScriptStage.Engine.Python
import ScriptStage.Engine.Rhai
import ScriptStage.Language
import ScriptStage.Registry
import ScriptStage.Worker.Program

/-!
# Built-in executors

JavaScript and Rhai run inside of the library. The other languages run in interpreters, of which
that for Python is installed under its usual name.

## Main definitions

* `ScriptStage.Language.executor`: the executor of a language.
* `ScriptStage.Registry.builtins`: the registry of all of them.
* `ScriptStage.Registry.withInterpreter`: the registry with another interpreter for a language.
-/

set_option autoImplicit false

namespace ScriptStage

namespace Language

/-- The program that runs scripts of a language, for languages that an interpreter runs. -/
def defaultProgram? : Language → Option String
  | python => some "python3"
  | ruby => some "ruby"
  | groovy => some "groovy"
  | javascript | rhai => none

/-- The installed programs that speak the protocol for a language. -/
def installed : Language → List (String × Worker.Behaviour)
  | python => [("python3", Python.engine.behaviour)]
  | _ => []

/-- The interpreter of a language, run by a program. -/
def interpreter (l : Language) (fs : Files.Storage) (program : String) : Worker.Interpreter where
  language := l.name
  program := program
  launch := Worker.launch fs l.installed program

/-- The built-in executor of a language. -/
def executor (l : Language) (fs : Files.Storage) : Executor :=
  match l with
  | javascript => JavaScript.engine.executor
  | rhai => Rhai.engine.executor
  | python => (python.interpreter fs "python3").executor
  | ruby => (ruby.interpreter fs "ruby").executor
  | groovy => (groovy.interpreter fs "groovy").executor

end Language

namespace Registry

/-- The registry of all built-in executors under all their names. -/
def builtins (fs : Files.Storage) : Registry :=
  Language.all.foldl (fun r l => r.register l.aliases (l.executor fs)) empty

/-- The notice about a language that no interpreter runs. -/
def noInterpreter (name : String) : Notice :=
  .warning ("Cannot set an interpreter for '" ++ name ++ "': not a process-backed language")

/-- The registry in which a program runs the scripts of a language, under all its names. -/
def withInterpreter (r : Registry) (fs : Files.Storage) (name program : String) :
    Registry × List Notice :=
  match Language.ofAlias? name with
  | none => (r, [noInterpreter name])
  | some l =>
    if l.defaultProgram?.isSome then
      (r.register l.aliases (l.interpreter fs program).executor, [])
    else (r, [noInterpreter name])

end Registry

end ScriptStage
