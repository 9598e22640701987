import ScriptStage.Worker.Session

/-!
# Programs

A program is named by a path, or by a bare name. Programs that are not installed under the name that
is given cannot be started: a bare name is not found, and no other file is a program.

## Main definitions

* `ScriptStage.Worker.launch`: the process that a program becomes.
-/

set_option autoImplicit false

namespace ScriptStage.Worker

/-- Why a path does not name a program. -/
def refusal (fs : Files.Storage) (path : Files.Path) : Files.FileError :=
  match fs.lookup path with
  | .error e => e
  | .ok _ => .permissionDenied

/-- The process that a program becomes, given the behaviours of the installed programs. -/
def launch (fs : Files.Storage) (installed : List (String × Behaviour)) (program : String) :
    Except StartFault Process :=
  let name := program.toList
  if name.contains '\x00' then .error .nulInProgram
  else
    match installed.find? fun e => e.1 = program with
    | some (_, behaviour) => .ok (.start behaviour)
    | none =>
      if name.contains '/' then .error (.unusable (refusal fs program))
      else if Files.componentLimit < Text.byteLength name then .error (.unusable .nameTooLong)
      else .error (.unusable .notFound)

end ScriptStage.Worker
