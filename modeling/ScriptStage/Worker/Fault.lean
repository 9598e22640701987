import ScriptStage.Failure.Basic
import ScriptStage.Files.Storage
import ScriptStage.Json.Fault
import ScriptStage.Text.Blank
import ScriptStage.Worker.Process

/-!
# What goes wrong with a worker

## Main definitions

* `ScriptStage.Worker.StartFault`: why an interpreter cannot be started.
* `ScriptStage.Worker.Fault`: why a worker is of no use; `Fault.failure` is the failure that
  users see.
-/

set_option autoImplicit false

namespace ScriptStage.Worker

/-- Why an interpreter cannot be started. -/
inductive StartFault where
  /-- The program cannot be used. -/
  | unusable (e : Files.FileError)
  /-- The name of the program has the character with number zero. -/
  | nulInProgram
  /-- The process is started, but without streams to it. -/
  | noPipes
  deriving DecidableEq, Repr

namespace StartFault

/-- The text for a program that does not start. -/
def refused (language program reason : String) : String :=
  "Failed to start " ++ language ++ " interpreter '" ++ program ++ "': " ++ reason

/-- The wording of a start fault of a language's interpreter. -/
def message (language program : String) : StartFault → String
  | unusable e => refused language program e.message
  | nulInProgram => refused language program "nul byte found in provided data"
  | noPipes => language ++ " interpreter has no stdio pipes"

end StartFault

/-- Why a worker is of no use. The status is missing while the process runs. -/
inductive Fault where
  /-- It cannot be started. -/
  | notStarted (why : StartFault)
  /-- A request cannot be written. -/
  | notWritten (status : Option ExitStatus)
  /-- No reply comes. -/
  | noReply (status : Option ExitStatus)
  /-- A reply is no text. -/
  | unreadable (status : Option ExitStatus) (how : Text.Malformed)
  /-- A reply is no reply of the protocol. -/
  | invalidReply (why : Json.Fault) (line : List Char)
  /-- The script does not compile. -/
  | notCompiled (text : String)

namespace Fault

/-- The wording of a status. -/
def describeStatus : Option ExitStatus → String
  | some s => s.message
  | none => "still running"

/-- The text for a worker that failed. -/
def failed (language : String) (status : Option ExitStatus) (reason : String) : String :=
  language ++ " interpreter failed (" ++ describeStatus status ++ "): " ++ reason

/-- The wording of a fault of a language's interpreter. -/
def message (language program : String) : Fault → String
  | notStarted why => why.message language program
  | notWritten status =>
    failed language status "request could not be written: Broken pipe (os error 32)"
  | noReply status => failed language status "no reply"
  | unreadable status how =>
    failed language status ("reply could not be read: " ++ how.message)
  | invalidReply why line =>
    language ++ " interpreter sent an invalid reply (" ++ why.message ++ "): "
      ++ String.ofList (Text.trimEnd line)
  | notCompiled text => language ++ " script failed to compile: " ++ text

/-- The failure that users see. -/
def failure (language program : String) (f : Fault) : Failure :=
  .script (f.message language program)

end Fault

end ScriptStage.Worker
