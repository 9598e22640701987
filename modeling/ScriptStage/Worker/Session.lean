import ScriptStage.Notice
import ScriptStage.Script
import ScriptStage.Worker.Fault
import ScriptStage.Worker.Protocol

/-!
# Sessions with a worker

A script that an interpreter runs has a slot for one worker. A run takes the worker out of the
slot, or starts one and has it compile the script; it sends the bindings and waits for the reply.
Only a worker that gave a well-formed reply goes back into the slot.

## Main definitions

* `ScriptStage.Worker.exchange`: one request and its reply.
* `ScriptStage.Worker.Interpreter`: what starts workers of a language.
* `ScriptStage.Worker.Interpreter.startWorker`: a worker that has compiled a script.
* `ScriptStage.Worker.Interpreter.run`: a run of a script.
* `ScriptStage.Worker.Interpreter.executor`: the executor of an interpreter.
-/

set_option autoImplicit false

namespace ScriptStage.Worker

/-- What comes of a request. -/
inductive Exchange where
  /-- A well-formed reply, and the worker that gave it. -/
  | replied (reply : Reply) (worker : Process)
  /-- The worker is of no more use. -/
  | broken (fault : Fault)
  /-- The worker never answers. -/
  | stuck

/-- The reply in a line of bytes, or why the worker that wrote it is of no more use. -/
def readReply (status : Option ExitStatus) (bytes : List UInt8) : Except Fault Reply :=
  match Text.decode bytes with
  | .error how => .error (.unreadable status how)
  | .ok line => (Reply.parse line).mapError fun why => .invalidReply why line

/-- Sends a request to a worker and waits for its reply. There is no waiting if the output of the
worker was closed before, so that it is not seen to end upon the request.

Every request has a line, so that none fails before it is sent: a request is made of texts, doubles
that are finite and objects whose keys are texts, and JSON has all of these. -/
def exchange (worker : Process) (request : Request) : Exchange :=
  match worker.send request.line with
  | none => .broken (.notWritten worker.status)
  | some later =>
    let status := if worker.outputOpen then later.status else worker.status
    match later.receive with
    | (.nothing, _) => .stuck
    | (.closed, _) => .broken (.noReply status)
    | (.line bytes, worker) =>
      match readReply status bytes with
      | .error fault => .broken fault
      | .ok reply => .replied reply worker

/-- What starts workers of a language. -/
structure Interpreter where
  /-- The identifier of the language. -/
  language : String
  /-- The program that is started. -/
  program : String
  /-- The process that the program becomes. -/
  launch : Except StartFault Process

/-- How far a run has come once it is over. -/
structure RunEnd where
  /-- The worker that is left in the slot. -/
  slot : Option Process
  /-- What operators are told. -/
  notices : List Notice
  /-- How the run ended. -/
  attempt : Attempt

namespace Interpreter

/-- A worker that has compiled a script. -/
def startWorker (i : Interpreter) (script : String) : Exchange :=
  match i.launch with
  | .error why => .broken (.notStarted why)
  | .ok worker =>
    match exchange worker (.compile script) with
    | .replied ⟨result, error⟩ worker =>
      match error with
      | some text => .broken (.notCompiled text)
      | none => .replied ⟨result, none⟩ worker
    | other => other

/-- The failure that users see of a fault. -/
def failure (i : Interpreter) (f : Fault) : Failure :=
  f.failure i.language i.program

/-- The result that a reply stands for. -/
def resultOf (reply : Reply) : Except Failure Json :=
  match reply.error with
  | some text => .error (.script text)
  | none => .ok reply.result

/-- A run on a worker that has compiled the script. -/
def runOn (i : Interpreter) (worker : Process) (b : Bindings) : RunEnd :=
  match exchange worker (.run b) with
  | .replied reply worker => ⟨some worker, [], .now (resultOf reply)⟩
  | .broken fault =>
    let f := i.failure fault
    ⟨none, [.warning ("Discarding " ++ i.language ++ " worker: " ++ f.message)], .now (.error f)⟩
  | .stuck => ⟨none, [], .pending⟩

/-- A run of a script, with the worker in the slot or a new one. -/
def run (i : Interpreter) (script : String) (slot : Option Process) (b : Bindings) : RunEnd :=
  match slot with
  | some worker => i.runOn worker b
  | none =>
    match i.startWorker script with
    | .replied _ worker => i.runOn worker b
    | .broken fault => ⟨none, [], .now (.error (i.failure fault))⟩
    | .stuck => ⟨none, [], .pending⟩

/-- The script of a text. Nothing is started before its first run, so that every text compiles. -/
def script (i : Interpreter) (text : String) : Script :=
  .ofMachine none (fun slot b => let e := i.run text slot b; (e.slot, e.attempt)) fun _ => none

/-- The executor of an interpreter. -/
def executor (i : Interpreter) : Executor where
  language := i.language
  compile := fun text => .ok (i.script text)

/-- Several runs of a script, one after another: how they ended, and what operators were told. -/
def runAll (i : Interpreter) (text : String) :
    Option Process → List Bindings → List Attempt × List Notice
  | _, [] => ([], [])
  | slot, b :: bs =>
    let e := i.run text slot b
    let (attempts, notices) := i.runAll text e.slot bs
    (e.attempt :: attempts, e.notices ++ notices)

end Interpreter

end ScriptStage.Worker
