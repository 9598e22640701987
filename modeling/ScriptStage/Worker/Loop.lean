import ScriptStage.Worker.Document
import ScriptStage.Worker.Process

/-!
# How an interpreter serves requests

An interpreter reads lines. It prepares the script of the first one and says that it is ready, or
reports an error and ends. It answers each further line with a result or an error and goes on. An
error is told by the text of what was raised; the interpreter ends without an answer if asking for
that text raises something else.

## Main definitions

* `ScriptStage.Worker.Raised`: what an operation raises.
* `ScriptStage.Worker.Engine`: what an interpreter can do.
* `ScriptStage.Worker.Answer`: what it writes; `Answer.line` is the line.
* `ScriptStage.Worker.Engine.begin`, `Engine.answer`: how it comes to its answers.
* `ScriptStage.Worker.Stage`: how far it has come; `Engine.step` is what it does upon a line.
* `ScriptStage.Worker.Engine.behaviour`: the process that serves requests so.
-/

set_option autoImplicit false

namespace ScriptStage.Worker

/-- What an operation raises. Texts are units of 16 bits, in which surrogates may stand alone. -/
inductive Raised where
  /-- It is of a kind and has a text. -/
  | shown (kind text : List UInt16)
  /-- It has no text: asking for it raises something else. -/
  | silent (other : Raised)

/-- What is raised with a kind and a text that are strings. -/
def Raised.ofStrings (kind text : String) : Raised :=
  shown (Text.units kind) (Text.units text)

/-- What an interpreter can do. Each operation returns something or raises something, and may change
the state either way. What nobody handles ends the interpreter. -/
structure Engine (σ π ν : Type) where
  /-- The state in which it starts. -/
  start : σ
  /-- Prepares the script of a request. -/
  prepare : List Char → EStateM Raised σ π
  /-- Runs a prepared script on the bindings of a request. -/
  run : π → List Char → EStateM Raised σ ν
  /-- The JSON text of a value. -/
  serialize : ν → EStateM Raised σ (List Char)
  /-- How the interpreter ends upon something that is raised and not handled. -/
  leave : Raised → ExitStatus

/-- What an interpreter writes. -/
inductive Answer where
  /-- The script is prepared. -/
  | ready
  /-- The JSON text of the result of a run. -/
  | result (text : List Char)
  /-- What went wrong. -/
  | error (text : List UInt16)

namespace Answer

/-- An object with one member. -/
def object (key : String) (value : List Char) : List Char :=
  '\x7b' :: (Document.writeString key ++ ':' :: ' ' :: value) ++ ['\x7d']

/-- The JSON text of an answer. -/
def write : Answer → List Char
  | ready => object "ready" (Document.bool true).write
  | result text => object "result" text
  | error text => object "error" (Document.writeUnits text)

/-- The line of an answer. -/
def line (a : Answer) : List Char :=
  a.write ++ ['\n']

end Answer

/-- How far an interpreter has come. -/
inductive Stage (σ π : Type) where
  /-- It waits for the script. -/
  | awaiting (s : σ)
  /-- It has prepared a script. -/
  | ready (p : π) (s : σ)
  /-- It has ended. -/
  | ended (status : ExitStatus)

namespace Engine

variable {σ π ν : Type}

/-- Tells what was raised. -/
def tell : Raised → EStateM Raised σ Answer
  | .shown kind text => return .error (kind ++ Text.units ": " ++ text)
  | .silent other => throw other

/-- Tells why a value has no JSON text. -/
def tellUnserialized : Raised → EStateM Raised σ Answer
  | .shown _ text => return .error (Text.units "Cannot serialize result: " ++ text)
  | .silent other => throw other

/-- The answer with a value. -/
def report (e : Engine σ π ν) (v : ν) : EStateM Raised σ Answer :=
  tryCatch (do return .result (← e.serialize v)) tellUnserialized

/-- The answer to a request with bindings. What is raised by the telling of why a value has no JSON
text is told like all else. -/
def answer (e : Engine σ π ν) (p : π) (line : List Char) : EStateM Raised σ Answer :=
  tryCatch (do e.report (← e.run p line)) tell

/-- The script of the first request, if it can be prepared, and the answer. -/
def begin (e : Engine σ π ν) (line : List Char) : EStateM Raised σ (Option π × Answer) :=
  tryCatch (do return (some (← e.prepare line), .ready)) fun r => do return (none, ← tell r)

/-- The code with which the interpreter ends after it has told why it cannot prepare the script. -/
def failureCode : Nat := 1

/-- What the interpreter writes upon a line, if anything, and how far it has come then. -/
def step (e : Engine σ π ν) : Stage σ π → List Char → Option Answer × Stage σ π
  | .awaiting s, line =>
    match e.begin line s with
    | .ok (some p, a) s => (some a, .ready p s)
    | .ok (none, a) _ => (some a, .ended (.exited failureCode))
    | .error r _ => (none, .ended (e.leave r))
  | .ready p s, line =>
    match e.answer p line s with
    | .ok a s => (some a, .ready p s)
    | .error r _ => (none, .ended (e.leave r))
  | .ended status, _ => (none, .ended status)

/-- How far the interpreter has come after lines. -/
def stage (e : Engine σ π ν) (lines : List (List Char)) : Stage σ π :=
  lines.foldl (fun s line => (e.step s line).2) (.awaiting e.start)

/-- What the interpreter does upon a line. -/
def react (e : Engine σ π ν) (stage : Stage σ π) (line : List Char) : Reaction where
  output :=
    match (e.step stage line).1 with
    | some a => Text.encode a.line
    | none => []
  ends :=
    match (e.step stage line).2 with
    | .ended status => some status
    | _ => none

/-- The process that serves requests so. -/
def behaviour (e : Engine σ π ν) : Behaviour := fun lines =>
  match lines.getLast? with
  | some line => e.react (e.stage lines.dropLast) line
  | none => {}

end Engine

end ScriptStage.Worker
