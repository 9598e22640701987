import ScriptStage.Json.Reader.Record
import ScriptStage.Variables

/-!
# The protocol of interpreter workers

A worker is an interpreter process that holds one compiled script. It is sent requests and sends
replies, each a line of JSON: first the script, which it compiles, then bindings, on which it runs
the script.

## Main definitions

* `ScriptStage.Worker.Request`: a request; `Request.line` is its line.
* `ScriptStage.Worker.Reply`: a reply; `Reply.parse` reads its line.
-/

set_option autoImplicit false

namespace ScriptStage.Worker

open Json

/-- What a worker is asked for. -/
inductive Request where
  /-- To compile a script. -/
  | compile (script : String)
  /-- To run it. -/
  | run (bindings : Bindings)

/-- The JSON text of a request, as characters. -/
def Request.write : Request → List Char
  | compile script => writeObject [("script", writeString script)]
  | run bindings => writeObject [("bindings", (Json.ofDict bindings).write)]

/-- The line of a request. -/
def Request.line (r : Request) : List Char :=
  r.write ++ ['\n']

/-- What a worker answers. -/
structure Reply where
  /-- The result of a run. -/
  result : Json
  /-- The error, if there is one. -/
  error : Option String

namespace Reply

/-- What has been read of a reply. -/
structure Draft where
  /-- The result. -/
  result : Option Json := none
  /-- The error, which may be null. -/
  error : Option (Option String) := none

/-- The record that describes a reply. Both fields may be left out. -/
def shape : Shape Draft Reply where
  description := "struct DriverReply"
  fields :=
    [ {  name := "result"
         spellings := ["result"]
         isSet := fun d => d.result.isSome
         read := fun n d c => (readValue n c).map fun r => ({ d with result := some r.1 }, r.2)
         canBeLeftOut := true },
      {  name := "error"
         spellings := ["error"]
         isSet := fun d => d.error.isSome
         read := fun _ d c =>
          (readOptional (readText "a string") c).map fun r => ({ d with error := some r.1 }, r.2)
         canBeLeftOut := true } ]
  start := {}
  finish := fun d => .ok ⟨d.result.getD .null, d.error.join⟩

/-- The reply in a line. -/
def parse (line : List Char) : Except Json.Fault Reply :=
  readAll (readRecord shape depthLimit) line

end Reply

end ScriptStage.Worker
