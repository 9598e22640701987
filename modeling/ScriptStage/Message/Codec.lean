import ScriptStage.Message.Basic

/-!
# The JSON form of messages

## Main definitions

* `ScriptStage.Message.write`, `render`: the JSON text of a message.
* `ScriptStage.Message.parse`: the message that a JSON text describes. Headers and errors may be
  left out.
-/

set_option autoImplicit false

namespace ScriptStage.Message

open Json

/-- The JSON text of a message, as characters. -/
def write (m : Message) : List Char :=
  writeObject
    [("id", writeString m.id), ("payload", m.payload.write),
      ("headers", (Json.ofDict m.headers).write),
      ("errors", writeArray (m.errors.map Report.write))]

/-- The JSON text of a message. -/
def render (m : Message) : String :=
  String.ofList m.write

/-- What has been read of a message. -/
structure Draft where
  /-- The identifier. -/
  id : Option String := none
  /-- The payload. -/
  payload : Option Json := none
  /-- The headers. -/
  headers : Option (Dict Json) := none
  /-- The reports. -/
  errors : Option (List Report) := none

/-- The message of a draft, or the name of a field that is missing. -/
def ofDraft (d : Draft) : Except String Message :=
  match d.id, d.payload with
  | none, _ => .error "id"
  | _, none => .error "payload"
  | some id, some payload => .ok ⟨id, payload, d.headers.getD .empty, d.errors.getD []⟩

/-- The record that describes a message. -/
def shape : Shape Draft Message where
  description := "struct Message"
  fields :=
    [ {  name := "id"
         spellings := ["id"]
         isSet := fun d => d.id.isSome
         read := fun _ d c => (readText "a string" c).map fun r => ({ d with id := some r.1 }, r.2)
         canBeLeftOut := false },
      {  name := "payload"
         spellings := ["payload"]
         isSet := fun d => d.payload.isSome
         read := fun n d c => (readValue n c).map fun r => ({ d with payload := some r.1 }, r.2)
         canBeLeftOut := false },
      {  name := "headers"
         spellings := ["headers"]
         isSet := fun d => d.headers.isSome
         read := fun n d c => (readDict n c).map fun r => ({ d with headers := some r.1 }, r.2)
         canBeLeftOut := true },
      {  name := "errors"
         spellings := ["errors"]
         isSet := fun d => d.errors.isSome
         read := fun n d c =>
          (readListOf Report.read n c).map fun r => ({ d with errors := some r.1 }, r.2)
         canBeLeftOut := true } ]
  start := {}
  finish := ofDraft

/-- The message that a JSON text describes. -/
def parse (t : List Char) : Except Fault Message :=
  readAll (readRecord shape depthLimit) t

end ScriptStage.Message
