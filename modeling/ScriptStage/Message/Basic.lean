import ScriptStage.Failure.Report

/-!
# Messages

A message carries a payload, headers and the reports of the failures that it has met.

## Main definitions

* `ScriptStage.Message`: a message.
* `ScriptStage.Message.withHeader`, `addReport`, `withPayload`: changed copies.
-/

set_option autoImplicit false

namespace ScriptStage

/-- A message. -/
structure Message where
  /-- What identifies the message. -/
  id : String
  /-- What scripts transform. -/
  payload : Json
  /-- Named values that go with the payload. -/
  headers : Dict Json
  /-- The reports of failures, oldest first. -/
  errors : List Report

namespace Message

/-- A message without headers. -/
def new (id : String) (payload : Json) : Message :=
  ⟨id, payload, .empty, []⟩

/-- The message with a header, which replaces an earlier one of that name. -/
def withHeader (m : Message) (name : String) (value : Json) : Message :=
  { m with headers := m.headers.insert name value }

/-- The message with another payload. -/
def withPayload (m : Message) (payload : Json) : Message :=
  { m with payload := payload }

/-- The message with one more report. -/
def addReport (m : Message) (r : Report) : Message :=
  { m with errors := m.errors ++ [r] }

/-- The message has met a failure. -/
def hasErrors (m : Message) : Bool :=
  !m.errors.isEmpty

end Message

end ScriptStage
