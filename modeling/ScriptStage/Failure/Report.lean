import ScriptStage.Failure.Codec

/-!
# Reports of failures

A report is what a message keeps of a failure.

## Main definitions

* `ScriptStage.Report`: a report; `Report.ofFailure` makes one of a failure.
* `ScriptStage.Report.write`, `render`, `read`, `parse`: its JSON form.
-/

set_option autoImplicit false

namespace ScriptStage

/-- What a message keeps of a failure. -/
structure Report where
  /-- The stable code of the failure. -/
  code : String
  /-- The text of the failure. -/
  message : String
  /-- The message that failed. -/
  messageId : Option String
  /-- The language of the script. -/
  language : Option String
  /-- When the failure occurred. -/
  timestamp : Option String
  /-- Whether another attempt may succeed. -/
  retryable : Bool
  deriving DecidableEq, Repr

namespace Report

open Json

/-- A report with a code and a text, made at a time. -/
def new (code message now : String) : Report :=
  ⟨code, message, none, none, some now, false⟩

/-- The report of a failure, made at a time. -/
def ofFailure (f : Failure) (now : String) : Report :=
  { new f.code f.message now with retryable := f.retryable }

/-- A field that is written only if it is present. -/
def optionalField (name : String) : Option String → List (String × List Char)
  | some s => [(name, writeString s)]
  | none => []

/-- The JSON text of a report, as characters. -/
def write (r : Report) : List Char :=
  writeObject <|
    [("code", writeString r.code), ("message", writeString r.message)]
      ++ optionalField "message_id" r.messageId
      ++ optionalField "language" r.language
      ++ optionalField "timestamp" r.timestamp
      ++ [("retryable", writeBool r.retryable)]

/-- The JSON text of a report. -/
def render (r : Report) : String :=
  String.ofList r.write

/-- What has been read of a report. -/
structure Draft where
  /-- The code. -/
  code : Option String := none
  /-- The text. -/
  message : Option String := none
  /-- The message that failed, which may be null. -/
  messageId : Option (Option String) := none
  /-- The language, which may be null. -/
  language : Option (Option String) := none
  /-- The time, which may be null. -/
  timestamp : Option (Option String) := none
  /-- Whether another attempt may succeed. -/
  retryable : Option Bool := none

/-- A string that must be present. -/
def textField (name : String) (get : Draft → Option String) (set : Draft → String → Draft) :
    Json.Field Draft where
  name := name
  spellings := [name]
  isSet := fun d => (get d).isSome
  read := fun _ d c => (readText "a string" c).map fun r => (set d r.1, r.2)
  canBeLeftOut := false

/-- A string that may be null. -/
def nullableField (name : String) (get : Draft → Option (Option String))
    (set : Draft → Option String → Draft) : Json.Field Draft where
  name := name
  spellings := [name]
  isSet := fun d => (get d).isSome
  read := fun _ d c => (readOptional (readText "a string") c).map fun r => (set d r.1, r.2)
  canBeLeftOut := false

/-- The report of a draft, or the name of a field that is missing. -/
def ofDraft (d : Draft) : Except String Report :=
  match d.code, d.message, d.retryable with
  | none, _, _ => .error "code"
  | _, none, _ => .error "message"
  | _, _, none => .error "retryable"
  | some code, some message, some retryable =>
    .ok ⟨code, message, d.messageId.join, d.language.join, d.timestamp.join, retryable⟩

/-- The record that describes a report. -/
def shape : Shape Draft Report where
  description := "struct ErrorInfo"
  fields :=
    [ textField "code" (·.code) fun d s => { d with code := some s },
      textField "message" (·.message) fun d s => { d with message := some s },
      nullableField "message_id" (·.messageId) fun d s => { d with messageId := some s },
      nullableField "language" (·.language) fun d s => { d with language := some s },
      nullableField "timestamp" (·.timestamp) fun d s => { d with timestamp := some s },
      {  name := "retryable"
         spellings := ["retryable"]
         isSet := fun d => d.retryable.isSome
         read := fun _ d c => (readFlag c).map fun r => ({ d with retryable := some r.1 }, r.2)
         canBeLeftOut := false } ]
  start := {}
  finish := ofDraft

/-- The report at a cursor. -/
def read : Nat → Cursor → Except Fault (Report × Cursor) :=
  readRecord shape

/-- The report that a JSON text describes. -/
def parse (t : List Char) : Except Fault Report :=
  readAll (read depthLimit) t

end Report

end ScriptStage
