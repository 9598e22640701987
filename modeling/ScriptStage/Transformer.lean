import ScriptStage.Config.Violation
import ScriptStage.Message.Basic
import ScriptStage.Registry
import ScriptStage.Source
import ScriptStage.Text.Quoted

/-!
# Transformers

A transformer runs one script on messages. Its script sees the generated variables and, over
them, the payload and the headers of the message. The result becomes the payload; a failure is
reported on the message and returned.

## Main definitions

* `ScriptStage.Transformer`: a transformer; `Transformer.new`, `ofConfig` start one.
* `ScriptStage.Transformer.bindingsFor`: what the script sees of a message.
* `ScriptStage.Transformer.transform`: the run of the script on a message.
* `ScriptStage.Transformer.process`: a message after its run.
-/

set_option autoImplicit false

namespace ScriptStage

/-- What runs one script on messages. -/
structure Transformer where
  /-- The source of the script. -/
  source : Source
  /-- The script. -/
  script : Script
  /-- The variables that are generated for a message. -/
  generator : Message → Bindings
  /-- How long a run may take. -/
  limit : Option Duration

namespace Transformer

/-- The failure to find an executor. -/
def unknownLanguage (language : String) : Failure :=
  .configuration ("No script executor registered for language '" ++ language ++ "'")

/-- The transformer of a source. -/
def new (source : Source) (registry : Registry) (generator : Message → Bindings) :
    Except Failure Transformer :=
  match registry.get? source.language with
  | none => .error (unknownLanguage source.language)
  | some executor => (executor.compile source.text).map fun s => ⟨source, s, generator, none⟩

/-- The transformer of a configuration: it must be valid, its script and its variables must be
readable, and its script must compile. -/
def ofConfig (fs : Files.Storage) (registry : Registry) (config : Config) :
    Except Failure Transformer := do
  config.ensureValid
  let source ← Source.resolve fs config
  let bindings ← Variables.load fs config.variablesText config.variablesLocation
  new source registry fun _ => bindings

/-- The transformer with a limit on each run. -/
def withLimit (t : Transformer) (limit : Duration) : Transformer :=
  { t with limit := some limit }

/-- The identifier of the language. -/
def language (t : Transformer) : String :=
  t.source.language

/-- What the script sees of a message. -/
def bindingsFor (t : Transformer) (m : Message) : Bindings :=
  ((t.generator m).insert "payload" m.payload).insert "headers" (.ofDict m.headers)

/-- The failure of a run on a message. -/
def failed (t : Transformer) (m : Message) (cause : Failure) : Failure :=
  .execution (t.language ++ " script failed for message " ++ m.id) (some cause)

/-- The run of the script on a message, after earlier runs. -/
def transform (t : Transformer) (past : List Past) (m : Message) : Attempt :=
  (t.script.respond past (t.bindingsFor m)).mapFailure (t.failed m)

/-- The failure of a run that takes longer than its limit. -/
def late (limit : Duration) : Failure :=
  .timeout ("script did not finish within " ++ limit.describe)

/-- How the run on a message ends, if it ends: at the latest when the limit has passed. -/
def outcome? (t : Transformer) (past : List Past) (m : Message) : Option (Except Failure Json) :=
  match t.limit with
  | none => (t.transform past m).outcome?
  | some limit => some (((t.transform past m).within limit).getD (.error (t.failed m (late limit))))

/-- The run on a message is left to end. -/
def completes (t : Transformer) (past : List Past) (m : Message) : Bool :=
  match t.limit with
  | none => (t.transform past m).outcome?.isSome
  | some limit => ((t.transform past m).within limit).isSome

/-- The report of a failure on a message. -/
def report (t : Transformer) (m : Message) (f : Failure) (now : String) : Report :=
  { Report.ofFailure f now with messageId := some m.id, language := some t.language }

/-- The message after a run that ended in some way: with the result as its payload, or with a
report of the failure. -/
def settle (t : Transformer) (m : Message) (now : String) : Except Failure Json → Message
  | .ok result => m.withPayload result
  | .error f => m.addReport (t.report m f now)

/-- The message after its run, and the failure of the run if there is one. Nothing if the run
does not end. -/
def process (t : Transformer) (past : List Past) (m : Message) (now : String) :
    Option (Message × Except Failure Unit) :=
  (t.outcome? past m).map fun r => (t.settle m now r, r.map fun _ => ())

/-- How operators see the origin of a script. -/
def describeOrigin : Origin → String
  | .inline => "Inline"
  | .file path => "File(" ++ Text.quoted path ++ ")"

/-- How operators see a limit. -/
def describeLimit : Option Duration → String
  | none => "None"
  | some d => "Some(" ++ d.describe ++ ")"

/-- How operators see a transformer. -/
def describe (t : Transformer) : String :=
  "ScriptTransformer \x7b language: " ++ Text.quoted t.language ++ ", origin: "
    ++ describeOrigin t.source.origin ++ ", timeout: " ++ describeLimit t.limit ++ ", .. \x7d"

end Transformer

end ScriptStage
