import ScriptStage.Config.Basic
import ScriptStage.Failure.Basic
import ScriptStage.Files.Storage
import ScriptStage.Json.Reader.Record

/-!
# The JSON form of configurations

Every field may be absent or null, and the fields that hold paths have several spellings.

## Main definitions

* `ScriptStage.Config.write`, `render`: the JSON text of a configuration.
* `ScriptStage.Config.parse`, `ofJson`, `ofFile`: the configuration in a JSON text, in a file.
-/

set_option autoImplicit false

namespace ScriptStage.Config

open Json

/-- The JSON text of a configuration, as characters. -/
def write (c : Config) : List Char :=
  writeObject
    [("language", writeString? c.language), ("script", writeString? c.script),
      ("scriptFile", writeString? c.scriptFile), ("variables", writeString? c.variablesText),
      ("variablesLocation", writeString? c.variablesLocation)]

/-- The JSON text of a configuration. -/
def render (c : Config) : String :=
  String.ofList c.write

/-- What has been read of a configuration; a field that was read may be null. -/
structure Draft where
  /-- The language. -/
  language : Option (Option String) := none
  /-- The script. -/
  script : Option (Option String) := none
  /-- The file of the script. -/
  scriptFile : Option (Option String) := none
  /-- The variables. -/
  variablesText : Option (Option String) := none
  /-- The file of variables. -/
  variablesLocation : Option (Option String) := none

/-- A field that may be null. -/
def nullableField (name : String) (others : List String) (expected : String)
    (get : Draft → Option (Option String)) (set : Draft → Option String → Draft) :
    Json.Field Draft where
  name := name
  spellings := name :: others
  isSet := fun d => (get d).isSome
  read := fun _ d c => (readOptional (readText expected) c).map fun r => (set d r.1, r.2)
  canBeLeftOut := true

/-- The configuration of a draft. -/
def ofDraft (d : Draft) : Config where
  language := d.language.join
  script := d.script.join
  scriptFile := d.scriptFile.join
  variablesText := d.variablesText.join
  variablesLocation := d.variablesLocation.join

/-- The record that describes a configuration. -/
def shape : Shape Draft Config where
  description := "struct ScriptTransformProperties"
  fields :=
    [ nullableField "language" [] "a string" (·.language) fun d v => { d with language := some v },
      nullableField "script" [] "a string" (·.script) fun d v => { d with script := some v },
      nullableField "scriptFile" ["scriptfile", "script-file", "script_file"] "path string"
        (·.scriptFile) fun d v => { d with scriptFile := some v },
      nullableField "variables" [] "a string" (·.variablesText)
        fun d v => { d with variablesText := some v },
      nullableField "variablesLocation"
        ["variableslocation", "variables-location", "variables_location"] "path string"
        (·.variablesLocation) fun d v => { d with variablesLocation := some v } ]
  start := {}
  finish := fun d => .ok (ofDraft d)

/-- The configuration in a JSON text. -/
def parse (t : List Char) : Except Fault Config :=
  readAll (readRecord shape depthLimit) t

/-- The configuration in a JSON text, or why the stage cannot start. -/
def ofJson (text : String) : Except Failure Config :=
  (parse text.toList).mapError fun f => .deserialization f.message

/-- The configuration in a file. -/
def ofFile (fs : Files.Storage) (path : String) : Except Failure Config :=
  match fs.readText path with
  | .error e => .error (.io ("Failed to read config " ++ path ++ ": " ++ e.message))
  | .ok text => ofJson text

end ScriptStage.Config
