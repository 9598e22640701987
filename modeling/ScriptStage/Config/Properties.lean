import ScriptStage.Config.Basic
import ScriptStage.Notice
import ScriptStage.Properties.Line

/-!
# Configurations in properties texts

Keys are compared without regard to case, dashes and underscores. Values are taken as written. A
key that is repeated counts at its last place, and unknown keys are reported.

## Main definitions

* `ScriptStage.Config.Key`: the keys; `Key.ofText?` reads one.
* `ScriptStage.Config.loadEntries`: a configuration with more entries.
* `ScriptStage.Config.ofProperties`: the configuration in a properties text, with the notices
  about unknown keys.
-/

set_option autoImplicit false

namespace ScriptStage.Config

/-- The keys of a configuration. -/
inductive Key where
  /-- See `Config.language`. -/
  | language
  /-- See `Config.script`. -/
  | script
  /-- See `Config.scriptFile`. -/
  | scriptFile
  /-- See `Config.variablesText`. -/
  | variablesText
  /-- See `Config.variablesLocation`. -/
  | variablesLocation
  deriving DecidableEq, Repr

namespace Key

/-- The form in which keys are compared: lower case, without dashes and underscores. -/
def normalForm (t : List Char) : List Char :=
  asciiLower (t.filter fun c => c ≠ '-' && c ≠ '_')

/-- The keys under their normal forms. -/
def all : List (String × Key) :=
  [("language", language), ("script", script), ("scriptfile", scriptFile),
    ("variables", variablesText), ("variableslocation", variablesLocation)]

/-- The key that a text spells. -/
def ofText? (t : List Char) : Option Key :=
  (all.find? fun e => e.1.toList = normalForm t).map (·.2)

end Key

/-- The value at a key. -/
def get (c : Config) : Key → Option String
  | .language => c.language
  | .script => c.script
  | .scriptFile => c.scriptFile
  | .variablesText => c.variablesText
  | .variablesLocation => c.variablesLocation

/-- The configuration with another value at a key. -/
def set (c : Config) (k : Key) (value : String) : Config :=
  match k with
  | .language => { c with language := some value }
  | .script => { c with script := some value }
  | .scriptFile => { c with scriptFile := some value }
  | .variablesText => { c with variablesText := some value }
  | .variablesLocation => { c with variablesLocation := some value }

/-- The notice about an unknown key. -/
def unknownKey (key : List Char) : Notice :=
  .warning ("Ignoring unknown script transform property: " ++ String.ofList key)

/-- A configuration and the notices so far, with one more entry. -/
def loadEntry (state : Config × List Notice) (e : Properties.Entry) : Config × List Notice :=
  match Key.ofText? e.key with
  | some k => (state.1.set k (String.ofList e.value), state.2)
  | none => (state.1, state.2 ++ [unknownKey e.key])

/-- The configuration of entries, with the notices about unknown keys. -/
def loadEntries (es : List Properties.Entry) : Config × List Notice :=
  es.foldl loadEntry (empty, [])

/-- The configuration in a properties text, with the notices about unknown keys. -/
def ofProperties (text : String) : Config × List Notice :=
  loadEntries (Properties.ofText text.toList)

end ScriptStage.Config
