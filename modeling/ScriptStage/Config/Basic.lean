import ScriptStage.Language
import ScriptStage.Text.Blank

/-!
# Configurations

A configuration says which script a stage runs, in which language, and which variables the script
sees. Every part may be absent.

## Main definitions

* `ScriptStage.Config`: a configuration.
* `ScriptStage.Config.effectiveLanguage`: the language, if it is not blank.
* `ScriptStage.Config.effectiveScript`: the script, if it is not empty.
* `ScriptStage.Config.withScript`, `withScriptFile`, `withLanguage`, `withVariables`,
  `withVariablesLocation`: configurations built in code.
-/

set_option autoImplicit false

namespace ScriptStage

/-- A configuration of a stage. -/
structure Config where
  /-- The language of the script. -/
  language : Option String := none
  /-- The text of the script. -/
  script : Option String := none
  /-- The file that holds the script. -/
  scriptFile : Option String := none
  /-- The variables, as a properties text. -/
  variablesText : Option String := none
  /-- The file that holds variables. -/
  variablesLocation : Option String := none
  deriving DecidableEq, Repr

namespace Config

/-- The configuration in which everything is absent. -/
def empty : Config := {}

/-- A script given as text. -/
def withScript (language script : String) : Config :=
  { language := some language, script := some script }

/-- A script given by its file. -/
def withScriptFile (path : String) : Config :=
  { scriptFile := some path }

/-- The configuration with another language. -/
def withLanguage (c : Config) (language : String) : Config :=
  { c with language := some language }

/-- The configuration with other variables. -/
def withVariables (c : Config) (text : String) : Config :=
  { c with variablesText := some text }

/-- The configuration with another file of variables. -/
def withVariablesLocation (c : Config) (path : String) : Config :=
  { c with variablesLocation := some path }

/-- The language without outer blanks; a blank one counts as absent. -/
def effectiveLanguage (c : Config) : Option String :=
  (c.language.map (Text.onChars Text.trim)).filter fun l => !l.toList.isEmpty

/-- The script; an empty one counts as absent. -/
def effectiveScript (c : Config) : Option String :=
  c.script.filter fun s => !s.toList.isEmpty

end Config

end ScriptStage
