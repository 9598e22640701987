import ScriptStage.Config.Basic
import ScriptStage.Failure.Basic
import ScriptStage.Notice

/-!
# What is wrong with a configuration

A stage must not start with a configuration that names no script, or two, or a script of unknown
language. All violations are found together.

## Main definitions

* `ScriptStage.Violation`: a violation; `Violation.message` is its text.
* `ScriptStage.Config.violations`: the violations of a configuration.
* `ScriptStage.Config.ensureValid`: the failure to start with an invalid configuration.
-/

set_option autoImplicit false

namespace ScriptStage

/-- A reason why a stage must not start. -/
inductive Violation where
  /-- The script is given twice, as text and as a file. -/
  | scriptAndFile
  /-- No script is given. -/
  | noScript
  /-- The language of a script given as text is not. -/
  | missingLanguage
  /-- The name of the file does not tell the language. -/
  | unknownSuffix (path : String)
  deriving DecidableEq, Repr

/-- The text of a violation. -/
def Violation.message : Violation → String
  | scriptAndFile => "the script and scriptFile properties are mutually exclusive"
  | noScript => "one of the script or scriptFile properties is required"
  | missingLanguage => "the language property is required when script is specified"
  | unknownSuffix path => "unable to determine language from scriptFile name '" ++ path ++ "'"

namespace Config

/-- The violation in how the script is given. -/
def scriptViolations (c : Config) : List Violation :=
  match c.effectiveScript, c.scriptFile with
  | some _, some _ => [.scriptAndFile]
  | none, none => [.noScript]
  | _, _ => []

/-- The violations in how the language is given. -/
def languageViolations (c : Config) : List Violation :=
  if c.effectiveLanguage.isSome then []
  else
    (if c.effectiveScript.isSome then [.missingLanguage] else [])
      ++ (match c.scriptFile with
          | some path => if (Language.ofPath? path).isNone then [.unknownSuffix path] else []
          | none => [])

/-- The violations of a configuration. -/
def violations (c : Config) : List Violation :=
  c.scriptViolations ++ c.languageViolations

/-- The texts of violations, one after another. -/
def violationText (vs : List Violation) : String :=
  "; ".intercalate (vs.map Violation.message)

/-- The failure to start with an invalid configuration. -/
def ensureValid (c : Config) : Except Failure Unit :=
  match c.violations with
  | [] => .ok ()
  | vs => .error (.configuration (violationText vs))

/-- What an operator sees of a check: one error that names every violation. -/
def validityNotices (c : Config) : List Notice :=
  match c.violations with
  | [] => []
  | vs => [.error ("Invalid script transform properties: " ++ violationText vs)]

end Config

end ScriptStage
