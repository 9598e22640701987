import ScriptStage.Config.Basic
import ScriptStage.Failure.Basic
import ScriptStage.Files.Storage
import ScriptStage.Text.Lines

/-!
# Sources of scripts

A source is the text of a script together with its language and its origin. An inline text may
stand in quotes, with its line ends written as backslash and `n` and its quotes doubled; a file is
taken as it is.

## Main definitions

* `ScriptStage.Source`: a source; `Source.inline` makes one of a text.
* `ScriptStage.Source.decode`: the script that an inline text stands for.
* `ScriptStage.Source.resolve`: the source that a configuration names.
-/

set_option autoImplicit false

namespace ScriptStage

/-- Where a script comes from. -/
inductive Origin where
  /-- The configuration itself. -/
  | inline
  /-- A file. -/
  | file (path : String)
  deriving DecidableEq, Repr

/-- How users are told of an origin. -/
def Origin.message : Origin → String
  | inline => "inline script"
  | file path => path

/-- The text of a script, with its language and its origin. -/
structure Source where
  /-- The identifier of the language. -/
  language : String
  /-- The text. -/
  text : String
  /-- Where the text comes from. -/
  origin : Origin
  deriving DecidableEq, Repr

namespace Source

open Text

/-- A text as it is, in a language named in any case. -/
def inline (language text : String) : Source :=
  ⟨lowerCase language, text, .inline⟩

/-- A text without the quotes around it, if there is a pair. -/
def unquote (t : List Char) : List Char :=
  if 2 ≤ t.length ∧ t.head? = some '"' ∧ t.getLast? = some '"' then (t.drop 1).dropLast else t

/-- The script that an inline text stands for. -/
def decodeChars (t : List Char) : List Char :=
  replacePair '"' '"' ['"'] (replacePair '\\' 'n' ['\n'] (unquote t))

/-- The script that an inline text stands for. -/
def decode (text : String) : String :=
  onChars decodeChars text

/-- The language of a script file: the one given, else the one that its name tells. -/
def fileLanguage (given : Option String) (path : String) : Except Failure String :=
  match given with
  | some l => .ok (lowerCase l)
  | none =>
    match Language.ofPath? path with
    | some l => .ok l.name
    | none =>
      .error (.configuration
        ("unable to determine language from scriptFile name '" ++ path ++ "'"))

/-- The text of a script file. -/
def readFile (fs : Files.Storage) (path : String) : Except Failure String :=
  (fs.readText path).mapError fun e =>
    .io ("Failed to read script file " ++ path ++ ": " ++ e.message)

/-- The source that a configuration names. -/
def resolve (fs : Files.Storage) (c : Config) : Except Failure Source :=
  match c.effectiveScript, c.scriptFile with
  | some _, some _ =>
    .error (.configuration "the script and scriptFile properties are mutually exclusive")
  | none, none =>
    .error (.configuration "one of the script or scriptFile properties is required")
  | some raw, none =>
    match c.effectiveLanguage with
    | none =>
      .error (.configuration "the language property is required when script is specified")
    | some language => .ok (inline language (decode raw))
  | none, some path => do
    let language ← fileLanguage c.effectiveLanguage path
    let text ← readFile fs path
    return ⟨language, text, .file path⟩

end Source

end ScriptStage
