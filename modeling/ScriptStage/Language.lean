import ScriptStage.Files.Path

/-!
# Languages

The languages that the library knows, under the names and file suffixes by which users refer to
them. Names are compared without regard to the case of ASCII letters.

## Main definitions

* `ScriptStage.Language`: the languages; `Language.name` their identifiers.
* `ScriptStage.Language.aliases`: all names of a language; `Language.ofAlias?` the way back.
* `ScriptStage.Language.ofPath?`: the language that a file name tells.
* `ScriptStage.asciiLower`: a text with its ASCII letters in lower case.
-/

set_option autoImplicit false

namespace ScriptStage

/-- A text with its ASCII letters in lower case. -/
def asciiLower (t : List Char) : List Char :=
  t.map Char.toLower

/-- A string with its ASCII letters in lower case. -/
def lowerCase (s : String) : String :=
  String.ofList (asciiLower s.toList)

/-- A language that scripts can be written in. -/
inductive Language where
  /-- JavaScript, run by the library itself. -/
  | javascript
  /-- Rhai, run by the library itself. -/
  | rhai
  /-- Python, run by an interpreter process. -/
  | python
  /-- Ruby, run by an interpreter process. -/
  | ruby
  /-- Groovy, run by an interpreter process. -/
  | groovy
  deriving DecidableEq, Repr

namespace Language

/-- All languages. -/
def all : List Language := [javascript, rhai, python, ruby, groovy]

/-- The identifier of a language. -/
def name : Language → String
  | javascript => "javascript"
  | rhai => "rhai"
  | python => "python"
  | ruby => "ruby"
  | groovy => "groovy"

/-- All names of a language, its identifier first. -/
def aliases : Language → List String
  | javascript => ["javascript", "js", "ecmascript"]
  | rhai => ["rhai"]
  | python => ["python", "py", "jython"]
  | ruby => ["ruby", "rb", "jruby"]
  | groovy => ["groovy"]

/-- The language with a name in any case. -/
def ofAlias? (s : String) : Option Language :=
  all.find? fun l => l.aliases.contains (lowerCase s)

/-- The language with an identifier. -/
def ofName? (s : String) : Option Language :=
  all.find? fun l => l.name = s

/-- The suffixes of the files that hold scripts in a language. -/
def suffixes : Language → List String
  | javascript => [".js", ".javascript"]
  | rhai => [".rhai"]
  | python => [".py"]
  | ruby => [".rb"]
  | groovy => [".groovy"]

/-- The language that a suffix in any case tells. -/
def ofSuffix? (suffix : List Char) : Option Language :=
  all.find? fun l => l.suffixes.contains (String.ofList (asciiLower suffix))

/-- The language that the name of a file tells: its suffix from the last dot on decides. A name that
is no text tells nothing. -/
def ofPath? (path : Files.Path) : Option Language :=
  (((Files.fileName? path).bind Files.text?).bind Files.suffix?).bind ofSuffix?

end Language

end ScriptStage
