import ScriptStage.Failure.Basic
import ScriptStage.Files.Storage
import ScriptStage.Properties.Escape
import ScriptStage.Properties.Infer
import ScriptStage.Properties.Inline

/-!
# Variables of scripts

A script sees named values. They are defined in a file, inline, or both; inline definitions
override those in the file, and later definitions override earlier ones.

## Main definitions

* `ScriptStage.Bindings`: the named values that a script sees.
* `ScriptStage.Variables.define`: the bindings of entries.
* `ScriptStage.Variables.load`: the bindings of a file and an inline text.
-/

set_option autoImplicit false

namespace ScriptStage

/-- The named values that a script sees. -/
abbrev Bindings := Dict Json

namespace Variables

/-- The value that an entry gives to its key. -/
def valueOf (e : Properties.Entry) : Json :=
  Properties.infer (Properties.unescape e.value)

/-- The bindings with those of more entries. -/
def define (b : Bindings) (es : List Properties.Entry) : Bindings :=
  es.foldl (fun b e => b.insert (String.ofList e.key) (valueOf e)) b

/-- The entries of a file of variables; none if there is no file. -/
def fileEntries (fs : Files.Storage) : Option String → Except Failure (List Properties.Entry)
  | none => .ok []
  | some path =>
    match fs.readText path with
    | .ok text => .ok (Properties.ofText text.toList)
    | .error e => .error (.io ("Failed to read variables file " ++ path ++ ": " ++ e.message))

/-- The entries of an inline text; none if there is no text. -/
def inlineEntries : Option String → List Properties.Entry
  | none => []
  | some text => Properties.ofInline text.toList

/-- The bindings of an inline text and a file. -/
def load (fs : Files.Storage) (inline location : Option String) : Except Failure Bindings := do
  let es ← fileEntries fs location
  return define (define .empty es) (inlineEntries inline)

end Variables

end ScriptStage
