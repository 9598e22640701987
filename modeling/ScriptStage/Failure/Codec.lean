import ScriptStage.Failure.Basic
import ScriptStage.Json.Reader.Record

/-!
# The JSON form of failures

A failure is an object with one field, named for its kind. The field holds the text, or for a
failure of execution a record with its context. The cause of a failure is not written.

## Main definitions

* `ScriptStage.Failure.write`, `render`: the JSON text of a failure.
* `ScriptStage.Failure.read`, `parse`: the failure that a JSON text describes.
-/

set_option autoImplicit false

namespace ScriptStage.Failure

open Json

/-- The JSON text of a failure, as characters. -/
def write (f : Failure) : List Char :=
  let content :=
    match f with
    | execution c _ => writeObject [("context", writeString c)]
    | configuration t | io t | script t | timeout t | deserialization t => writeString t
  writeObject [(f.kind, content)]

/-- The JSON text of a failure. -/
def render (f : Failure) : String :=
  String.ofList f.write

/-- The kinds of failures. -/
inductive Kind where
  /-- See `Failure.configuration`. -/
  | configuration
  /-- See `Failure.io`. -/
  | io
  /-- See `Failure.execution`. -/
  | execution
  /-- See `Failure.script`. -/
  | script
  /-- See `Failure.timeout`. -/
  | timeout
  /-- See `Failure.deserialization`. -/
  | deserialization
  deriving DecidableEq, Repr

namespace Kind

/-- All kinds, with their names. -/
def all : List (String × Kind) :=
  [("Configuration", configuration), ("Io", io), ("Execution", execution), ("Script", script),
    ("Timeout", timeout), ("Deserialization", deserialization)]

/-- The kind with a name. -/
def ofName? (s : String) : Option Kind :=
  (all.find? fun e => e.1 = s).map (·.2)

/-- The failure of a kind with a text and no cause. -/
def failure (k : Kind) (text : String) : Failure :=
  match k with
  | configuration => .configuration text
  | io => .io text
  | execution => .execution text none
  | script => .script text
  | timeout => .timeout text
  | deserialization => .deserialization text

end Kind

/-- The fault of a name that is no kind. -/
def unknownKind (s : String) : Cause :=
  .unknownVariant s (Kind.all.map (·.1))

/-- The record that describes a failure of execution. -/
def executionShape : Shape (Option String) Failure where
  description := "struct variant TransformError::Execution"
  fields :=
    [{  name := "context"
        spellings := ["context"]
        isSet := Option.isSome
        read := fun _ _ c => (readText "a string" c).map fun r => (some r.1, r.2)
        canBeLeftOut := false }]
  start := none
  finish
    | some context => .ok (.execution context none)
    | none => .error "context"

/-- The content of a failure of a kind. -/
def readContent (k : Kind) (depth : Nat) (c : Cursor) : Except Fault (Failure × Cursor) :=
  if k = .execution then readRecord executionShape depth c
  else (readText "a string" c).map fun r => (k.failure r.1, r.2)

/-- The name of a kind, which is the key that an object begins with. -/
def readKind (c : Cursor) : Except Fault (Kind × Cursor) := do
  match ← c.nextKey true with
  | none => .error (.of .expectedValue c.skipBlanks.look)
  | some c =>
    let (name, c) ← readString c.next
    match Kind.ofName? name with
    | none => .error (.of (unknownKind name) c.pos)
    | some k => return (k, c)

/-- The failure at a cursor, with at most `depth` arrays and objects inside one another. -/
def read (depth : Nat) (c : Cursor) : Except Fault (Failure × Cursor) :=
  let c := c.skipBlanks
  if c.nextIs (· = '\x7b') then
    match depth with
    | 0 => .error (.of .recursionLimit c.look)
    | depth + 1 => do
      let (k, c) ← readKind c.next
      let c ← c.colon
      let (f, c) ← readContent k depth c
      let c := c.skipBlanks
      match c.rest with
      | [] => .error (.of .endInObject c.pos)
      | ch :: _ => if ch = '\x7d' then return (f, c.next) else .error (.of .expectedValue c.pos)
  else if c.nextIs (· = '"') then do
    let (name, c) ← readString c.next
    match Kind.ofName? name with
    | none => .error (.of (unknownKind name) c.pos)
    | some k =>
      let expected := if k = .execution then "struct variant" else "newtype variant"
      .error ⟨.invalidType .unitVariant expected, none⟩
  else if c.rest.isEmpty then .error (.of .endInValue c.look)
  else .error (.of .expectedValue c.look)

/-- The failure that a JSON text describes. -/
def parse (t : List Char) : Except Fault Failure :=
  readAll (read depthLimit) t

end ScriptStage.Failure
