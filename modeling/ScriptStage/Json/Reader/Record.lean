import ScriptStage.Json.Reader.Ignored

/-!
# Reading values of a fixed type

A record is written as an object, or as an array of its fields in order. In an object unknown
fields are read past, a field may have several spellings, and no field may occur twice. A fault of
the record as a whole (a field that is missing or occurs twice, an array that is too short) is
placed behind the closing bracket if that comes next.

## Main definitions

* `ScriptStage.Json.readText`, `readFlag`, `readOptional`, `readDict`, `readListOf`: values of
  simple types.
* `ScriptStage.Json.Field`, `ScriptStage.Json.Shape`: how the values of a record type are read.
* `ScriptStage.Json.readRecord`: a value of a record type.
-/

set_option autoImplicit false

namespace ScriptStage.Json

/-! ## Simple types -/

/-- The fault of a value that is not what is expected. Scalars are read first; arrays and objects
are named where they begin. -/
def unfitting (expected : String) (c : Cursor) : Fault :=
  if c.nextIs (· = '[') then .of (.invalidType .sequence expected) c.pos
  else if c.nextIs (· = '\x7b') then .of (.invalidType .map expected) c.pos
  else
    match readScalar c with
    | .ok (v, c) => .of (.invalidType (.scalar v) expected) c.pos
    | .error f => f

/-- A string. -/
def readText (expected : String) (c : Cursor) : Except Fault (String × Cursor) :=
  let c := c.skipBlanks
  if c.nextIs (· = '"') then readString c.next else .error (unfitting expected c)

/-- A boolean. -/
def readFlag (c : Cursor) : Except Fault (Bool × Cursor) :=
  let c := c.skipBlanks
  if c.nextIs (· = 't') then (c.word (writeBool true)).map fun c => (true, c)
  else if c.nextIs (· = 'f') then (c.word (writeBool false)).map fun c => (false, c)
  else .error (unfitting "a boolean" c)

/-- Null or a value of some type. -/
def readOptional {α : Type} (inner : Cursor → Except Fault (α × Cursor)) (c : Cursor) :
    Except Fault (Option α × Cursor) :=
  let c := c.skipBlanks
  if c.nextIs (· = 'n') then (c.word writeNull).map fun c => (none, c)
  else (inner c).map fun r => (some r.1, r.2)

/-- An object with any keys. -/
def readDict (depth : Nat) (c : Cursor) : Except Fault (Dict Json × Cursor) :=
  let c := c.skipBlanks
  if c.nextIs (· = '\x7b') then
    match depth with
    | 0 => .error (.of .recursionLimit c.look)
    | depth + 1 => do
      let (fs, c) ← readFields (readValue depth) (c.rest.length + 1) true [] c.next
      return (.ofList fs, c)
  else .error (unfitting "a map" c)

/-- An array of values of one type. -/
def readListOf {α : Type} (item : Nat → Cursor → Except Fault (α × Cursor)) (depth : Nat)
    (c : Cursor) : Except Fault (List α × Cursor) :=
  let c := c.skipBlanks
  if c.nextIs (· = '[') then
    match depth with
    | 0 => .error (.of .recursionLimit c.look)
    | depth + 1 => readItems (item depth) (c.rest.length + 1) true c.next
  else .error (unfitting "a sequence" c)

/-! ## Records -/

/-- A field of a record. What has been read of the record so far is a draft. -/
structure Field (δ : Type) where
  /-- The name of the field in faults. -/
  name : String
  /-- The keys under which an object may hold it. -/
  spellings : List String
  /-- Whether the draft has it. -/
  isSet : δ → Bool
  /-- Reads its value into the draft. -/
  read : Nat → δ → Cursor → Except Fault (δ × Cursor)
  /-- Whether an array may end before it. -/
  canBeLeftOut : Bool

/-- How the values of a record type are read. -/
structure Shape (δ α : Type) where
  /-- The name of the type in faults. -/
  description : String
  /-- The fields in order. -/
  fields : List (Field δ)
  /-- The draft before anything is read. -/
  start : δ
  /-- The record, or the name of a field that is missing. -/
  finish : δ → Except String α

namespace Shape

variable {δ α : Type}

/-- The field that a key denotes. -/
def field? (s : Shape δ α) (key : String) : Option (Field δ) :=
  s.fields.find? fun f => f.spellings.contains key

/-- How a type with too few items is described. -/
def withCount (s : Shape δ α) : String :=
  s.description ++ " with " ++ String.ofList (writeInt s.fields.length)
    ++ (if s.fields.length = 1 then " element" else " elements")

/-- The fields of an object up to the closing brace, which stays unread, or why the record is
refused as a whole. The fuel is the length of the text. -/
def readMembers (s : Shape δ α) (depth : Nat) :
    Nat → Bool → δ → Cursor → Except Fault (Except Cause δ × Cursor)
  | 0, _, _, c => .error (.of .endInObject c.look)
  | fuel + 1, first, draft, c => do
    match ← c.nextKey first with
    | none => return (.ok draft, c)
    | some c =>
      let (key, c) ← readString c.next
      match s.field? key with
      | some f =>
        if f.isSet draft then return (.error (.duplicateField f.name), c)
        else
          let c ← c.colon
          let (draft, c) ← f.read depth draft c
          readMembers s depth fuel false draft c
      | none =>
        let c ← c.colon
        let c ← ignoreValue c
        readMembers s depth fuel false draft c

/-- The items of an array that stands for a record, for the fields from the `n`-th on, up to the
place where the closing bracket should be. -/
def readPlaces (s : Shape δ α) (depth : Nat) :
    List (Field δ) → Nat → δ → Cursor → Except Fault (Except Cause δ × Cursor)
  | [], _, draft, c => .ok (.ok draft, c)
  | f :: fs, n, draft, c => do
    match ← c.nextItem (n = 0) with
    | none =>
      if f.canBeLeftOut then readPlaces s depth fs (n + 1) draft c
      else return (.error (.invalidLength n s.withCount), c)
    | some c =>
      let (draft, c) ← f.read depth draft c
      readPlaces s depth fs (n + 1) draft c

end Shape

/-- The cursor behind the closing brace. -/
def Cursor.closeObject (c : Cursor) : Except Fault Cursor :=
  let c := c.skipBlanks
  match c.rest with
  | [] => .error (.of .endInObject c.look)
  | ch :: _ =>
    if ch = '\x7d' then .ok c.next
    else if ch = ',' then .error (.of .trailingComma c.look)
    else .error (.of .trailingCharacters c.look)

/-- The cursor behind the closing bracket. -/
def Cursor.closeList (c : Cursor) : Except Fault Cursor :=
  let c := c.skipBlanks
  match c.rest with
  | [] => .error (.of .endInList c.look)
  | ch :: _ =>
    if ch = ']' then .ok c.next
    else if ch = ',' then
      let c := c.next.skipBlanks
      if c.nextIs (· = ']') then .error (.of .trailingComma c.look)
      else .error (.of .trailingCharacters c.look)
    else .error (.of .trailingCharacters c.look)

/-- The place behind the given closing character if that comes next, else behind the blanks. -/
def Cursor.behindClosing (closing : Char) (c : Cursor) : Position :=
  let c := c.skipBlanks
  if c.nextIs (· = closing) then c.next.pos else c.pos

/-- Finishes a record whose fields have been read up to the closing character. -/
def Shape.settle {δ α : Type} (s : Shape δ α) (closing : Char)
    (close : Cursor → Except Fault Cursor) (draft : Except Cause δ) (c : Cursor) :
    Except Fault (α × Cursor) :=
  match draft with
  | .error cause => .error (.of cause (c.behindClosing closing))
  | .ok draft =>
    match s.finish draft with
    | .error name => .error (.of (.missingField name) (c.behindClosing closing))
    | .ok v => (close c).map fun c => (v, c)

/-- A value of a record type, with at most `depth` arrays and objects inside one another. -/
def readRecord {δ α : Type} (s : Shape δ α) (depth : Nat) (c : Cursor) :
    Except Fault (α × Cursor) :=
  let c := c.skipBlanks
  if c.nextIs (· = '[') then
    match depth with
    | 0 => .error (.of .recursionLimit c.look)
    | depth + 1 => do
      let (draft, c) ← s.readPlaces depth s.fields 0 s.start c.next
      s.settle ']' Cursor.closeList draft c
  else if c.nextIs (· = '\x7b') then
    match depth with
    | 0 => .error (.of .recursionLimit c.look)
    | depth + 1 => do
      let (draft, c) ← s.readMembers depth (c.rest.length + 1) true s.start c.next
      s.settle '\x7d' Cursor.closeObject draft c
  else .error (unfitting s.description c)

end ScriptStage.Json
