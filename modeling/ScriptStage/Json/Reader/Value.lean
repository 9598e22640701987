import ScriptStage.Json.Reader.Number
import ScriptStage.Json.Reader.Text

/-!
# Reading JSON values

Arrays and objects may nest to a given depth. Of two fields with one key the later counts.

## Main definitions

* `ScriptStage.Json.Cursor.nextItem`, `nextKey`: steps of the two kinds of containers.
* `ScriptStage.Json.readItems`, `readFields`: the contents of an array, an object.
* `ScriptStage.Json.readValue`: the value at a cursor.
* `ScriptStage.Json.readAll`: a text as one value; `ScriptStage.Json.parse` is the usual case.
-/

set_option autoImplicit false

namespace ScriptStage.Json

/-! ## Scalars -/

/-- The cursor behind a word. -/
def Cursor.word : List Char → Cursor → Except Fault Cursor
  | [], c => .ok c
  | w :: ws, c =>
    match c.rest with
    | [] => .error (.of .endInValue c.pos)
    | ch :: _ => if ch = w then word ws c.next else .error (.of .expectedWord c.look)

/-- A word that stands for a value. -/
def readWord (w : List Char) (v : Json) (c : Cursor) : Except Fault (Json × Cursor) := do
  let c ← c.word w
  return (v, c)

/-- The scalar at a cursor. -/
def readScalar (c : Cursor) : Except Fault (Json × Cursor) :=
  match c.rest with
  | [] => .error (.of .endInValue c.look)
  | ch :: _ =>
    if ch = 'n' then readWord writeNull .null c
    else if ch = 't' then readWord (writeBool true) (.bool true) c
    else if ch = 'f' then readWord (writeBool false) (.bool false) c
    else if ch = '-' then readNumber true c.next
    else if Text.isDigit ch then readNumber false c
    else if ch = '"' then do
      let (s, c) ← readString c.next
      return (.str s, c)
    else .error (.of .expectedValue c.look)

/-! ## The steps of containers -/

/-- The cursor at the next item of an array, or nothing at the closing bracket, which stays
unread. -/
def Cursor.nextItem (first : Bool) (c : Cursor) : Except Fault (Option Cursor) :=
  let c := c.skipBlanks
  match c.rest with
  | [] => .error (.of .endInList c.look)
  | ch :: _ =>
    if ch = ']' then .ok none
    else if first then .ok (some c)
    else if ch = ',' then
      let c := c.next.skipBlanks
      match c.rest with
      | [] => .error (.of .endInValue c.look)
      | d :: _ => if d = ']' then .error (.of .trailingComma c.look) else .ok (some c)
    else .error (.of .expectedListCommaOrEnd c.look)

/-- The cursor at the string that is the next key of an object, or nothing at the closing brace,
which stays unread. -/
def Cursor.nextKey (first : Bool) (c : Cursor) : Except Fault (Option Cursor) :=
  let c := c.skipBlanks
  match c.rest with
  | [] => .error (.of .endInObject c.look)
  | ch :: _ =>
    if ch = '\x7d' then .ok none
    else if first then
      if ch = '"' then .ok (some c) else .error (.of .keyNotString c.look)
    else if ch = ',' then
      let c := c.next.skipBlanks
      match c.rest with
      | [] => .error (.of .endInValue c.look)
      | d :: _ =>
        if d = '"' then .ok (some c)
        else if d = '\x7d' then .error (.of .trailingComma c.look)
        else .error (.of .keyNotString c.look)
    else .error (.of .expectedObjectCommaOrEnd c.look)

/-- The cursor behind the colon that follows a key. -/
def Cursor.colon (c : Cursor) : Except Fault Cursor :=
  let c := c.skipBlanks
  match c.rest with
  | [] => .error (.of .endInObject c.look)
  | ch :: _ => if ch = ':' then .ok c.next else .error (.of .expectedColon c.look)

/-- The items up to the closing bracket. The fuel is the length of the text. -/
def readItems {α : Type} (item : Cursor → Except Fault (α × Cursor)) :
    Nat → Bool → Cursor → Except Fault (List α × Cursor)
  | 0, _, c => .error (.of .endInList c.look)
  | fuel + 1, first, c => do
    match ← c.nextItem first with
    | none => return ([], c.skipBlanks.next)
    | some c =>
      let (v, c) ← item c
      let (vs, c) ← readItems item fuel false c
      return (v :: vs, c)

/-- The fields up to the closing brace, added to those in hand. The fuel is the length of the
text. -/
def readFields {α : Type} (value : Cursor → Except Fault (α × Cursor)) :
    Nat → Bool → List (String × α) → Cursor → Except Fault (List (String × α) × Cursor)
  | 0, _, _, c => .error (.of .endInObject c.look)
  | fuel + 1, first, fields, c => do
    match ← c.nextKey first with
    | none => return (fields, c.skipBlanks.next)
    | some c =>
      let (key, c) ← readString c.next
      let c ← c.colon
      let (v, c) ← value c
      readFields value fuel false (Dict.put key v fields) c

/-! ## Values -/

/-- The value at a cursor, with at most `depth` arrays and objects inside one another. -/
def readValue : Nat → Cursor → Except Fault (Json × Cursor)
  | depth, c =>
    let c := c.skipBlanks
    if c.nextIs (· = '[') then
      match depth with
      | 0 => .error (.of .recursionLimit c.look)
      | depth + 1 => do
        let (vs, c) ← readItems (readValue depth) (c.rest.length + 1) true c.next
        return (.arr vs, c)
    else if c.nextIs (· = '\x7b') then
      match depth with
      | 0 => .error (.of .recursionLimit c.look)
      | depth + 1 => do
        let (fs, c) ← readFields (readValue depth) (c.rest.length + 1) true [] c.next
        return (.obj fs, c)
    else readScalar c

/-- The greatest number of arrays and objects inside one another in a text. -/
def depthLimit : Nat := 127

/-- A text as one value of some reader, with nothing but blanks behind it. -/
def readAll {α : Type} (reader : Cursor → Except Fault (α × Cursor)) (t : List Char) :
    Except Fault α := do
  let (v, c) ← reader (.ofText t)
  let c := c.skipBlanks
  if c.rest.isEmpty then return v
  else .error (.of .trailingCharacters c.look)

/-- A text as a JSON value. -/
def parse (t : List Char) : Except Fault Json :=
  readAll (readValue depthLimit) t

end ScriptStage.Json
