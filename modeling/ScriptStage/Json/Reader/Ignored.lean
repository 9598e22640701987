import ScriptStage.Json.Reader.Value

/-!
# Values that are read past

The value of a field that a record does not have is checked for its form only: arrays and objects
may nest to any depth, numbers may have any size, and surrogates need no partner.

## Main definitions

* `ScriptStage.Json.ignoreValue`: the cursor behind the value at a cursor.
-/

set_option autoImplicit false

namespace ScriptStage.Json

/-- The container that a value stands in. -/
inductive Container where
  /-- An array. -/
  | list
  /-- An object. -/
  | object
  deriving DecidableEq

namespace Container

/-- The fault of a text that ends inside the container. -/
def unfinished : Container → Cause
  | list => .endInList
  | object => .endInObject

/-- The fault of a character that follows no item. -/
def unexpected : Container → Cause
  | list => .expectedListCommaOrEnd
  | object => .expectedObjectCommaOrEnd

/-- The closing character. -/
def closing : Container → Char
  | list => ']'
  | object => '\x7d'

end Container

/-- The cursor behind a scalar, whatever its value. -/
def ignoreScalar (c : Cursor) : Except Fault Cursor :=
  match c.rest with
  | [] => .error (.of .endInValue c.look)
  | ch :: _ =>
    if ch = 'n' then c.word writeNull
    else if ch = 't' then c.word (writeBool true)
    else if ch = 'f' then c.word (writeBool false)
    else if ch = '-' then ignoreNumber c.next
    else if Text.isDigit ch then ignoreNumber c
    else if ch = '"' then ignoreString c.next
    else .error (.of .expectedValue c.look)

/-- The cursor behind a key and its colon. -/
def ignoreKey (c : Cursor) : Except Fault Cursor := do
  let c := c.skipBlanks
  match c.rest with
  | [] => .error (.of .endInObject c.look)
  | ch :: _ =>
    if ch = '"' then
      let c ← ignoreString c.next
      c.colon
    else .error (.of .keyNotString c.look)

/-- The cursor at the value of the next item of a container: behind the key in an object. -/
def beginItem (k : Container) (c : Cursor) : Except Fault Cursor :=
  match k with
  | .list => .ok c
  | .object => ignoreKey c

mutual

/-- The cursor behind the value at a cursor. The fuel is the length of the text. -/
def ignoreFrom : Nat → Cursor → Except Fault Cursor
  | 0, c => .error (.of .endInValue c.look)
  | fuel + 1, c =>
    let c := c.skipBlanks
    if c.nextIs (· = '[') then ignoreFirst fuel .list c.next
    else if c.nextIs (· = '\x7b') then ignoreFirst fuel .object c.next
    else ignoreScalar c

/-- The cursor behind a container, from behind its opening character. -/
def ignoreFirst : Nat → Container → Cursor → Except Fault Cursor
  | 0, k, c => .error (.of k.unfinished c.look)
  | fuel + 1, k, c =>
    let c := c.skipBlanks
    match c.rest with
    | [] => .error (.of k.unfinished c.look)
    | ch :: _ => if ch = k.closing then .ok c.next else ignoreItems fuel k c

/-- The cursor behind a container, from an item of it. -/
def ignoreItems : Nat → Container → Cursor → Except Fault Cursor
  | 0, k, c => .error (.of k.unfinished c.look)
  | fuel + 1, k, c => do
    let c ← beginItem k c
    let c ← ignoreFrom fuel c
    let c := c.skipBlanks
    match c.rest with
    | [] => .error (.of k.unfinished c.look)
    | ch :: _ =>
      if ch = k.closing then return c.next
      else if ch = ',' then ignoreItems fuel k c.next
      else .error (.of k.unexpected c.look)

end

/-- The cursor behind the value at a cursor, whatever it is. -/
def ignoreValue (c : Cursor) : Except Fault Cursor :=
  ignoreFrom (3 * c.rest.length + 3) c

end ScriptStage.Json
