/-!
# Places in a text

A reader of JSON works on a cursor: the characters that are still to be read and the position
reached so far. Lines are counted from one; the column is the number of bytes since the last line
feed. The place of a character that is looked at but not yet read is one byte further.

## Main definitions

* `ScriptStage.Json.Position`, `ScriptStage.Json.Cursor`: positions and cursors.
* `ScriptStage.Json.Cursor.look`: the position of the character being looked at.
* `ScriptStage.Json.Cursor.skipBlanks`: the cursor behind the blanks of JSON.
* `ScriptStage.Json.Position.afterAll`: the position behind a text.
-/

set_option autoImplicit false

namespace ScriptStage.Json

/-- A place in a text. -/
structure Position where
  /-- The number of the line, from one. -/
  line : Nat
  /-- The number of bytes since the last line feed. -/
  column : Nat
  deriving DecidableEq, Repr, Inhabited

namespace Position

/-- The place before the first character. -/
def start : Position := ⟨1, 0⟩

/-- The place behind a character. -/
def after (p : Position) (c : Char) : Position :=
  if c = '\n' then ⟨p.line + 1, 0⟩ else ⟨p.line, p.column + c.utf8Size⟩

/-- The place behind a text. -/
def afterAll (p : Position) (t : List Char) : Position :=
  t.foldl after p

@[simp]
theorem afterAll_nil (p : Position) : p.afterAll [] = p := rfl

@[simp]
theorem afterAll_cons (p : Position) (c : Char) (t : List Char) :
    p.afterAll (c :: t) = (p.after c).afterAll t := rfl

/-- The place that lies a number of bytes behind `p`, inside a text that goes on with `t`. -/
def afterBytes (p : Position) : Nat → List Char → Position
  | 0, _ => p
  | _ + 1, [] => p
  | n + 1, c :: t =>
    if c = '\n' then afterBytes ⟨p.line + 1, 0⟩ n t
    else if c.utf8Size ≤ n + 1 then
      afterBytes ⟨p.line, p.column + c.utf8Size⟩ (n + 1 - c.utf8Size) t
    else ⟨p.line, p.column + (n + 1)⟩
termination_by _ t => t

end Position

/-- The characters that are still to be read, and where they begin. -/
structure Cursor where
  /-- What is still to be read. -/
  rest : List Char
  /-- Where it begins. -/
  pos : Position
  deriving DecidableEq, Repr

namespace Cursor

/-- The cursor before a text. -/
def ofText (t : List Char) : Cursor := ⟨t, .start⟩

/-- The position of the character being looked at: one byte ahead, or the end of the text. -/
def look (c : Cursor) : Position :=
  match c.rest with
  | [] => c.pos
  | '\n' :: _ => ⟨c.pos.line + 1, 0⟩
  | _ => ⟨c.pos.line, c.pos.column + 1⟩

/-- The cursor behind the next character. -/
def next (c : Cursor) : Cursor :=
  match c.rest with
  | [] => c
  | ch :: rest => ⟨rest, c.pos.after ch⟩

/-- A blank of JSON: space, line feed, tab or carriage return. -/
def isBlank (c : Char) : Bool :=
  c = ' ' || c = '\n' || c = '\t' || c = '\r'

/-- The cursor behind the blanks at a place. -/
def skipFrom (p : Position) : List Char → Cursor
  | [] => ⟨[], p⟩
  | c :: rest => if isBlank c then skipFrom (p.after c) rest else ⟨c :: rest, p⟩

/-- The cursor behind the next blanks. -/
def skipBlanks (c : Cursor) : Cursor :=
  skipFrom c.pos c.rest

/-- A cursor at a character that is not blank stays. -/
theorem skipBlanks_of_not_blank {ch : Char} {rest : List Char} {p : Position}
    (h : isBlank ch = false) : skipBlanks ⟨ch :: rest, p⟩ = ⟨ch :: rest, p⟩ := by
  simp [skipBlanks, skipFrom, h]

@[simp]
theorem skipBlanks_nil (p : Position) : skipBlanks ⟨[], p⟩ = ⟨[], p⟩ := rfl

/-- Whether the next character satisfies a test. -/
def nextIs (c : Cursor) (p : Char → Bool) : Bool :=
  match c.rest with
  | [] => false
  | ch :: _ => p ch

end Cursor

end ScriptStage.Json
