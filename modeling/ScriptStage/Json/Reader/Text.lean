import ScriptStage.Json.Fault
import ScriptStage.Text.Digits
import ScriptStage.Text.Units
import ScriptStage.Text.Utf8

/-!
# Reading strings

A string ends at its closing quote. A backslash introduces an escape; a character beyond the
basic plane may be written as two escaped surrogates. Control characters must be escaped.

## Main definitions

* `ScriptStage.Json.readString`: the string at a cursor, behind its opening quote.
* `ScriptStage.Json.ignoreString`: the cursor behind a string whose value does not matter, in
  which surrogates need no partner.
-/

set_option autoImplicit false

namespace ScriptStage.Json

/-- The four hexadecimal digits of an escape. A text with less than four bytes left ends too
early. -/
def readHex (c : Cursor) : Except Fault (Nat × Cursor) :=
  let invalid : Fault :=
    if Text.byteLength (c.rest.take 4) < 4 then .of .endInString (c.pos.afterAll c.rest)
    else .of .invalidEscape (c.pos.afterBytes 4 c.rest)
  match c.rest with
  | h₁ :: h₂ :: h₃ :: h₄ :: rest =>
    match Text.natIn? 16 [h₁, h₂, h₃, h₄] with
    | some n => .ok (n, ⟨rest, c.pos.afterAll [h₁, h₂, h₃, h₄]⟩)
    | none => .error invalid
  | _ => .error invalid

/-- The cursor behind a character that must follow a high surrogate. -/
def expectAfterSurrogate (ch : Char) (c : Cursor) : Except Fault Cursor :=
  match c.rest with
  | [] => .error (.of .endInString c.pos)
  | d :: _ => if d = ch then .ok c.next else .error (.of .unexpectedEndOfHexEscape c.look)

/-- The character of an escape by number, behind `\u`. -/
def readUnicode (c : Cursor) : Except Fault (Char × Cursor) := do
  let (n, c) ← readHex c
  if Text.isLowUnit n then .error (.of .loneSurrogate c.pos)
  else if Text.isHighUnit n then
    let c ← expectAfterSurrogate '\\' c
    let c ← expectAfterSurrogate 'u' c
    let (m, c) ← readHex c
    if Text.isLowUnit m then return (Text.joinPair n m, c)
    else .error (.of .loneSurrogate c.pos)
  else return (Char.ofNat n, c)

/-- The character that a backslash and the given character stand for. -/
def simpleEscape? (c : Char) : Option Char :=
  if c = '"' then some '"'
  else if c = '\\' then some '\\'
  else if c = '/' then some '/'
  else if c = 'b' then some '\x08'
  else if c = 'f' then some '\x0c'
  else if c = 'n' then some '\n'
  else if c = 'r' then some '\r'
  else if c = 't' then some '\t'
  else none

/-- The character of an escape, behind its backslash. -/
def readEscape (c : Cursor) : Except Fault (Char × Cursor) :=
  match c.rest with
  | [] => .error (.of .endInString c.pos)
  | ch :: _ =>
    if ch = 'u' then readUnicode c.next
    else
      match simpleEscape? ch with
      | some d => .ok (d, c.next)
      | none => .error (.of .invalidEscape c.look)

/-- A control character, which a string may hold only as an escape. -/
def isControl (c : Char) : Bool :=
  c.toNat < 0x20

/-- The characters up to the closing quote; the fuel is the length of the text. -/
def readChars : Nat → Cursor → Except Fault (List Char × Cursor)
  | 0, c => .error (.of .endInString c.pos)
  | fuel + 1, c =>
    match c.rest with
    | [] => .error (.of .endInString c.pos)
    | ch :: _ =>
      if ch = '"' then .ok ([], c.next)
      else if ch = '\\' then do
        let (d, c) ← readEscape c.next
        let (ds, c) ← readChars fuel c
        return (d :: ds, c)
      else if isControl ch then .error (.of .controlCharacter c.look)
      else do
        let (ds, c) ← readChars fuel c.next
        return (ch :: ds, c)

/-- The string at a cursor, behind its opening quote. -/
def readString (c : Cursor) : Except Fault (String × Cursor) := do
  let (cs, c) ← readChars (c.rest.length + 1) c
  return (String.ofList cs, c)

/-- The cursor behind an escape, behind its backslash, whatever it stands for. -/
def ignoreEscape (c : Cursor) : Except Fault Cursor :=
  match c.rest with
  | [] => .error (.of .endInString c.pos)
  | ch :: _ =>
    if ch = 'u' then (readHex c.next).map (·.2)
    else if (simpleEscape? ch).isSome then .ok c.next
    else .error (.of .invalidEscape c.look)

/-- The cursor behind the closing quote; the fuel is the length of the text. -/
def ignoreChars : Nat → Cursor → Except Fault Cursor
  | 0, c => .error (.of .endInString c.pos)
  | fuel + 1, c =>
    match c.rest with
    | [] => .error (.of .endInString c.pos)
    | ch :: _ =>
      if ch = '"' then .ok c.next
      else if ch = '\\' then do
        let c ← ignoreEscape c.next
        ignoreChars fuel c
      else if isControl ch then .error (.of .controlCharacter c.pos)
      else ignoreChars fuel c.next

/-- The cursor behind a string, whatever it holds; the cursor stands behind the opening quote. -/
def ignoreString (c : Cursor) : Except Fault Cursor :=
  ignoreChars (c.rest.length + 1) c

end ScriptStage.Json
