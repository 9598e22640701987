import ScriptStage.Decimal.Notation
import ScriptStage.Json.Basic

/-!
# Writing JSON

The text has no blanks. Strings escape the quote, the backslash and the control characters and
leave every other character as it is. Doubles have the fewest digits that read back, positionally
for decimal exponents from -5 to 15.

## Main definitions

* `ScriptStage.Json.write`: the characters of a value; `render`: the same as a string.
* `ScriptStage.Json.writeObject`: an object whose fields stand in a given order.
* `ScriptStage.Json.number`: the layout of doubles.
-/

set_option autoImplicit false

namespace ScriptStage.Json

open Decimal

/-- Doubles are written positionally for decimal exponents from -5 to 15, with at least one place
after the point, otherwise with a signed exponent. -/
def number : Notation where
  plainFrom := -5
  plainBelow := 16
  pointZero := true
  exponentPlus := true
  exponentWidth := 1
  tie := .toEven
  signedZero := true
  nan := "null"
  infinity := "null"

/-- The lower-case hexadecimal digit of a number below 16. -/
def hexDigit (n : Nat) : Char :=
  Nat.digitChar n

/-- The escaped form of a character in a string. -/
def escape (c : Char) : List Char :=
  if c = '"' then ['\\', '"']
  else if c = '\\' then ['\\', '\\']
  else if c = '\x08' then ['\\', 'b']
  else if c = '\x0c' then ['\\', 'f']
  else if c = '\n' then ['\\', 'n']
  else if c = '\r' then ['\\', 'r']
  else if c = '\t' then ['\\', 't']
  else if c.toNat < 0x20 then
    ['\\', 'u', '0', '0', hexDigit (c.toNat / 16), hexDigit (c.toNat % 16)]
  else [c]

/-- A string in quotes. -/
def writeString (s : String) : List Char :=
  '"' :: s.toList.flatMap escape ++ ['"']

/-- The decimal text of an integer. -/
def writeInt (n : Int) : List Char :=
  if n < 0 then '-' :: Notation.digitsOf n.natAbs else Notation.digitsOf n.natAbs

/-- The text of a number. -/
def writeNumber : Number → List Char
  | .int n _ => writeInt n
  | .float x _ => number.render x

/-- A field of an object: its key and the text of its value. -/
def writeField (key : String) (value : List Char) : List Char :=
  writeString key ++ ':' :: value

/-- Texts separated by commas. -/
def commaSeparated (ts : List (List Char)) : List Char :=
  [','].intercalate ts

/-- An object whose fields stand in the given order, each with the text of its value. -/
def writeObject (fields : List (String × List Char)) : List Char :=
  '{' :: commaSeparated (fields.map fun f => writeField f.1 f.2) ++ ['}']

/-- An array of the given texts. -/
def writeArray (items : List (List Char)) : List Char :=
  '[' :: commaSeparated items ++ [']']

/-- A boolean. -/
def writeBool (b : Bool) : List Char :=
  if b then ['t', 'r', 'u', 'e'] else ['f', 'a', 'l', 's', 'e']

/-- The value `null`. -/
def writeNull : List Char :=
  ['n', 'u', 'l', 'l']

/-- A string or `null`. -/
def writeString? : Option String → List Char
  | some s => writeString s
  | none => writeNull

mutual

/-- The text of a value. -/
def write : Json → List Char
  | null => writeNull
  | bool b => writeBool b
  | num n => writeNumber n
  | str s => writeString s
  | arr items => writeArray (writeItems items)
  | obj fields => writeObject (writeFields fields)

/-- The texts of the items of an array. -/
def writeItems : List Json → List (List Char)
  | [] => []
  | v :: vs => write v :: writeItems vs

/-- The texts of the values of fields. -/
def writeFields : List (String × Json) → List (String × List Char)
  | [] => []
  | (k, v) :: fs => (k, write v) :: writeFields fs

end

/-- The text of a value as a string. -/
def render (v : Json) : String :=
  String.ofList (write v)

end ScriptStage.Json
