import ScriptStage.Json.Cursor
import ScriptStage.Json.Printer
import ScriptStage.Text.Quoted

/-!
# What is wrong with a JSON text

A text is refused for a cause, nearly always at a position. The wording of each cause is fixed in
`Cause.message`.

## Main definitions

* `ScriptStage.Json.Cause`: the causes, syntax first, then values of an unfitting type.
* `ScriptStage.Json.Found`: what stands where a value of another type is expected.
* `ScriptStage.Json.Fault`: a cause with its position; `Fault.message` is its text.
-/

set_option autoImplicit false

namespace ScriptStage.Json

/-- What stands where a value of another type is expected. -/
inductive Found where
  /-- A scalar. -/
  | scalar (v : Json)
  /-- The beginning of an array. -/
  | sequence
  /-- The beginning of an object. -/
  | map
  /-- The bare name of an alternative. -/
  | unitVariant

/-- Names a scalar. -/
def Found.describeScalar : Json → String
  | .null => "null"
  | .bool b => "boolean `" ++ String.ofList (writeBool b) ++ "`"
  | .num (.int n _) => "integer `" ++ String.ofList (writeInt n) ++ "`"
  | .num (.float x _) => "floating point `" ++ String.ofList (number.render x) ++ "`"
  | .str s => "string " ++ Text.quoted s
  | .arr _ => "sequence"
  | .obj _ => "map"

/-- Names what was found. -/
def Found.describe : Found → String
  | scalar v => describeScalar v
  | sequence => "sequence"
  | map => "map"
  | unitVariant => "unit variant"

/-- Why a text is refused. -/
inductive Cause where
  /-- A character that begins no value. -/
  | expectedValue
  /-- The text ends where a value is expected or inside a scalar. -/
  | endInValue
  /-- The text ends inside an array. -/
  | endInList
  /-- The text ends inside an object. -/
  | endInObject
  /-- The text ends inside a string. -/
  | endInString
  /-- No colon behind a key. -/
  | expectedColon
  /-- Neither comma nor bracket behind an item. -/
  | expectedListCommaOrEnd
  /-- Neither comma nor brace behind a field. -/
  | expectedObjectCommaOrEnd
  /-- A misspelt `null`, `true` or `false`. -/
  | expectedWord
  /-- A key that is not a string. -/
  | keyNotString
  /-- A comma before a closing bracket or brace. -/
  | trailingComma
  /-- Characters behind the value. -/
  | trailingCharacters
  /-- Too many arrays and objects inside one another. -/
  | recursionLimit
  /-- A malformed number. -/
  | invalidNumber
  /-- A number beyond the doubles. -/
  | numberOutOfRange
  /-- A backslash before a character that it cannot escape. -/
  | invalidEscape
  /-- A high surrogate that no escape follows. -/
  | unexpectedEndOfHexEscape
  /-- A surrogate without its partner. -/
  | loneSurrogate
  /-- A control character inside a string. -/
  | controlCharacter
  /-- A value of another type than expected. -/
  | invalidType (found : Found) (expected : String)
  /-- A field that must be present is not. -/
  | missingField (name : String)
  /-- A field occurs twice. -/
  | duplicateField (name : String)
  /-- An array that stands for a record has too few items. -/
  | invalidLength (length : Nat) (expected : String)
  /-- A name of no alternative. -/
  | unknownVariant (name : String) (known : List String)

/-- The wording of a cause. -/
def Cause.message : Cause → String
  | expectedValue => "expected value"
  | endInValue => "EOF while parsing a value"
  | endInList => "EOF while parsing a list"
  | endInObject => "EOF while parsing an object"
  | endInString => "EOF while parsing a string"
  | expectedColon => "expected `:`"
  | expectedListCommaOrEnd => "expected `,` or `]`"
  | expectedObjectCommaOrEnd => "expected `,` or `\x7d`"
  | expectedWord => "expected ident"
  | keyNotString => "key must be a string"
  | trailingComma => "trailing comma"
  | trailingCharacters => "trailing characters"
  | recursionLimit => "recursion limit exceeded"
  | invalidNumber => "invalid number"
  | numberOutOfRange => "number out of range"
  | invalidEscape => "invalid escape"
  | unexpectedEndOfHexEscape => "unexpected end of hex escape"
  | loneSurrogate => "lone leading surrogate in hex escape"
  | controlCharacter =>
    "control character (\\u0000-\\u001F) found while parsing a string"
  | invalidType found expected =>
    "invalid type: " ++ found.describe ++ ", expected " ++ expected
  | missingField name => "missing field `" ++ name ++ "`"
  | duplicateField name => "duplicate field `" ++ name ++ "`"
  | invalidLength n expected =>
    "invalid length " ++ String.ofList (writeInt n) ++ ", expected " ++ expected
  | unknownVariant name known =>
    "unknown variant `" ++ name ++ "`, expected one of "
      ++ ", ".intercalate (known.map fun k => "`" ++ k ++ "`")

/-- A refusal: the cause and, except for few causes, the position. -/
structure Fault where
  /-- Why the text is refused. -/
  cause : Cause
  /-- Where. -/
  position : Option Position

namespace Fault

/-- A fault at a position. -/
def of (cause : Cause) (p : Position) : Fault := ⟨cause, some p⟩

/-- The text of a fault. -/
def message (f : Fault) : String :=
  match f.position with
  | none => f.cause.message
  | some p =>
    f.cause.message ++ " at line " ++ String.ofList (writeInt p.line) ++ " column "
      ++ String.ofList (writeInt p.column)

end Fault

end ScriptStage.Json
