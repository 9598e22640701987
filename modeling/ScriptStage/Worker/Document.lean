import ScriptStage.Decimal.Reading
import ScriptStage.Json.Printer
import ScriptStage.Json.Reader.Text

/-!
# Documents of interpreters

JSON as interpreters handle it: integers have any size, and the fields of an object stand in any
order and may repeat. A document is written in ASCII, with a blank behind each comma and colon.

## Main definitions

* `ScriptStage.Worker.Document`: the documents.
* `ScriptStage.Worker.Document.write`: the text of a document.
* `ScriptStage.Worker.Document.parse`: the document of a text.
-/

set_option autoImplicit false

namespace ScriptStage.Worker

/-- A JSON document. -/
inductive Document where
  /-- The value `null`. -/
  | null
  /-- A boolean. -/
  | bool (b : Bool)
  /-- An integer. -/
  | int (n : Int)
  /-- A finite double. -/
  | float (x : Float) (finite : x.isFinite = true)
  /-- A string. -/
  | str (s : String)
  /-- An array. -/
  | arr (items : List Document)
  /-- An object. -/
  | obj (fields : List (String × Document))

namespace Document

instance : Inhabited Document := ⟨null⟩

/-- The double as a document, if it is finite. -/
def ofFloat? (x : Float) : Option Document :=
  if h : x.isFinite = true then some (float x h) else none

/-! ## Writing -/

/-- Doubles are written positionally for decimal exponents from -4 to 15, with at least one place
after the point, otherwise with a signed exponent of two digits. -/
def number : Decimal.Notation where
  plainFrom := -4
  plainBelow := 16
  pointZero := true
  exponentPlus := true
  exponentWidth := 2
  tie := .toEven
  signedZero := true
  nan := "nan"
  infinity := "inf"

/-- A unit of 16 bits between quotes. -/
def escape (u : UInt16) : List Char :=
  let n := u.toNat
  let c := Char.ofNat n
  if c = '"' ∨ c = '\\' ∨ c = '\x08' ∨ c = '\x0c' ∨ c = '\n' ∨ c = '\r' ∨ c = '\t' then
    Json.escape c
  else if 0x20 ≤ n ∧ n < 0x7F then [c]
  else '\\' :: 'u' :: Decimal.Notation.padZeros 4 (Nat.toDigits 16 n)

/-- A text in quotes. Characters beyond 16 bits are escaped as two units, and so is a surrogate
without its partner as one. -/
def writeUnits (us : List UInt16) : List Char :=
  '"' :: us.flatMap escape ++ ['"']

/-- A string in quotes. -/
def writeString (s : String) : List Char :=
  writeUnits (Text.units s)

/-- Texts separated by commas. -/
def separated (ts : List (List Char)) : List Char :=
  [',', ' '].intercalate ts

mutual

/-- The text of a document. -/
def write : Document → List Char
  | null => Json.writeNull
  | bool b => Json.writeBool b
  | int n => Json.writeInt n
  | float x _ => number.render x
  | str s => writeString s
  | arr items => '[' :: separated (writeItems items) ++ [']']
  | obj fields => '{' :: separated (writeFields fields) ++ ['}']

/-- The texts of the items of an array. -/
def writeItems : List Document → List (List Char)
  | [] => []
  | d :: ds => write d :: writeItems ds

/-- The texts of fields. -/
def writeFields : List (String × Document) → List (List Char)
  | [] => []
  | (k, d) :: fs => (writeString k ++ ':' :: ' ' :: write d) :: writeFields fs

end

/-! ## Reading -/

/-- A blank between the parts of a document. -/
def isSpace (c : Char) : Bool :=
  c = ' ' || c = '\t' || c = '\n' || c = '\r'

/-- The number that four hexadecimal digits denote. -/
def unit? (ds : List Char) : Option Nat :=
  if ds.length = 4 then Text.natIn? 16 ds else none

/-- The character of an escape, behind its backslash, and what follows. -/
def readEscape (t : List Char) : Option (Char × List Char) :=
  match t with
  | 'u' :: rest => do
    let n ← unit? (rest.take 4)
    let behind := rest.drop 4
    if Text.isHighUnit n then
      match behind with
      | '\\' :: 'u' :: more =>
        let low ← unit? (more.take 4)
        if Text.isLowUnit low then some (Text.joinPair n low, more.drop 4) else none
      | _ => none
    else if Text.isLowUnit n then none
    else some (Char.ofNat n, behind)
  | c :: rest => (Json.simpleEscape? c).map fun d => (d, rest)
  | [] => none

/-- The characters up to the closing quote, and what follows. The fuel is the length of the
text. -/
def readChars : Nat → List Char → Option (List Char × List Char)
  | 0, _ => none
  | _, [] => none
  | fuel + 1, c :: t =>
    if c = '"' then some ([], t)
    else if c = '\\' then do
      let (d, t) ← readEscape t
      let (ds, t) ← readChars fuel t
      return (d :: ds, t)
    else if c.toNat < 0x20 then none
    else do
      let (ds, t) ← readChars fuel t
      return (c :: ds, t)

/-- The string behind an opening quote, and what follows. -/
def readString (t : List Char) : Option (String × List Char) :=
  (readChars (t.length + 1) t).map fun r => (String.ofList r.1, r.2)

/-- The number at the start of a text, and what follows. -/
def readNumber (t : List Char) : Option (Document × List Char) :=
  let (negative, t) :=
    match t with
    | '-' :: rest => (true, rest)
    | _ => (false, t)
  let d := Decimal.readDecimal t
  if d.whole.isEmpty || (d.whole.head? = some '0' && 1 < d.whole.length)
    || (d.hasPoint && d.places.isEmpty) then none
  else if d.hasPoint || d.hasExponent then
    (ofFloat? (if negative then -d.value else d.value)).map fun x => (x, d.rest)
  else
    let n : Int := Text.natOf d.whole
    some (int (if negative then -n else n), d.rest)

/-- The document that a word stands for, if it comes first, and what follows the word. -/
def readWord (w : List Char) (d : Document) (t : List Char) : Option (Document × List Char) :=
  if w.isPrefixOf t then some (d, t.drop w.length) else none

/-- A text without the blanks at its start. -/
def skipSpaces (t : List Char) : List Char :=
  t.dropWhile isSpace

/-- What follows a character, if it comes first behind blanks. -/
def behind? (c : Char) (t : List Char) : Option (List Char) :=
  match skipSpaces t with
  | d :: rest => if d = c then some rest else none
  | [] => none

mutual

/-- The document at the start of a text, and what follows. The fuel bounds how deep it nests and
how many parts it has; the length of the text is always enough. -/
def readDocument : Nat → List Char → Option (Document × List Char)
  | 0, _ => none
  | fuel + 1, t =>
    match skipSpaces t with
    | [] => none
    | '"' :: rest => (readString rest).map fun r => (str r.1, r.2)
    | '[' :: rest =>
      match behind? ']' rest with
      | some rest => some (arr [], rest)
      | none => (readItems fuel rest).map fun r => (arr r.1, r.2)
    | '{' :: rest =>
      match behind? '}' rest with
      | some rest => some (obj [], rest)
      | none => (readFields fuel rest).map fun r => (obj r.1, r.2)
    | c :: rest =>
      (readWord Json.writeNull null (c :: rest))
        |>.orElse fun _ => readWord (Json.writeBool true) (bool true) (c :: rest)
        |>.orElse fun _ => readWord (Json.writeBool false) (bool false) (c :: rest)
        |>.orElse fun _ => readNumber (c :: rest)

/-- The items of an array up to its end. -/
def readItems : Nat → List Char → Option (List Document × List Char)
  | 0, _ => none
  | fuel + 1, t => do
    let (d, t) ← readDocument fuel t
    match skipSpaces t with
    | ']' :: rest => return ([d], rest)
    | ',' :: rest =>
      let (ds, rest) ← readItems fuel rest
      return (d :: ds, rest)
    | _ => none

/-- The fields of an object up to its end. -/
def readFields : Nat → List Char → Option (List (String × Document) × List Char)
  | 0, _ => none
  | fuel + 1, t => do
    let t ← behind? '"' t
    let (k, t) ← readString t
    let t ← behind? ':' t
    let (d, t) ← readDocument fuel t
    match skipSpaces t with
    | '}' :: rest => return ([(k, d)], rest)
    | ',' :: rest =>
      let (fs, rest) ← readFields fuel rest
      return ((k, d) :: fs, rest)
    | _ => none

end

/-- The document of a text. -/
def parse (t : List Char) : Option Document := do
  let (d, rest) ← readDocument (2 * t.length + 2) t
  if (skipSpaces rest).isEmpty then some d else none

/-- The last field of a key. -/
def field? (key : String) (fields : List (String × Document)) : Option Document :=
  fields.reverse.lookup key

end Document

end ScriptStage.Worker
