import ScriptStage.Engine.Conventions
import ScriptStage.Engine.JavaScriptText

/-!
# Tokens of JavaScript programs

## Main definitions

* `ScriptStage.JavaScript.Token`: the tokens.
* `ScriptStage.JavaScript.Location`, `Lead`: places in a text, and how a token stands in it.
* `ScriptStage.JavaScript.SyntaxFault`: why a text is no program.
* `ScriptStage.JavaScript.tokens`: the tokens of a text.
-/

set_option autoImplicit false

namespace ScriptStage.JavaScript

/-- The tokens. -/
inductive Token where
  /-- A name or a keyword. -/
  | name (s : String)
  /-- A number. -/
  | num (x : Float)
  /-- An integer of any size. -/
  | bigint (n : Nat)
  /-- A string. -/
  | str (u : Units)
  /-- A string with the texts of expressions in it. -/
  | template (head : Units) (parts : List (List Char × Units))
  /-- An operator or a bracket. -/
  | mark (s : String)

/-- A character that ends a line. -/
def isLineEnd (c : Char) : Bool :=
  c = '\n' || c = '\r' || c = '\u2028' || c = '\u2029'

/-- A place in a text: the line and the character of the line, both counted from one. -/
structure Location where
  /-- The line. -/
  line : Nat
  /-- The character of the line. -/
  column : Nat
  deriving DecidableEq, Repr

namespace Location

/-- The start of a text. -/
def start : Location := ⟨1, 1⟩

/-- The place behind a character. -/
def after (p : Location) (c : Char) : Location :=
  if isLineEnd c then ⟨p.line + 1, 1⟩ else ⟨p.line, p.column + 1⟩

/-- The place behind a text. -/
def afterText (p : Location) (t : List Char) : Location :=
  t.foldl after p

/-- The wording of a place. -/
def text (p : Location) : String :=
  " at line " ++ toString p.line ++ ", col " ++ toString p.column

end Location

/-- How a token stands in its text. -/
structure Lead where
  /-- It begins a line. -/
  begins : Bool
  /-- Where it stands. -/
  pos : Location

/-- Why a text is no program. -/
inductive SyntaxFault where
  /-- A character that begins no token. -/
  | character (c : Char) (pos : Location)
  /-- A string that does not end. -/
  | openString
  /-- A string, comment or number that is malformed or does not end. -/
  | literal (pos : Location)
  /-- The text ends too early. -/
  | ended
  /-- A token in a part of the grammar where it cannot stand. -/
  | unexpected (token part : String) (pos : Location)
  /-- A token in the place of another. -/
  | expected (wanted token part : String) (pos : Location)
  /-- A block declares a variable twice. -/
  | redeclared (pos : Location)
  /-- A block declares a variable that a function has as its own. -/
  | shared (pos : Location)

/-- The wording of a syntax fault. -/
def SyntaxFault.message (f : SyntaxFault) : String :=
  let what :=
    match f with
    | character c p =>
      "unexpected '" ++ String.singleton c ++ "' at line " ++ toString p.line ++ ", column "
        ++ toString p.column ++ p.text
    | openString => "unterminated string literal"
    | literal p => "malformed literal" ++ p.text
    | ended => "abrupt end"
    | unexpected t part p => "unexpected token '" ++ t ++ "', " ++ part ++ p.text
    | expected wanted t part p =>
      "expected token '" ++ wanted ++ "', got '" ++ t ++ "' in " ++ part ++ p.text
    | redeclared p => "lexical name declared multiple times" ++ p.text
    | shared p => "lexical name declared in var names" ++ p.text
  "SyntaxError: " ++ what

/-- A character that may begin a name. -/
def isNameStart (c : Char) : Bool :=
  c.isAlpha || c = '_' || c = '$' || (0x80 ≤ c.toNat && !isBlank c)

/-- A character that may stand inside a name. -/
def isNamePart (c : Char) : Bool :=
  isNameStart c || Text.isDigit c

/-- The operators and brackets, longer ones first. -/
def marks : List String :=
  [ ">>>=", "===", "!==", ">>>", "**=", "<<=", ">>=", "&&=", "||=", "??=", "...", "=>", "==", "!=",
    "<=", ">=", "&&", "||", "??", "++", "--", "+=", "-=", "*=", "/=", "%=", "&=", "|=", "^=", "<<",
    ">>", "**", "\x7b", "\x7d", "(", ")", "[", "]", ";", ",", "<", ">", "+", "-", "*", "/", "%",
    "&", "|", "^", "!", "~", "?", ":", "=", "." ]

/-- The text behind a comment between marks, and whether the comment holds a line end. -/
def skipComment : Bool → List Char → Option (Bool × List Char)
  | _, [] => none
  | _, [_] => none
  | line, c :: d :: rest =>
    if c = '*' ∧ d = '/' then some (line, rest) else skipComment (line || isLineEnd c) (d :: rest)

/-- The unit that four hexadecimal digits denote. -/
def unitOf? (ds : List Char) : Option UInt16 :=
  if ds.length = 4 then (Text.natIn? 16 ds).map UInt16.ofNat else none

/-- The units of an escape, behind its backslash, and what follows. -/
def readEscape : List Char → Option (Units × List Char)
  | [] => none
  | 'n' :: t => some ([10], t)
  | 't' :: t => some ([9], t)
  | 'r' :: t => some ([13], t)
  | 'b' :: t => some ([8], t)
  | 'f' :: t => some ([12], t)
  | 'v' :: t => some ([11], t)
  | '0' :: t => if (t.head?.map Text.isDigit).getD false then none else some ([0], t)
  | 'x' :: t => (Text.natIn? 16 (t.take 2)).bind fun n =>
      if (t.take 2).length = 2 then some ([UInt16.ofNat n], t.drop 2) else none
  | 'u' :: '\x7b' :: t =>
    let ds := t.takeWhile (· ≠ '\x7d')
    (Text.natIn? 16 ds).bind fun n =>
      if n ≤ 0x10FFFF ∧ (t.drop ds.length).head? = some '\x7d' then
        let units :=
          if n < 0x10000 then [UInt16.ofNat n] else Units.ofChar (Char.ofNat n)
        some (units, t.drop (ds.length + 1))
      else none
  | 'u' :: t => (unitOf? (t.take 4)).map fun u => ([u], t.drop 4)
  | '\r' :: '\n' :: t => some ([], t)
  | c :: t => if isLineEnd c then some ([], t) else some (Units.ofChar c, t)

/-- The units of a string up to its closing quote, and what follows. The fuel is the length of the
text. -/
def readQuoted (quote : Char) : Nat → List Char → Option (Units × List Char)
  | 0, _ => none
  | _, [] => none
  | fuel + 1, c :: t =>
    if c = quote then some ([], t)
    else if c = '\\' then do
      let (u, t) ← readEscape t
      let (us, t) ← readQuoted quote fuel t
      return (u ++ us, t)
    else if c = '\n' ∨ c = '\r' then none
    else do
      let (us, t) ← readQuoted quote fuel t
      return (Units.ofChar c ++ us, t)

/-- The units of a template up to its end or the next expression; the flag tells which. The fuel
is the length of the text. -/
def readTemplateText : Nat → List Char → Option (Units × Bool × List Char)
  | 0, _ => none
  | _, [] => none
  | fuel + 1, c :: t =>
    if c = '\u0060' then some ([], false, t)
    else if c = '$' ∧ t.head? = some '\x7b' then some ([], true, t.drop 1)
    else if c = '\\' then do
      let (u, t) ← readEscape t
      let (us, more, t) ← readTemplateText fuel t
      return (u ++ us, more, t)
    else do
      let (us, more, t) ← readTemplateText fuel t
      return (Units.ofChar c ++ us, more, t)

/-- The expressions of a template with the text behind each. The fuel is the length of the
text. -/
def readTemplateParts : Nat → List Char → Option (List (List Char × Units) × List Char)
  | 0, _ => none
  | fuel + 1, t => do
    let (code, t) ← Engine.readCode 0 t
    let (us, more, t) ← readTemplateText (t.length + 1) t
    if more then
      let (parts, t) ← readTemplateParts fuel t
      return ((code, us) :: parts, t)
    else return ([(code, us)], t)

/-- The number at the start of a text, which begins with a digit, or a point and a digit. -/
def readNumber (t : List Char) : Option (Token × List Char) :=
  let finish (token : Token) (rest : List Char) : Option (Token × List Char) :=
    if (rest.head?.map isNamePart).getD false then none else some (token, rest)
  let based :=
    match t with
    | '0' :: m :: ds => (baseOfMark? m).map fun base => (base, ds)
    | _ => none
  match based with
  | some (base, ds) =>
    let digits := ds.takeWhile fun c => (Text.digitIn? base c).isSome
    (Text.natIn? base digits).bind fun n =>
      match ds.drop digits.length with
      | 'n' :: rest => finish (.bigint n) rest
      | rest => finish (.num (Decimal.nearest n 0)) rest
  | none =>
    let d := Decimal.readDecimal t
    match d.rest with
    | 'n' :: rest =>
      if d.hasPoint || d.hasExponent then none else finish (.bigint (Text.natOf d.whole)) rest
    | rest => finish (.num d.value) rest

/-- The token at the start of a text, which begins with no blank, and what follows. -/
def readToken (p : Location) (t : List Char) : Except SyntaxFault (Token × List Char) :=
  match t with
  | [] => .error .ended
  | c :: rest =>
    let orFault (r : Option (Token × List Char)) : Except SyntaxFault (Token × List Char) :=
      match r with
      | some r => .ok r
      | none => .error (.literal p)
    if isNameStart c then
      .ok (.name (String.ofList (t.takeWhile isNamePart)), t.dropWhile isNamePart)
    else if Text.isDigit c || (c = '.' && (rest.head?.map Text.isDigit).getD false) then
      orFault (readNumber t)
    else if c = '"' || c = '\u0027' then
      match readQuoted c (rest.length + 1) rest with
      | some (us, t) => .ok (.str us, t)
      | none => .error .openString
    else if c = '\u0060' then
      orFault do
        let (head, more, t) ← readTemplateText (rest.length + 1) rest
        if more then
          let (parts, t) ← readTemplateParts (t.length + 1) t
          return (.template head parts, t)
        else return (.template head [], t)
    else
      match marks.find? fun m => m.toList.isPrefixOf t with
      | some m => .ok (.mark m, t.drop m.length)
      | none => .error (.character c p)

/-- The tokens of a text. The flag says whether a line begins. The fuel is the length of the
text. -/
def tokensFrom : Nat → Lead → List Char → Except SyntaxFault (List (Lead × Token))
  | 0, _, _ => .ok []
  | _, _, [] => .ok []
  | fuel + 1, lead, c :: rest =>
    let t := c :: rest
    let behind (begins : Bool) (left : List Char) : Lead :=
      ⟨begins, lead.pos.afterText (t.take (t.length - left.length))⟩
    if isLineEnd c then tokensFrom fuel (behind true rest) rest
    else if isBlank c then tokensFrom fuel (behind lead.begins rest) rest
    else if c = '/' ∧ rest.head? = some '/' then
      let left := rest.dropWhile fun d => !isLineEnd d
      tokensFrom fuel (behind lead.begins left) left
    else if c = '/' ∧ rest.head? = some '*' then
      match skipComment false (rest.drop 1) with
      | some (ended, left) => tokensFrom fuel (behind (lead.begins || ended) left) left
      | none => .error (.literal lead.pos)
    else
      match readToken lead.pos t with
      | .error e => .error e
      | .ok (token, left) =>
        (tokensFrom fuel (behind false left) left).map ((lead, token) :: ·)

/-- The tokens of a text, each with how it stands there. -/
def tokens (t : List Char) : Except SyntaxFault (List (Lead × Token)) :=
  tokensFrom (t.length + 1) ⟨true, .start⟩ t

end ScriptStage.JavaScript
