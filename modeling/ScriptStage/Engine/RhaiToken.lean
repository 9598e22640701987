import ScriptStage.Decimal.Reading
import ScriptStage.Engine.Conventions
import ScriptStage.Engine.RhaiTree
import ScriptStage.Text.Blank

/-!
# Tokens of Rhai programs

## Main definitions

* `ScriptStage.Rhai.Token`: the tokens.
* `ScriptStage.Rhai.SyntaxCause`, `SyntaxFault`: why, and where, a text is no program.
* `ScriptStage.Rhai.tokens`: the tokens of a text with their places.
-/

set_option autoImplicit false

namespace ScriptStage.Rhai

/-- The tokens. -/
inductive Token where
  /-- A name or a keyword. -/
  | name (s : String)
  /-- An integer. -/
  | int (n : Int)
  /-- A number with a fraction. -/
  | float (x : Float)
  /-- A character. -/
  | char (c : Char)
  /-- A string. -/
  | str (s : String)
  /-- A string with the texts of blocks in it, each with its place and the text behind it. -/
  | template (head : String) (parts : List (Place × List Char × String))
  /-- An operator or a bracket. -/
  | mark (s : String)

/-- Why a text is no program. -/
inductive SyntaxCause where
  /-- A character that begins no token. -/
  | character (c : Char)
  /-- A string that does not end. -/
  | openString
  /-- A character, number or comment that is malformed or does not end. -/
  | literal
  /-- The text ends too early. -/
  | ended
  /-- A token in a place where it cannot stand. -/
  | unexpected (token : String)
  /-- A token is missing that serves a purpose. -/
  | missing (token purpose : String)
  /-- A word that the language keeps for itself. -/
  | reservedWord (word : String)
  /-- A mark that the language keeps for itself. -/
  | reservedMark (mark : String)
  /-- The name of a variable is missing. -/
  | noVariable
  /-- The name of a property is missing. -/
  | noProperty
  /-- The name of a function is missing. -/
  | noFunction
  /-- The parameters of a function are missing. -/
  | noParameters (function : String)
  /-- The body of a function is missing. -/
  | noBody (function : String)
  /-- An expression of some kind is missing. -/
  | noExpression (kind : String)
  /-- An assignment to a constant. -/
  | constant (name : String)
  /-- An assignment to what is no variable. -/
  | target
  /-- A function or a parameter with a name that is taken. -/
  | repeated (name : String)
  /-- An end of a loop outside of a loop. -/
  | outsideLoop
  /-- Expressions nest too deep. -/
  | tooDeep

/-- The wording of a cause, without its place. -/
def SyntaxCause.message : SyntaxCause → String
  | character c => "Unexpected '" ++ String.singleton c ++ "'"
  | openString => "Open string is not terminated"
  | literal => "Malformed literal"
  | ended => "Script is incomplete"
  | unexpected t => "Unexpected '" ++ t ++ "'"
  | missing t purpose => "Expecting '" ++ t ++ "' " ++ purpose
  | reservedWord w => "'" ++ w ++ "' is a reserved keyword"
  | reservedMark m => "'" ++ m ++ "' is a reserved symbol"
  | noVariable => "Expecting name of a variable"
  | noProperty => "Expecting name of a property"
  | noFunction => "Expecting function name in function declaration"
  | noParameters f => "Expecting parameters for function '" ++ f ++ "'"
  | noBody f => "Expecting body statement block for function '" ++ f ++ "'"
  | noExpression kind => "Expecting " ++ kind ++ " expression"
  | constant n => "Cannot assign to constant " ++ n
  | target => "Expression cannot be assigned to"
  | repeated n => "Name '" ++ n ++ "' is already used"
  | outsideLoop => "Break statement should only be used inside a loop"
  | tooDeep => "Expression exceeds maximum complexity"

/-- Why and where a text is no program. -/
structure SyntaxFault where
  /-- The cause. -/
  cause : SyntaxCause
  /-- The place. -/
  pos : Place

/-- The wording of a syntax fault. -/
def SyntaxFault.message (f : SyntaxFault) : String :=
  f.cause.message ++ f.pos.text

/-- The place behind a character. -/
def Place.after (p : Place) (c : Char) : Place :=
  if c = '\n' then ⟨p.line + 1, 1⟩ else ⟨p.line, p.column + 1⟩

/-- The place behind a text. -/
def Place.afterText (p : Place) (t : List Char) : Place :=
  t.foldl Place.after p

/-- A character that may begin a name. -/
def isNameStart (c : Char) : Bool :=
  c.isAlpha || c = '_'

/-- A character that may stand inside a name. -/
def isNamePart (c : Char) : Bool :=
  isNameStart c || Text.isDigit c

/-- The operators and brackets, longer ones first. -/
def marks : List String :=
  [ "**=", "<<=", ">>=", "..=", "#\x7b", "=>", "==", "!=", "<=", ">=", "&&", "||", "??", "+=", "-=",
    "*=", "/=", "%=", "&=", "|=", "^=", "<<", ">>", "**", "..", "::", "\x7b", "\x7d", "(", ")", "[",
    "]", ";", ",", "<", ">", "+", "-", "*", "/", "%", "&", "|", "^", "!", ":", "=", ".", "@", "$",
    "~", "?" ]

/-- The marks that stand for nothing yet. -/
def reservedMarks : List String :=
  ["@", "$", "~", "?"]

/-- The bounds of integers. -/
def intMin : Int := -0x8000000000000000

/-- The bounds of integers. -/
def intMax : Int := 0x7FFFFFFFFFFFFFFF

/-- How many values 64 bits have. -/
def wordSize : Nat := 0x10000000000000000

/-- The integer that 64 bits denote. -/
def ofBits (n : Nat) : Int :=
  Int.bmod n wordSize

/-- The 64 bits of an integer. -/
def toBits (n : Int) : Nat :=
  (n % wordSize).toNat

/-- The number at the start of a text that begins with a digit, and what follows. -/
def readNumber (t : List Char) : Option (Token × List Char) :=
  let base? : Option (Nat × List Char) :=
    match t with
    | '0' :: 'x' :: ds | '0' :: 'X' :: ds => some (16, ds)
    | '0' :: 'o' :: ds | '0' :: 'O' :: ds => some (8, ds)
    | '0' :: 'b' :: ds | '0' :: 'B' :: ds => some (2, ds)
    | _ => none
  let digitsOf (ok : Char → Bool) (t : List Char) : List Char × List Char :=
    let ds := t.takeWhile fun c => ok c || c = '_'
    (ds.filter (· ≠ '_'), t.drop ds.length)
  match base? with
  | some (base, t) =>
    let (ds, rest) := digitsOf (fun c => (Text.digitIn? base c).isSome) t
    (Text.natIn? base ds).bind fun n => if n < wordSize then some (.int (ofBits n), rest) else none
  | none =>
    let (whole, rest) := digitsOf Text.isDigit t
    let (places, hasPoint, rest) :=
      match rest with
      | '.' :: c :: more =>
        if Text.isDigit c then
          let (ds, rest) := digitsOf Text.isDigit (c :: more)
          (ds, true, rest)
        else if c = '.' || isNameStart c then ([], false, rest)
        else ([], true, c :: more)
      | ['.'] => ([], true, [])
      | _ => ([], false, rest)
    let (exponent, behind) := Decimal.readExponentPart rest
    let isFloat := hasPoint || behind.length < rest.length
    let n : Int := Text.natOf whole
    if !isFloat && n ≤ intMax then some (.int n, behind)
    else
      some (.float (Decimal.nearest (Text.natOf (whole ++ places)) (exponent - places.length)),
        behind)

/-- The character of an escape, behind its backslash, and what follows. -/
def readEscape : List Char → Option (Char × List Char)
  | 'n' :: t => some ('\n', t)
  | 't' :: t => some ('\t', t)
  | 'r' :: t => some ('\r', t)
  | '\\' :: t => some ('\\', t)
  | '"' :: t => some ('"', t)
  | '\u0027' :: t => some ('\u0027', t)
  | 'x' :: t => numbered 2 t
  | 'u' :: t => numbered 4 t
  | 'U' :: t => numbered 8 t
  | _ => none
where
  /-- The character whose number has so many digits. -/
  numbered (count : Nat) (t : List Char) : Option (Char × List Char) :=
    (Text.natIn? 16 (t.take count)).bind fun n =>
      if (t.take count).length = count ∧ n.isValidChar then some (Char.ofNat n, t.drop count)
      else none

/-- The characters of a string up to its closing quote, and what follows. The fuel is the length
of the text. -/
def readQuoted (quote : Char) : Nat → List Char → Option (List Char × List Char)
  | 0, _ => none
  | _, [] => none
  | fuel + 1, c :: t =>
    if c = quote then some ([], t)
    else if c = '\\' then do
      let (d, t) ← readEscape t
      let (ds, t) ← readQuoted quote fuel t
      return (d :: ds, t)
    else if c = '\n' then none
    else do
      let (ds, t) ← readQuoted quote fuel t
      return (c :: ds, t)

/-- The characters of a template up to its end or the next block; the flag tells which. -/
def readTemplateText : List Char → Option (List Char × Bool × List Char)
  | [] => none
  | '\u0060' :: '\u0060' :: t => (readTemplateText t).map fun r => ('\u0060' :: r.1, r.2)
  | '\u0060' :: t => some ([], false, t)
  | '$' :: '\x7b' :: t => some ([], true, t)
  | c :: t => (readTemplateText t).map fun r => (c :: r.1, r.2)

/-- The blocks of a template, each with its place and the text behind it. The fuel is the length
of the text. -/
def readTemplateParts : Nat → Place → List Char →
    Option (List (Place × List Char × String) × List Char)
  | 0, _, _ => none
  | fuel + 1, p, t => do
    let (code, t) ← Engine.readCode 0 t
    let behind := (p.afterText code).after '\x7d'
    let (text, more, t) ← readTemplateText t
    let part := (p, code, String.ofList text)
    if more then
      let next := ((behind.afterText text).after '$').after '\x7b'
      let (parts, t) ← readTemplateParts fuel next t
      return (part :: parts, t)
    else return ([part], t)

/-- The token at the start of a text, which begins with no blank, and what follows. -/
def readToken (p : Place) (t : List Char) : Except SyntaxCause (Token × List Char) :=
  match t with
  | [] => .error .ended
  | c :: rest =>
    let orFault (r : Option (Token × List Char)) : Except SyntaxCause (Token × List Char) :=
      match r with
      | some r => .ok r
      | none => .error .literal
    if isNameStart c then
      .ok (.name (String.ofList (t.takeWhile isNamePart)), t.dropWhile isNamePart)
    else if Text.isDigit c then orFault (readNumber t)
    else if c = '"' then
      match readQuoted c (rest.length + 1) rest with
      | some (ds, t) => .ok (.str (String.ofList ds), t)
      | none => .error .openString
    else if c = '\u0027' then
      orFault do
        let (ds, t) ← readQuoted c (rest.length + 1) rest
        match ds with
        | [d] => return (.char d, t)
        | _ => none
    else if c = '\u0060' then
      orFault do
        let body := if rest.head? = some '\n' then rest.drop 1 else rest
        let (head, more, t) ← readTemplateText body
        if more then
          let start := p.afterText ((c :: rest).take (rest.length + 1 - t.length))
          let (parts, t) ← readTemplateParts (t.length + 1) start t
          return (.template (String.ofList head) parts, t)
        else return (.template (String.ofList head) [], t)
    else
      match marks.find? fun m => m.toList.isPrefixOf t with
      | some m => .ok (.mark m, t.drop m.length)
      | none => .error (.character c)

/-- The text behind a comment between marks, which may hold others. -/
def skipComment : Nat → List Char → Option (List Char)
  | _, [] => none
  | _, [_] => none
  | depth, c :: d :: rest =>
    if c = '*' ∧ d = '/' then
      match depth with
      | 0 => some rest
      | k + 1 => skipComment k rest
    else if c = '/' ∧ d = '*' then skipComment (depth + 1) rest
    else skipComment depth (d :: rest)

/-- The tokens of a text with their places. The fuel is the length of the text. -/
def tokensFrom : Nat → Place → List Char → Except SyntaxFault (List (Place × Token))
  | 0, _, _ => .ok []
  | _, _, [] => .ok []
  | fuel + 1, p, c :: rest =>
    let t := c :: rest
    let behind (left : List Char) : Place := p.afterText (t.take (t.length - left.length))
    if Text.isBlank c then tokensFrom fuel (p.after c) rest
    else if c = '/' ∧ rest.head? = some '/' then
      let left := rest.dropWhile (· ≠ '\n')
      tokensFrom fuel (behind left) left
    else if c = '/' ∧ rest.head? = some '*' then
      match skipComment 0 (rest.drop 1) with
      | some left => tokensFrom fuel (behind left) left
      | none => .error ⟨.literal, p⟩
    else
      match readToken p t with
      | .error cause => .error ⟨cause, p⟩
      | .ok (token, left) => (tokensFrom fuel (behind left) left).map ((p, token) :: ·)

/-- The tokens of a text that starts at a place. -/
def tokens (p : Place) (t : List Char) : Except SyntaxFault (List (Place × Token)) :=
  tokensFrom (t.length + 1) p t

end ScriptStage.Rhai
