import ScriptStage.Decimal.Reading
import ScriptStage.Engine.PythonTree
import ScriptStage.Text.Blank

/-!
# Tokens of Python programs

The ends of lines and the changes of indentation are tokens. Inside of brackets, lines go on.

## Main definitions

* `ScriptStage.Python.Token`: the tokens.
* `ScriptStage.Python.SyntaxFault`: why a text is no program.
* `ScriptStage.Python.tokens`: the tokens of a text.
-/

set_option autoImplicit false

namespace ScriptStage.Python

/-- The tokens. -/
inductive Token where
  /-- A name or a keyword. -/
  | name (s : String)
  /-- An integer. -/
  | int (n : Nat)
  /-- A number with a fraction. -/
  | float (x : Float)
  /-- A string. -/
  | str (s : String)
  /-- An operator or a bracket. -/
  | mark (s : String)
  /-- The end of a line. -/
  | newline
  /-- The start of a block. -/
  | indent
  /-- The end of a block. -/
  | dedent
  /-- The end of the text inside of a bracket. -/
  | ended (c : Char)

/-- Why a text is no program. -/
inductive SyntaxCause where
  /-- A token in a place where it cannot stand. -/
  | invalid
  /-- A character that begins no token. -/
  | character (c : Char)
  /-- A string that does not end. -/
  | unterminated
  /-- A number or an escape that is malformed. -/
  | literal
  /-- A bracket that is not closed. -/
  | unclosed (c : Char)
  /-- A closing bracket that nothing opened. -/
  | unmatched (c : Char)
  /-- A line that is further to the right than it may be. -/
  | indented
  /-- A block is missing. -/
  | noBlock
  /-- A line that is as far to the right as no block around it. -/
  | dedented
  /-- An assignment to what is no target. -/
  | target
  /-- The end of a function outside of any. -/
  | outsideFunction
  /-- The end of a loop outside of any. -/
  | outsideLoop
  /-- The end of a round outside of any loop. -/
  | roundOutsideLoop
  /-- A parameter that occurs twice. -/
  | repeated (name : String)

/-- The name of the exception for a cause. -/
def SyntaxCause.kind : SyntaxCause → String
  | indented | noBlock | dedented => "IndentationError"
  | _ => "SyntaxError"

/-- The wording of a cause. -/
def SyntaxCause.text : SyntaxCause → String
  | invalid => "invalid syntax"
  | character c =>
    "invalid character '" ++ String.singleton c ++ "' (U+"
      ++ String.ofList (Decimal.Notation.padZeros 4 ((Nat.toDigits 16 c.toNat).map Char.toUpper))
      ++ ")"
  | unterminated => "unterminated string literal"
  | literal => "invalid literal"
  | unclosed c => "'" ++ String.singleton c ++ "' was never closed"
  | unmatched c => "unmatched '" ++ String.singleton c ++ "'"
  | indented => "unexpected indent"
  | noBlock => "expected an indented block"
  | dedented => "unindent does not match any outer indentation level"
  | target => "cannot assign to expression"
  | outsideFunction => "'return' outside function"
  | outsideLoop => "'break' outside loop"
  | roundOutsideLoop => "'continue' not properly in loop"
  | repeated name => "duplicate argument '" ++ name ++ "' in function definition"

/-- What makes a text no program, and where. -/
structure SyntaxFault where
  /-- Why it is none. -/
  cause : SyntaxCause
  /-- The line. -/
  line : Nat

/-- The wording of a syntax fault. -/
def SyntaxFault.text (f : SyntaxFault) : String :=
  f.cause.text ++ " (<script>, line " ++ toString f.line ++ ")"

/-- A character that may begin a name. -/
def isNameStart (c : Char) : Bool :=
  c.isAlpha || c = '_' || (0xAA ≤ c.toNat && !Text.isBlank c)

/-- A character that may stand inside a name. -/
def isNamePart (c : Char) : Bool :=
  isNameStart c || Text.isDigit c

/-- The operators, longer ones first. -/
def marks : List String :=
  [ "**=", "//=", ">>=", "<<=", "...", "==", "!=", "<=", ">=", "->", ":=", "+=", "-=", "*=", "/=",
    "%=", "&=", "|=", "^=", "**", "//", "<<", ">>", "+", "-", "*", "/", "%", "&", "|", "^", "~",
    "<", ">", "=", ",", ":", ".", ";", "@" ]

/-- The digits at the start of a text, without the low lines between them. -/
def digitsAt (base : Nat) (t : List Char) : List Char × List Char :=
  let ds := t.takeWhile fun c => (Text.digitIn? base c).isSome || c = '_'
  (ds.filter (· ≠ '_'), t.drop ds.length)

/-- The number at the start of a text, which begins with a digit, or a point and a digit. -/
def readNumber (t : List Char) : Option (Token × List Char) :=
  let finish (r : Token × List Char) : Option (Token × List Char) :=
    if (r.2.head?.map isNamePart).getD false then none else some r
  let based (base : Nat) (ds : List Char) : Option (Token × List Char) :=
    let (ds, rest) := digitsAt base ds
    (Text.natIn? base ds).bind fun n => finish (.int n, rest)
  match t with
  | '0' :: 'x' :: ds | '0' :: 'X' :: ds => based 16 ds
  | '0' :: 'o' :: ds | '0' :: 'O' :: ds => based 8 ds
  | '0' :: 'b' :: ds | '0' :: 'B' :: ds => based 2 ds
  | _ =>
    let (whole, rest) := digitsAt 10 t
    let (hasPoint, rest) :=
      match rest with
      | '.' :: more => (true, more)
      | _ => (false, rest)
    let (places, rest) := if hasPoint then digitsAt 10 rest else ([], rest)
    let (exponent, behind) := Decimal.readExponentPart rest
    if hasPoint || behind.length < rest.length then
      finish
        (.float (Decimal.nearest (Text.natOf (whole ++ places)) (exponent - places.length)),
          behind)
    else if whole.head? = some '0' ∧ whole.any (· ≠ '0') then none
    else finish (.int (Text.natOf whole), behind)

/-- The characters of an escape, behind its backslash, and what follows. -/
def readEscape : List Char → Option (List Char × List Char)
  | '\n' :: t => some ([], t)
  | 'n' :: t => some (['\n'], t)
  | 't' :: t => some (['\t'], t)
  | 'r' :: t => some (['\r'], t)
  | 'a' :: t => some (['\x07'], t)
  | 'b' :: t => some (['\x08'], t)
  | 'f' :: t => some (['\x0c'], t)
  | 'v' :: t => some (['\x0b'], t)
  | '\\' :: t => some (['\\'], t)
  | '"' :: t => some (['"'], t)
  | '\u0027' :: t => some (['\u0027'], t)
  | 'x' :: t => numbered 2 t
  | 'u' :: t => numbered 4 t
  | 'U' :: t => numbered 8 t
  | c :: t =>
    let ds := ((c :: t).take 3).takeWhile fun d => (Text.digitIn? 8 d).isSome
    match Text.natIn? 8 ds with
    | some n => some ([Char.ofNat n], (c :: t).drop ds.length)
    | none => some (['\\', c], t)
  | [] => none
where
  /-- The character whose number has so many digits. -/
  numbered (count : Nat) (t : List Char) : Option (List Char × List Char) :=
    (Text.natIn? 16 (t.take count)).bind fun n =>
      if (t.take count).length = count ∧ n.isValidChar then some ([Char.ofNat n], t.drop count)
      else none

/-- The characters of a string up to its closing quotes, and what follows. The fuel is the length
of the text. -/
def readQuoted (quotes : List Char) (raw : Bool) : Nat → List Char →
    Except SyntaxCause (List Char × List Char)
  | 0, _ => .error .unterminated
  | _, [] => .error .unterminated
  | fuel + 1, c :: t =>
    if quotes.isPrefixOf (c :: t) then .ok ([], (c :: t).drop quotes.length)
    else if c = '\n' ∧ quotes.length = 1 then .error .unterminated
    else if c = '\\' then
      if raw then
        match t with
        | [] => .error .unterminated
        | d :: t => (readQuoted quotes raw fuel t).map fun r => (c :: d :: r.1, r.2)
      else
        match readEscape t with
        | none => .error .literal
        | some (ds, t) => (readQuoted quotes raw fuel t).map fun r => (ds ++ r.1, r.2)
    else (readQuoted quotes raw fuel t).map fun r => (c :: r.1, r.2)

/-- The string at the start of a text that begins with a quote, and what follows. -/
def readString (raw : Bool) (t : List Char) : Except SyntaxCause (Token × List Char) :=
  let quote := t.take 1
  let triple := quote ++ quote ++ quote
  let quotes := if triple.isPrefixOf t then triple else quote
  (readQuoted quotes raw (t.length + 1) (t.drop quotes.length)).map fun r =>
    (.str (String.ofList r.1), r.2)

/-- A quote. -/
def isQuote (c : Char) : Bool :=
  c = '"' || c = '\u0027'

/-- The closing bracket of an opening one. -/
def closing? (c : Char) : Option Char :=
  if c = '(' then some ')' else if c = '[' then some ']' else if c = '\x7b' then some '\x7d'
  else none

/-- The blanks at the start of a line count as so many columns. -/
def columns (t : List Char) : Nat :=
  t.foldl (fun n c => if c = '\t' then (n / 8 + 1) * 8 else n + 1) 0

/-- A blank inside of a line. -/
def isSpace (c : Char) : Bool :=
  c = ' ' || c = '\t' || c = '\x0c'

/-- The tokens for the start of a line, given the columns of the blocks around, innermost first. -/
def indentation (n : Nat) : List Nat → Except SyntaxCause (List Token × List Nat)
  | [] => .ok (if n = 0 then ([], []) else ([.indent], [n]))
  | k :: around =>
    if n = k then .ok ([], k :: around)
    else if k < n then .ok ([.indent], n :: k :: around)
    else
      match around with
      | [] => if n = 0 then .ok ([.dedent], []) else .error .dedented
      | j :: _ =>
        if j < n then .error .dedented
        else (indentation n around).map fun r => (.dedent :: r.1, r.2)

/-- What is known in front of a text: the line, the columns of the blocks around, the brackets that
are open, innermost first, and whether a line begins. -/
structure Margin where
  /-- The line. -/
  line : Nat
  /-- The columns of the blocks around. -/
  blocks : List Nat
  /-- The brackets that are open, each with its line and the one that closes it. -/
  brackets : List (Nat × Char × Char)
  /-- A line begins. -/
  fresh : Bool

/-- What is known behind a part of the text. -/
def Margin.past (m : Margin) (part : List Char) : Margin :=
  { m with line := m.line + part.count '\n' }

/-- The tokens of a text with their lines. The fuel is twice the length of the text. -/
def tokensFrom : Nat → Margin → List Char → Except SyntaxFault (List (Nat × Token))
  | 0, _, _ => .ok []
  | fuel + 1, m, t =>
    if m.fresh then
      let blanks := t.takeWhile isSpace
      let rest := t.drop blanks.length
      match rest with
      | [] => tokensFrom fuel { m with fresh := false } []
      | c :: more =>
        if c = '\n' then tokensFrom fuel { m with line := m.line + 1 } more
        else if c = '#' then tokensFrom fuel m (rest.dropWhile (· ≠ '\n'))
        else
          match indentation (columns blanks) m.blocks with
          | .error e => .error ⟨e, m.line⟩
          | .ok (ts, blocks) =>
            (tokensFrom fuel { m with blocks := blocks, fresh := false } rest).map
              (ts.map (m.line, ·) ++ ·)
    else
      match t with
      | [] =>
        match m.brackets with
        | (line, c, _) :: _ => .ok [(line, .ended c)]
        | [] => .ok ((m.line, .newline) :: m.blocks.map fun _ => (m.line, .dedent))
      | c :: rest =>
        let continueWith (r : Except SyntaxCause (Token × List Char)) :
            Except SyntaxFault (List (Nat × Token)) :=
          match r with
          | .error e => .error ⟨e, m.line⟩
          | .ok (token, u) =>
            (tokensFrom fuel (m.past (t.take (t.length - u.length))) u).map ((m.line, token) :: ·)
        if c = '\n' then
          let below := { m with line := m.line + 1 }
          if m.brackets.isEmpty then
            (tokensFrom fuel { below with fresh := true } rest).map ((m.line, .newline) :: ·)
          else tokensFrom fuel below rest
        else if isSpace c || c = '\r' then tokensFrom fuel m rest
        else if c = '#' then tokensFrom fuel m (t.dropWhile (· ≠ '\n'))
        else if c = '\\' ∧ rest.head? = some '\n' then
          tokensFrom fuel { m with line := m.line + 1 } (rest.drop 1)
        else if isQuote c then continueWith (readString false t)
        else if (c = 'r' ∨ c = 'R') ∧ (rest.head?.map isQuote).getD false then
          continueWith (readString true rest)
        else if isNameStart c then
          continueWith
            (.ok (.name (String.ofList (t.takeWhile isNamePart)), t.dropWhile isNamePart))
        else if Text.isDigit c || (c = '.' && (rest.head?.map Text.isDigit).getD false) then
          continueWith
            (match readNumber t with
            | some r => .ok r
            | none => .error .literal)
        else
          match closing? c, m.brackets with
          | some d, _ =>
            (tokensFrom fuel { m with brackets := (m.line, c, d) :: m.brackets } rest).map
              ((m.line, .mark (String.singleton c)) :: ·)
          | none, brackets =>
            if c = ')' ∨ c = ']' ∨ c = '\x7d' then
              match brackets with
              | (_, _, d) :: outer =>
                if c = d then
                  (tokensFrom fuel { m with brackets := outer } rest).map
                    ((m.line, .mark (String.singleton c)) :: ·)
                else .error ⟨.unmatched c, m.line⟩
              | [] => .error ⟨.unmatched c, m.line⟩
            else
              match marks.find? fun k => k.toList.isPrefixOf t with
              | some k => continueWith (.ok (.mark k, t.drop k.length))
              | none => .error ⟨if c.toNat < 0x80 then .invalid else .character c, m.line⟩

/-- The tokens of a text with their lines. -/
def tokens (t : List Char) : Except SyntaxFault (List (Nat × Token)) :=
  tokensFrom (2 * t.length + 4) ⟨1, [], [], true⟩ t

end ScriptStage.Python
