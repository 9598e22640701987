import ScriptStage.Engine.Conventions
import ScriptStage.Engine.PythonToken

/-!
# Reading Python programs

A program is read by descent through the levels of its grammar. Each function is given fuel, which
bounds how deep the descent goes; a text of `n` characters has at most `2 * n + 4` tokens, and at
most fifteen levels lie between two of them, so that the fuel of `program` is always enough.

## Main definitions

* `ScriptStage.Python.Reader`: readers of tokens.
* `ScriptStage.Python.program`: the statements of a text.
-/

set_option autoImplicit false

namespace ScriptStage.Python

/-- Readers of tokens, each with its line. -/
abbrev Reader := StateT (List (Nat × Token)) (Except SyntaxFault)

/-- The words that are no names. -/
def keywords : List String :=
  [ "False", "None", "True", "and", "as", "assert", "async", "await", "break", "class", "continue",
    "def", "del", "elif", "else", "except", "finally", "for", "from", "global", "if", "import",
    "in", "is", "lambda", "nonlocal", "not", "or", "pass", "raise", "return", "try", "while",
    "with", "yield" ]

namespace Reader

/-- The next token, which stays. -/
def peek : Reader (Option Token) := do
  return (← get).head?.map (·.2)

/-- Removes the next token. -/
def skip : Reader Unit :=
  modify (·.drop 1)

/-- Fails at the next token. -/
def fail {α : Type} (cause : SyntaxCause) : Reader α := do
  throw ⟨cause, ((← get).head?.map (·.1)).getD 1⟩

/-- Refuses the next token. -/
def refuse {α : Type} : Reader α := do
  match ← peek with
  | some .indent => fail .indented
  | some (.ended c) => fail (.unclosed c)
  | _ => fail .invalid

/-- The next token is a mark. -/
def atMark (m : String) : Reader Bool := do
  match ← peek with
  | some (.mark s) => return s == m
  | _ => return false

/-- The next token is a word. -/
def atWord (w : String) : Reader Bool := do
  match ← peek with
  | some (.name s) => return s == w
  | _ => return false

/-- Removes a mark if it comes next. -/
def accept (m : String) : Reader Bool := do
  if ← atMark m then
    skip
    return true
  else return false

/-- Removes a word if it comes next. -/
def acceptWord (w : String) : Reader Bool := do
  if ← atWord w then
    skip
    return true
  else return false

/-- Removes a mark, which has to come next. -/
def expect (m : String) : Reader Unit := do
  if !(← accept m) then refuse

/-- Removes a word, which has to come next. -/
def expectWord (w : String) : Reader Unit := do
  if !(← acceptWord w) then refuse

/-- A name that is no keyword. -/
def identifier : Reader String := do
  match ← peek with
  | some (.name s) =>
    if keywords.contains s then refuse
    else
      skip
      return s
  | _ => refuse

/-- Strings that follow one another are one. -/
def moreStrings : Nat → String → Reader String
  | 0, s => return s
  | fuel + 1, s => do
    match ← peek with
    | some (.str t) =>
      skip
      moreStrings fuel (s ++ t)
    | _ => return s

end Reader

/-- Operators between two values, and how strongly they bind. -/
def joints : List (String × Nat × BinaryOp) :=
  [ ("|", 1, .bitOr), ("^", 2, .bitXor), ("&", 3, .bitAnd), ("<<", 4, .shiftLeft),
    (">>", 4, .shiftRight), ("+", 5, .add), ("-", 5, .sub), ("*", 6, .mul), ("/", 6, .div),
    ("//", 6, .floorDiv), ("%", 6, .mod) ]

/-- The operator of a token between two values, and how strongly it binds. -/
def joint? : Token → Option (Nat × BinaryOp)
  | .mark s => (joints.find? fun i => i.1 = s).map (·.2)
  | _ => none

/-- The operators of assignments. -/
def assignments : List (String × BinaryOp) :=
  [ ("+=", .add), ("-=", .sub), ("*=", .mul), ("/=", .div), ("//=", .floorDiv), ("%=", .mod),
    ("**=", .pow), ("<<=", .shiftLeft), (">>=", .shiftRight), ("&=", .bitAnd), ("|=", .bitOr),
    ("^=", .bitXor) ]

/-- The comparison at the start of tokens, and how many tokens it takes. -/
def comparison? : List Token → Option (Comparison × Nat)
  | .mark "==" :: _ => some (.eq, 1)
  | .mark "!=" :: _ => some (.ne, 1)
  | .mark "<" :: _ => some (.lt, 1)
  | .mark "<=" :: _ => some (.le, 1)
  | .mark ">" :: _ => some (.gt, 1)
  | .mark ">=" :: _ => some (.ge, 1)
  | .name "in" :: _ => some (.isIn, 1)
  | .name "not" :: .name "in" :: _ => some (.notIn, 2)
  | .name "is" :: .name "not" :: _ => some (.notSame, 2)
  | .name "is" :: _ => some (.same, 1)
  | _ => none

/-- The expression can be assigned to; a tuple or a list if its items can. -/
def Expr.assignable : Expr → Bool
  | .name _ | .attribute _ _ | .item _ _ => true
  | .tuple items | .list items => all items
  | _ => false
where
  /-- All expressions can be assigned to. -/
  all : List Expr → Bool
    | [] => true
    | e :: rest => e.assignable && all rest

/-- Where a statement stands. -/
structure Setting where
  /-- It stands in a function. -/
  inFunction : Bool
  /-- It stands in a loop of that function. -/
  inLoop : Bool

open Reader

mutual

/-- An expression. -/
def parseExpression : Nat → Reader Expr
  | 0 => refuse
  | fuel + 1 => do
    if ← acceptWord "lambda" then
      let params ← if ← accept ":" then pure [] else parseParams fuel ":"
      return .lambda params (← parseExpression fuel)
    else
      let a ← parseOr fuel
      if ← acceptWord "if" then
        let c ← parseOr fuel
        expectWord "else"
        return .choose c a (← parseExpression fuel)
      else return a

/-- A disjunction. -/
def parseOr : Nat → Reader Expr
  | 0 => refuse
  | fuel + 1 => do
    let a ← parseAnd fuel
    if ← acceptWord "or" then return .or a (← parseOr fuel) else return a

/-- A conjunction. -/
def parseAnd : Nat → Reader Expr
  | 0 => refuse
  | fuel + 1 => do
    let a ← parseNot fuel
    if ← acceptWord "and" then return .and a (← parseAnd fuel) else return a

/-- A negation or a comparison. -/
def parseNot : Nat → Reader Expr
  | 0 => refuse
  | fuel + 1 => do
    if ← acceptWord "not" then return .unary .not (← parseNot fuel)
    else
      let a ← parseBinary fuel 1
      match ← parseComparisons fuel with
      | [] => return a
      | rest => return .compare a rest

/-- The rest of a chain of comparisons. -/
def parseComparisons : Nat → Reader (List (Comparison × Expr))
  | 0 => refuse
  | fuel + 1 => do
    match comparison? (((← get).take 2).map (·.2)) with
    | some (op, n) =>
      modify (·.drop n)
      let b ← parseBinary fuel 1
      return (op, b) :: (← parseComparisons fuel)
    | none => return []

/-- Operators that bind at least so strongly. -/
def parseBinary : Nat → Nat → Reader Expr
  | 0, _ => refuse
  | fuel + 1, least => do
    let a ← parseUnary fuel
    parseJoints fuel least a

/-- The rest of operators that bind at least so strongly. -/
def parseJoints : Nat → Nat → Expr → Reader Expr
  | 0, _, _ => refuse
  | fuel + 1, least, a => do
    match (← peek).bind joint? with
    | some (strength, op) =>
      if strength < least then return a
      else
        skip
        let b ← parseBinary fuel (strength + 1)
        parseJoints fuel least (.binary op a b)
    | none => return a

/-- An operator before its operand, or a power. -/
def parseUnary : Nat → Reader Expr
  | 0 => refuse
  | fuel + 1 => do
    if ← accept "-" then return .unary .neg (← parseUnary fuel)
    else if ← accept "+" then return .unary .plus (← parseUnary fuel)
    else if ← accept "~" then return .unary .invert (← parseUnary fuel)
    else
      let a ← parseAtom fuel
      let a ← parseAccess fuel a
      if ← accept "**" then return .binary .pow a (← parseUnary fuel) else return a

/-- Attributes, items and calls behind a value. -/
def parseAccess : Nat → Expr → Reader Expr
  | 0, _ => refuse
  | fuel + 1, e => do
    if ← accept "." then
      let name ← identifier
      parseAccess fuel (.attribute e name)
    else if ← accept "[" then
      let key ← parseKey fuel
      expect "]"
      parseAccess fuel (.item e key)
    else if ← accept "(" then
      let args ← parseItems fuel ")"
      parseAccess fuel (.call e args.1)
    else return e

/-- The key of an item or the bounds of a part. -/
def parseKey : Nat → Reader Expr
  | 0 => refuse
  | fuel + 1 => do
    let start ← if ← atMark ":" then pure none else some <$> parseList fuel
    if ← accept ":" then
      let stop ← if ← atMark "]" then pure none else some <$> parseExpression fuel
      return .slice start stop
    else
      match start with
      | some e => return e
      | none => refuse

/-- Expressions up to a closing bracket; the flag says whether a comma stands among them. -/
def parseItems : Nat → String → Reader (List Expr × Bool)
  | 0, _ => refuse
  | fuel + 1, close => do
    if ← accept close then return ([], false)
    else
      let e ← parseExpression fuel
      if ← accept "," then
        let (rest, _) ← parseItems fuel close
        return (e :: rest, true)
      else
        expect close
        return ([e], false)

/-- A value. -/
def parseAtom : Nat → Reader Expr
  | 0 => refuse
  | fuel + 1 => do
    match ← peek with
    | some (.int n) => skip; return .int n
    | some (.float x) => skip; return .float x
    | some (.str s) => skip; return .str (← moreStrings fuel s)
    | some (.name "None") => skip; return .none
    | some (.name "True") => skip; return .bool true
    | some (.name "False") => skip; return .bool false
    | some (.name _) => return .name (← identifier)
    | some (.mark "(") =>
      skip
      match ← parseItems fuel ")" with
      | ([e], false) => return e
      | (items, _) => return .tuple items
    | some (.mark "[") => skip; return .list (← parseItems fuel "]").1
    | some (.mark "\x7b") =>
      skip
      if ← accept "\x7d" then return .dict []
      else
        let e ← parseExpression fuel
        if ← accept ":" then
          let v ← parseExpression fuel
          if ← accept "," then return .dict ((e, v) :: (← parseEntries fuel))
          else
            expect "\x7d"
            return .dict [(e, v)]
        else if ← accept "," then return .set (e :: (← parseItems fuel "\x7d").1)
        else
          expect "\x7d"
          return .set [e]
    | _ => refuse

/-- Entries of a dictionary up to the closing brace. -/
def parseEntries : Nat → Reader (List (Expr × Expr))
  | 0 => refuse
  | fuel + 1 => do
    if ← accept "\x7d" then return []
    else
      let k ← parseExpression fuel
      expect ":"
      let v ← parseExpression fuel
      if ← accept "," then return (k, v) :: (← parseEntries fuel)
      else
        expect "\x7d"
        return [(k, v)]

/-- Parameters up to a closing mark. -/
def parseParams : Nat → String → Reader (List String)
  | 0, _ => refuse
  | fuel + 1, close => do
    if ← accept close then return []
    else
      let x ← identifier
      let rest ←
        if ← accept "," then parseParams fuel close
        else
          expect close
          pure []
      if rest.contains x then Reader.fail (.repeated x) else return x :: rest

/-- An expression, or a tuple without brackets. -/
def parseList : Nat → Reader Expr
  | 0 => refuse
  | fuel + 1 => do
    let e ← parseExpression fuel
    if ← atMark "," then return .tuple (e :: (← parseListRest fuel)) else return e

/-- The rest of a tuple without brackets. -/
def parseListRest : Nat → Reader (List Expr)
  | 0 => refuse
  | fuel + 1 => do
    if ← accept "," then
      match ← peek with
      | some (.mark "=") | some (.mark ")") | some (.mark "]") | some (.mark ";") | some (.mark ":")
      | some .newline | none => return []
      | _ =>
        let e ← parseExpression fuel
        return e :: (← parseListRest fuel)
    else return []

end

/-- The targets of a loop. -/
def parseLoopTarget : Nat → Reader (List Expr × Bool)
  | 0 => refuse
  | fuel + 1 => do
    let e ← parseBinary fuel 1
    if ← accept "," then
      if ← atWord "in" then return ([e], true)
      else
        let (rest, _) ← parseLoopTarget fuel
        return (e :: rest, true)
    else return ([e], false)

/-- A target, unless it cannot be assigned to. -/
def target (e : Expr) : Reader Expr :=
  if e.assignable then return e else Reader.fail .target

/-- The rest of an assignment, given the expressions so far, the last one first. -/
def parseAssignments : Nat → List Expr → Expr → Reader Stmt
  | 0, _, _ => refuse
  | fuel + 1, targets, e => do
    if ← accept "=" then
      let t ← target e
      parseAssignments fuel (t :: targets) (← parseList fuel)
    else return .assign targets.reverse e

/-- The names that a statement lists. -/
def parseNames : Nat → Reader (List String)
  | 0 => refuse
  | fuel + 1 => do
    let x ← identifier
    if ← accept "," then return x :: (← parseNames fuel) else return [x]

/-- A statement inside of a line. -/
def parseSimple (fuel : Nat) (s : Setting) : Reader Stmt := do
  match ← peek with
  | some (.name "pass") => skip; return .pass
  | some (.name "break") =>
    if s.inLoop then
      skip
      return .leave
    else Reader.fail .outsideLoop
  | some (.name "continue") =>
    if s.inLoop then
      skip
      return .again
    else Reader.fail .roundOutsideLoop
  | some (.name "return") =>
    if s.inFunction then
      skip
      match ← peek with
      | some .newline | some (.mark ";") => return .ret none
      | _ => return .ret (some (← parseList fuel))
    else Reader.fail .outsideFunction
  | some (.name "raise") =>
    skip
    match ← peek with
    | some .newline | some (.mark ";") => return .raise none
    | _ => return .raise (some (← parseExpression fuel))
  | some (.name "global") => skip; return .global (← parseNames fuel)
  | some (.name "del") =>
    skip
    let e ← parseList fuel
    match e with
    | .tuple items =>
      let ts ← items.mapM target
      return .delete ts
    | e => return .delete [← target e]
  | _ =>
    let e ← parseList fuel
    match ← peek with
    | some (.mark "=") => parseAssignments fuel [] e
    | some (.mark ":") =>
      match e with
      | .name _ | .attribute _ _ | .item _ _ =>
        skip
        let annotation ← parseExpression fuel
        let value ← if ← accept "=" then some <$> parseList fuel else pure none
        return .annotate e annotation value
      | _ => Reader.fail .target
    | some (.mark m) =>
      match assignments.find? fun i => i.1 = m with
      | some (_, op) =>
        match e with
        | .name _ | .attribute _ _ | .item _ _ =>
          skip
          return .update op e (← parseList fuel)
        | _ => Reader.fail .target
      | none => return .expr e
    | _ => return .expr e

/-- The statements of a line. -/
def parseLine : Nat → Setting → Reader (List Stmt)
  | 0, _ => refuse
  | fuel + 1, s => do
    let st ← parseSimple fuel s
    if ← accept ";" then
      match ← peek with
      | some .newline => skip; return [st]
      | _ => return st :: (← parseLine fuel s)
    else
      match ← peek with
      | some .newline => skip; return [st]
      | none => return [st]
      | _ => refuse

mutual

/-- Statements up to the end of a block. -/
def parseStatements : Nat → Setting → Reader (List Stmt)
  | 0, _ => refuse
  | fuel + 1, s => do
    match ← peek with
    | none | some .dedent => return []
    | some .newline => skip; parseStatements fuel s
    | _ =>
      let first ← parseStatement fuel s
      return first ++ (← parseStatements fuel s)

/-- A block behind its colon. -/
def parseBlock : Nat → Setting → Reader (List Stmt)
  | 0, _ => refuse
  | fuel + 1, s => do
    expect ":"
    match ← peek with
    | some .newline =>
      skip
      match ← peek with
      | some .indent =>
        skip
        let body ← parseStatements fuel s
        match ← peek with
        | some .dedent => skip; return body
        | _ => refuse
      | _ => Reader.fail .noBlock
    | _ => parseLine fuel s

/-- A statement, or the statements of a line. -/
def parseStatement : Nat → Setting → Reader (List Stmt)
  | 0, _ => refuse
  | fuel + 1, s => do
    match ← peek with
    | some (.name "if") => skip; return [← parseBranch fuel s]
    | some (.name "while") =>
      skip
      let c ← parseExpression fuel
      let body ← parseBlock fuel { s with inLoop := true }
      return [.whileLoop c body (← parseElse fuel s)]
    | some (.name "for") =>
      skip
      let (ts, many) ← parseLoopTarget fuel
      let t ←
        match ts, many with
        | [e], false => target e
        | _, _ => target (.tuple ts)
      expectWord "in"
      let e ← parseList fuel
      let body ← parseBlock fuel { s with inLoop := true }
      return [.forLoop t e body (← parseElse fuel s)]
    | some (.name "def") =>
      skip
      let name ← identifier
      expect "("
      let params ← parseParams fuel ")"
      return [.define name params (← parseBlock fuel ⟨true, false⟩)]
    | some (.name "try") =>
      skip
      let body ← parseBlock fuel s
      let handlers ← parseHandlers fuel s
      let last ← if handlers.isEmpty then pure [] else parseElse fuel s
      let final ← if ← acceptWord "finally" then some <$> parseBlock fuel s else pure none
      if handlers.isEmpty && final.isNone then refuse
      return [.guarded body handlers last (final.getD [])]
    | _ => parseLine fuel s

/-- A branch behind its first word. -/
def parseBranch : Nat → Setting → Reader Stmt
  | 0, _ => refuse
  | fuel + 1, s => do
    let c ← parseExpression fuel
    let a ← parseBlock fuel s
    if ← acceptWord "elif" then return .branch c a [← parseBranch fuel s]
    else return .branch c a (← parseElse fuel s)

/-- The block behind `else`, if there is one. -/
def parseElse : Nat → Setting → Reader (List Stmt)
  | 0, _ => refuse
  | fuel + 1, s => do
    if ← acceptWord "else" then parseBlock fuel s else return []

/-- The handlers of exceptions. -/
def parseHandlers : Nat → Setting → Reader (List (Option Expr × Option String × List Stmt))
  | 0, _ => refuse
  | fuel + 1, s => do
    if ← acceptWord "except" then
      let kind ← if ← atMark ":" then pure none else some <$> parseExpression fuel
      let name ← if ← acceptWord "as" then some <$> identifier else pure none
      let body ← parseBlock fuel s
      return (kind, name, body) :: (← parseHandlers fuel s)
    else return []

end

/-- The statements of a text. -/
def program (text : String) : Except SyntaxFault (List Stmt) := do
  let t := text.toList
  let (body, rest) ← (parseStatements (40 * (t.length + 2)) ⟨false, false⟩).run (← tokens t)
  match rest with
  | [] => return body
  | (line, _) :: _ => throw ⟨.invalid, line⟩

end ScriptStage.Python
