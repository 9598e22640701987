import ScriptStage.Engine.Conventions
import ScriptStage.Engine.RhaiToken

/-!
# Reading Rhai programs

A program is read by descent through the levels of its grammar. Each function is given fuel, which
bounds how deep the descent goes; a text of `n` characters has at most `n` tokens, and at most
fifteen levels lie between two of them, so that the fuel of `program` is always enough.

## Main definitions

* `ScriptStage.Rhai.Reader`: readers of tokens.
* `ScriptStage.Rhai.program`: the program of a text.
-/

set_option autoImplicit false

namespace ScriptStage.Rhai

/-- What a reader works on. -/
structure Reading where
  /-- The tokens that are left. -/
  tokens : List (Place × Token)
  /-- The place behind the last token, where the text ends. -/
  finish : Place
  /-- The variables that are declared so far, the last one first, and whether they are constant. -/
  scope : List (String × Bool)

/-- The cause of a statement that goes on behind its end. -/
def SyntaxCause.unfinished : SyntaxCause :=
  .missing ";" "to terminate this statement"

/-- Readers of tokens. -/
abbrev Reader := StateT Reading (Except SyntaxFault)

/-- The text of a token, for messages. -/
def Token.text : Token → String
  | .name s | .mark s | .str s => s
  | .int n => toString n
  | .float x => toString x
  | .char c => String.singleton c
  | .template s _ => s

/-- The words that begin parts of programs. -/
def keywords : List String :=
  [ "true", "false", "let", "const", "if", "else", "switch", "do", "while", "until", "loop", "for",
    "in", "continue", "break", "fn", "private", "import", "export", "as", "return", "throw", "try",
    "catch", "global" ]

/-- The words that the language keeps for itself. -/
def reservedWords : List String :=
  [ "var", "static", "shared", "goto", "exit", "match", "case", "public", "protected", "new", "use",
    "with", "is", "module", "package", "super", "thread", "spawn", "go", "await", "async", "sync",
    "yield", "default", "void", "null", "nil" ]

namespace Reader

/-- The next token, which stays. -/
def peek : Reader (Option Token) := do
  return (← get).tokens.head?.map (·.2)

/-- The place of the next token. -/
def place : Reader Place := do
  let r ← get
  return (r.tokens.head?.map (·.1)).getD r.finish

/-- Removes the next token. -/
def skip : Reader Unit :=
  modify fun r => { r with tokens := r.tokens.drop 1 }

/-- Goes wrong at the next token. -/
def fail {α : Type} (cause : SyntaxCause) : Reader α := do
  throw ⟨cause, ← place⟩

/-- Refuses the next token. -/
def refuse {α : Type} : Reader α := do
  match ← peek with
  | some (.mark m) => fail (if reservedMarks.contains m then .reservedMark m else .unexpected m)
  | some t => fail (.unexpected t.text)
  | none => fail .ended

/-- The next token is a mark. -/
def atMark (m : String) : Reader Bool := do
  match ← peek with
  | some (.mark s) => return s == m
  | _ => return false

/-- Removes a mark if it comes next. -/
def accept (m : String) : Reader Bool := do
  if ← atMark m then
    skip
    return true
  else return false

/-- Removes a word if it comes next. -/
def acceptWord (w : String) : Reader Bool := do
  match ← peek with
  | some (.name s) =>
    if s = w then
      skip
      return true
    else return false
  | _ => return false

/-- Removes a mark, which has to come next for some purpose. -/
def expect (m purpose : String) : Reader Unit := do
  if !(← accept m) then fail (.missing m purpose)

/-- Removes a word, which has to come next for some purpose. -/
def expectWord (w purpose : String) : Reader Unit := do
  if !(← acceptWord w) then fail (.missing w purpose)

/-- A name that is no keyword; the cause is that of its absence. -/
def identifier (absent : SyntaxCause) : Reader String := do
  match ← peek with
  | some (.name s) =>
    if keywords.contains s then fail absent
    else if reservedWords.contains s then fail (.reservedWord s)
    else
      skip
      return s
  | _ => fail absent

/-- Declares a variable. -/
def declare (name : String) (constant : Bool) : Reader Unit :=
  modify fun r => { r with scope := (name, constant) :: r.scope }

/-- Reads with variables of its own. -/
def within {α : Type} (p : Reader α) : Reader α := do
  let scope := (← get).scope
  let a ← p
  modify fun r => { r with scope := scope }
  return a

end Reader

/-- Operators between two operands. -/
inductive Joint where
  /-- An operator between two values. -/
  | binary (op : BinaryOp)
  /-- An operator that may leave out its second operand. -/
  | logic (op : LogicOp)

/-- The operators between two operands, and how strongly they bind. -/
def joints : List (String × Nat × Joint) :=
  [ ("||", 30, .logic .or), ("|", 30, .binary .bitOr), ("^", 30, .binary .bitXor),
    ("&&", 60, .logic .and), ("&", 60, .binary .bitAnd), ("==", 90, .binary .eq),
    ("!=", 90, .binary .ne), ("in", 110, .binary .isIn), ("<", 130, .binary .lt),
    ("<=", 130, .binary .le), (">", 130, .binary .gt), (">=", 130, .binary .ge),
    ("??", 135, .logic .coalesce), ("..", 140, .binary .range), ("..=", 140, .binary .rangeThrough),
    ("+", 150, .binary .add), ("-", 150, .binary .sub), ("*", 180, .binary .mul),
    ("/", 180, .binary .div), ("%", 180, .binary .rem), ("**", 190, .binary .pow),
    ("<<", 210, .binary .shiftLeft), (">>", 210, .binary .shiftRight) ]

/-- How strongly the operator binds that is taken from the right. -/
def powerStrength : Nat := 190

/-- How strongly operators bind among the values of a case. -/
def caseStrength : Nat := 31

/-- The operator of a token between two operands, and how strongly it binds. -/
def joint? : Token → Option (Nat × Joint)
  | .mark s | .name s => (joints.find? fun i => i.1 = s).map (·.2)
  | _ => none

/-- The expression of an operator between two operands. -/
def Joint.join (i : Joint) (p : Place) (a b : Expr) : Expr :=
  match i with
  | .binary op => .binary p op a b
  | .logic op => .logic p op a b

/-- The operators of assignments. -/
def assignments : List (String × Option BinaryOp) :=
  [ ("=", none), ("+=", some .add), ("-=", some .sub), ("*=", some .mul), ("/=", some .div),
    ("%=", some .rem), ("**=", some .pow), ("<<=", some .shiftLeft), (">>=", some .shiftRight),
    ("&=", some .bitAnd), ("|=", some .bitOr), ("^=", some .bitXor) ]

/-- The negative of an expression: at once for numbers. -/
def Expr.negated (p : Place) : Expr → Expr
  | .int n => .int (-n)
  | .float x => .float (-x)
  | e => .unary p .neg e

/-- The statement ends with a brace, so that no semicolon has to follow. -/
def Stmt.closed : Stmt → Bool
  | .block _ | .branch _ _ _ _ | .choose _ _ | .loop _ _ _ _ | .forEach _ _ _ _ | .guarded _ _ _
  | .empty => true
  | _ => false

/-- An expression that begins at a place is a variable that can be assigned to, or a part of one. -/
def checkTarget (scope : List (String × Bool)) (p : Place) : Expr → Except SyntaxFault Unit
  | .ident pos name =>
    match scope.lookup name with
    | some true => .error ⟨.constant name, pos⟩
    | _ => .ok ()
  | .dot _ _ _ | .index _ _ _ _ => .ok ()
  | _ => .error ⟨.target, p⟩

/-- The operator has a form that assigns its result. -/
def BinaryOp.assigns (op : BinaryOp) : Bool :=
  assignments.any fun i => i.2 = some op

/-- An assignment. A variable that is given the result of an operator on itself is changed by that
operator. -/
def assignment (p : Place) (op : Option BinaryOp) (target value : Expr) : Stmt :=
  match op, target, value with
  | none, .ident _ x, .binary q op (.ident _ y) e =>
    if x = y ∧ op.assigns then .assign q (some op) target e else .assign p none target value
  | _, _, _ => .assign p op target value

/-- Where something is read. -/
structure Setting where
  /-- It stands in a loop. -/
  inLoop : Bool
  /-- The levels of expressions that are left. -/
  levels : Nat

open Reader

/-- The setting some levels deeper, for what begins at a place. -/
def Setting.deeper (s : Setting) (n : Nat) (p : Place) : Reader Setting :=
  if n ≤ s.levels then return { s with levels := s.levels - n } else throw ⟨.tooDeep, p⟩

/-- The levels between brackets and what stands inside them. -/
def bracketLevels : Nat := 2

mutual

/-- An expression. -/
def parseExpression : Nat → Setting → Reader Expr
  | 0, _ => refuse
  | fuel + 1, s => parseBinary fuel s 1

/-- Operators that bind at least so strongly. -/
def parseBinary : Nat → Setting → Nat → Reader Expr
  | 0, _, _ => refuse
  | fuel + 1, s, least => do
    let a ← parseUnary fuel s
    parseJoints fuel s least a

/-- The rest of operators that bind at least so strongly. -/
def parseJoints : Nat → Setting → Nat → Expr → Reader Expr
  | 0, _, _, _ => refuse
  | fuel + 1, s, least, a => do
    match (← peek).bind joint? with
    | some (strength, op) =>
      if strength < least then return a
      else
        let p ← place
        skip
        let b ← parseBinary fuel s (if strength = powerStrength then strength else strength + 1)
        parseJoints fuel s least (op.join p a b)
    | none => return a

/-- An operator before its operand. -/
def parseUnary : Nat → Setting → Reader Expr
  | 0, _ => refuse
  | fuel + 1, s => do
    let p ← place
    if ← accept "-" then return (← parseUnary fuel s).negated p
    else if ← accept "+" then return .unary p .plus (← parseUnary fuel s)
    else if ← accept "!" then return .unary p .not (← parseUnary fuel s)
    else
      let e ← parsePrimary fuel s
      parseAccess fuel s e

/-- Properties, items and calls behind a value. -/
def parseAccess : Nat → Setting → Expr → Reader Expr
  | 0, _, _ => refuse
  | fuel + 1, s, e => do
    let p ← place
    if ← accept "." then
      let p ← place
      match ← peek with
      | some (.name name) =>
        skip
        if ← accept "(" then
          let args ← parseArguments fuel s name
          parseAccess fuel s (.call p name true (e :: args))
        else parseAccess fuel s (.dot p e name)
      | _ => fail .noProperty
    else if ← accept "[" then
      let q ← place
      let key ← parseExpression fuel (← s.deeper 1 p)
      expect "]" "for a matching [ in this index expression"
      parseAccess fuel s (.index p q e key)
    else return e

/-- Expressions up to a closing mark, which serves a purpose. -/
def parseList : Nat → Setting → String → String → Reader (List Expr)
  | 0, _, _, _ => refuse
  | fuel + 1, s, close, purpose => do
    if ← accept close then return []
    else
      let e ← parseExpression fuel s
      if ← accept "," then return e :: (← parseList fuel s close purpose)
      else
        expect close purpose
        return [e]

/-- The arguments of a call of a function up to the closing bracket. -/
def parseArguments : Nat → Setting → String → Reader (List Expr)
  | 0, _, _ => refuse
  | fuel + 1, s, name => do
    let inner ← s.deeper 1 (← place)
    parseList fuel inner ")" ("to close the arguments list of this function call '" ++ name ++ "'")

/-- A value. -/
def parsePrimary : Nat → Setting → Reader Expr
  | 0, _ => refuse
  | fuel + 1, s => do
    let p ← place
    match ← peek with
    | some (.int n) => skip; return .int n
    | some (.float x) => skip; return .float x
    | some (.char c) => skip; return .char c
    | some (.str t) => skip; return .str t
    | some (.template head parts) =>
      skip
      return .template (.str head :: (← parseParts fuel s parts))
    | some (.mark "(") =>
      skip
      let inner ← s.deeper bracketLevels p
      if ← accept ")" then return .unit
      else
        let e ← parseExpression fuel inner
        expect ")" "for a matching ( in this expression"
        return e
    | some (.mark "[") =>
      skip
      return .array (← parseList fuel (← s.deeper bracketLevels p) "]" "to end this array literal")
    | some (.mark "#\x7b") =>
      skip
      return .map (← parseFields fuel (← s.deeper bracketLevels p))
    | some (.mark "|") =>
      skip
      let params ← parseParams fuel "|" "to close the parameters list of anonymous function"
      parseClosure fuel s params
    | some (.mark "||") => skip; parseClosure fuel s []
    | some (.mark "\x7b") => return .stmt (← parseBlock fuel s)
    | some (.name "true") => skip; return .bool true
    | some (.name "false") => skip; return .bool false
    | some (.name w) =>
      if ["if", "switch", "loop", "while", "do", "for"].contains w then
        return .stmt (← parseStatement fuel s)
      else
        let name ← identifier (.unexpected w)
        if ← accept "(" then return .call p name false (← parseArguments fuel s name)
        else return .ident p name
    | _ => refuse

/-- A function without a name, behind its parameters. -/
def parseClosure : Nat → Setting → List String → Reader Expr
  | 0, _, _ => refuse
  | fuel + 1, s, params => do
    if let some n := Engine.repeated? params then fail (.repeated n)
    let inner ← s.deeper 1 (← place)
    let body ← within do
      for x in params do
        declare x false
      parseStatement fuel { inner with inLoop := false }
    return .closure params body

/-- The blocks inside of a template. -/
def parseParts : Nat → Setting → List (Place × List Char × String) → Reader (List Expr)
  | 0, _, _ => refuse
  | _, _, [] => return []
  | fuel + 1, s, (p, code, text) :: rest => do
    let r ← get
    let inner ← tokens p code
    let reading := { r with tokens := inner, finish := p.afterText code }
    let (body, left) ← (parseStatements fuel s).run reading
    match left.tokens with
    | [] => return .stmt (.block body) :: .str text :: (← parseParts fuel s rest)
    | (q, t) :: _ => throw ⟨.unexpected t.text, q⟩

/-- The fields of a map up to the closing brace. -/
def parseFields : Nat → Setting → Reader (List (String × Expr))
  | 0, _ => refuse
  | fuel + 1, s => do
    if ← accept "\x7d" then return []
    else
      let name ←
        match ← peek with
        | some (.str t) =>
          skip
          pure t
        | _ => identifier .noProperty
      expect ":" ("to follow the property '" ++ name ++ "' in this object map literal")
      let e ← parseExpression fuel s
      if ← accept "," then return (name, e) :: (← parseFields fuel s)
      else
        expect "\x7d" "to end this object map literal"
        return [(name, e)]

/-- Parameters up to a closing mark, which serves a purpose. -/
def parseParams : Nat → String → String → Reader (List String)
  | 0, _, _ => refuse
  | fuel + 1, close, purpose => do
    if ← accept close then return []
    else
      let x ← identifier (.missing close purpose)
      if ← accept "," then return x :: (← parseParams fuel close purpose)
      else
        expect close purpose
        return [x]

/-- A block in braces. -/
def parseBlock : Nat → Setting → Reader Stmt
  | 0, _ => refuse
  | fuel + 1, s => do
    let p ← place
    expect "\x7b" "to start a statement block"
    let inner ← s.deeper 1 p
    let body ← within (parseStatements fuel inner)
    expect "\x7d" "to terminate this block"
    return .block body

/-- Statements up to a closing brace or the end. -/
def parseStatements : Nat → Setting → Reader (List Stmt)
  | 0, _ => refuse
  | fuel + 1, s => do
    if (← atMark "\x7d") || (← peek).isNone then return []
    else if ← accept ";" then return .empty :: (← parseStatements fuel s)
    else
      let st ← parseStatement fuel s
      if (← atMark "\x7d") || (← peek).isNone then return [st]
      else if ← accept ";" then return st :: (← parseStatements fuel s)
      else if st.closed then return st :: (← parseStatements fuel s)
      else fail .unfinished

/-- A statement without the semicolon behind it. -/
def parseStatement : Nat → Setting → Reader Stmt
  | 0, _ => refuse
  | fuel + 1, outer => do
    let p ← place
    let s ← outer.deeper 1 p
    match ← peek with
    | some (.mark "\x7b") => parseBlock fuel s
    | some (.name "let") => skip; parseDeclaration fuel s false
    | some (.name "const") => skip; parseDeclaration fuel s true
    | some (.name "if") => skip; parseBranch fuel s
    | some (.name "switch") =>
      skip
      if ← atMark "\x7b" then fail (.noExpression "a")
      let e ← parseExpression fuel s
      expect "\x7b" "to start a switch block"
      return .choose e (← parseCases fuel s)
    | some (.name "loop") =>
      skip
      let q ← place
      return .loop p q none (← parseBlock fuel { s with inLoop := true })
    | some (.name "while") =>
      skip
      if ← atMark "\x7b" then fail (.noExpression "a boolean")
      let p ← place
      let c ← parseExpression fuel s
      let q ← place
      let test := if c matches .bool true then none else some c
      return .loop p q test (← parseBlock fuel { s with inLoop := true })
    | some (.name "do") =>
      skip
      let body ← parseBlock fuel { s with inLoop := true }
      if ← acceptWord "while" then return .doLoop p body true (← parseExpression fuel s)
      else if ← acceptWord "until" then return .doLoop p body false (← parseExpression fuel s)
      else fail (.missing "while" "for the do statement")
    | some (.name "for") =>
      skip
      let name ← identifier .noVariable
      expectWord "in" "after the iteration variable"
      let e ← parseExpression fuel s
      let body ← within do
        declare name false
        parseBlock fuel { s with inLoop := true }
      return .forEach p name e body
    | some (.name "break") =>
      if s.inLoop then
        skip
        return .leave (← parseOptional fuel s)
      else fail .outsideLoop
    | some (.name "continue") =>
      if s.inLoop then
        skip
        return .again
      else fail .outsideLoop
    | some (.name "return") => skip; return .ret (← parseOptional fuel s)
    | some (.name "throw") => skip; return .raise p (← parseOptional fuel s)
    | some (.name "try") =>
      skip
      let body ← parseBlock fuel s
      expectWord "catch" "for the 'try' statement"
      let name ←
        if ← accept "(" then
          let x ← identifier .noVariable
          expect ")" "to enclose the catch variable"
          pure (some x)
        else pure none
      let handler ← within do
        if let some x := name then declare x false
        parseBlock fuel s
      return .guarded body name handler
    | _ =>
      let e ← parseExpression fuel s
      let q ← place
      match ← peek with
      | some (.mark m) =>
        match assignments.find? fun i => i.1 = m with
        | some (_, op) =>
          checkTarget (← get).scope p e
          skip
          return assignment q op e (← parseExpression fuel s)
        | none => return .expr e
      | _ => return .expr e

/-- An expression, or none before the end of a statement. -/
def parseOptional : Nat → Setting → Reader (Option Expr)
  | 0, _ => refuse
  | fuel + 1, s => do
    if (← atMark ";") || (← atMark "\x7d") || (← atMark ")") || (← atMark ",") || (← peek).isNone
    then return none
    else return some (← parseExpression fuel s)

/-- The declaration of a variable behind its first word. -/
def parseDeclaration : Nat → Setting → Bool → Reader Stmt
  | 0, _, _ => refuse
  | fuel + 1, s, constant => do
    let name ← identifier .noVariable
    let value ← if ← accept "=" then some <$> parseExpression fuel s else pure none
    declare name constant
    return .declare constant name value

/-- A branch behind its first word. -/
def parseBranch : Nat → Setting → Reader Stmt
  | 0, _ => refuse
  | fuel + 1, s => do
    if ← atMark "\x7b" then fail (.noExpression "a boolean")
    let p ← place
    let c ← parseExpression fuel s
    let a ← parseBlock fuel s
    if ← acceptWord "else" then
      if ← acceptWord "if" then return .branch p c a (some (← parseBranch fuel s))
      else return .branch p c a (some (← parseBlock fuel s))
    else return .branch p c a none

/-- The cases of a choice up to the closing brace. -/
def parseCases : Nat → Setting → Reader (List (List Expr × Option Expr × Stmt))
  | 0, _ => refuse
  | fuel + 1, s => do
    if ← accept "\x7d" then return []
    else
      let values ← if ← acceptWord "_" then pure [] else parseCaseValues fuel s
      let test ← if ← acceptWord "if" then some <$> parseExpression fuel s else pure none
      expect "=>" "in this switch case"
      let body ← parseStatement fuel s
      if ← accept "," then return (values, test, body) :: (← parseCases fuel s)
      else if (← atMark "\x7d") || body.closed then
        return (values, test, body) :: (← parseCases fuel s)
      else fail (.missing "," "to separate the items in this switch block")

/-- The values of a case. -/
def parseCaseValues : Nat → Setting → Reader (List Expr)
  | 0, _ => refuse
  | fuel + 1, s => do
    let e ← parseBinary fuel s caseStrength
    if ← accept "|" then return e :: (← parseCaseValues fuel s) else return [e]

end

/-- How deep expressions may nest. -/
def maxLevels : Nat := 64

/-- A function behind its first word. -/
def parseFunction (fuel : Nat) : Reader Func := do
  let name ← identifier .noFunction
  if !(← accept "(") then fail (.noParameters name)
  let params ← parseParams fuel ")" ("to close the parameters list of function '" ++ name ++ "'")
  if let some n := Engine.repeated? params then fail (.repeated n)
  if !(← atMark "\x7b") then fail (.noBody name)
  let scope := (← get).scope
  modify fun r => { r with scope := params.map fun x => (x, false) }
  let body ← parseBlock fuel ⟨false, maxLevels⟩
  modify fun r => { r with scope := scope }
  return ⟨name, params, body⟩

/-- The functions and statements up to the end. -/
def parseProgram : Nat → Reader Program
  | 0 => refuse
  | fuel + 1 => do
    if (← peek).isNone then return ⟨[], []⟩
    else if ← accept ";" then
      let rest ← parseProgram fuel
      return { rest with body := .empty :: rest.body }
    else
      let hidden ← acceptWord "private"
      if ← acceptWord "fn" then
        let f ← parseFunction fuel
        let rest ← parseProgram fuel
        if rest.functions.any fun g => g.name = f.name ∧ g.params.length = f.params.length then
          fail (.repeated f.name)
        return { rest with functions := f :: rest.functions }
      else if hidden then refuse
      else
        let st ← parseStatement fuel ⟨false, maxLevels⟩
        if (← peek).isNone then return ⟨[], [st]⟩
        else if (← accept ";") || st.closed then
          let rest ← parseProgram fuel
          return { rest with body := st :: rest.body }
        else fail .unfinished

/-- The program of a text. -/
def program (text : String) : Except SyntaxFault Program := do
  let t := text.toList
  let start : Place := ⟨1, 1⟩
  let reading : Reading := { tokens := ← tokens start t, finish := start.afterText t, scope := [] }
  let (p, _) ← (parseProgram (16 * (t.length + 1))).run reading
  return p

end ScriptStage.Rhai
