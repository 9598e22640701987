import ScriptStage.Engine.Conventions
import ScriptStage.Engine.JavaScriptToken
import ScriptStage.Engine.JavaScriptTree

/-!
# Reading JavaScript programs

A program is read by descent through the levels of its grammar. Each function is given fuel, which
bounds how deep the descent goes; a text of `n` characters has at most `n` tokens, and at most
fifteen levels lie between two of them, so that the fuel of `program` is always enough.

## Main definitions

* `ScriptStage.JavaScript.Reader`: readers of tokens.
* `ScriptStage.JavaScript.program`: the statements of a text.
-/

set_option autoImplicit false

namespace ScriptStage.JavaScript

/-- Readers of tokens. -/
abbrev Reader := StateT (List (Lead × Token)) (Except SyntaxFault)

/-- The text of a token, for messages. -/
def Token.text : Token → String
  | .name s | .mark s => s
  | .num x => String.ofList (number.render x)
  | .bigint n => String.ofList (Decimal.Notation.digitsOf n) ++ "n"
  | .str u => Units.toText u
  | .template u _ => Units.toText u

/-- The words that are no names of variables. -/
def reserved : List String :=
  [ "break", "case", "catch", "class", "const", "continue", "debugger", "default", "delete", "do",
    "else", "enum", "export", "extends", "false", "finally", "for", "function", "if", "import",
    "in", "instanceof", "new", "null", "return", "super", "switch", "this", "throw", "true", "try",
    "typeof", "var", "void", "while", "with" ]

namespace Reader

/-- The next token, which stays. -/
def peek : Reader (Option Token) := do
  return (← get).head?.map (·.2)

/-- The token after the next one. -/
def peekSecond : Reader (Option Token) := do
  return ((← get).drop 1).head?.map (·.2)

/-- Removes the next token. -/
def skip : Reader Unit :=
  modify (·.drop 1)

/-- The place of the next token. -/
def location : Reader Location := do
  return ((← get).head?.map (·.1.pos)).getD .start

/-- Refuses the next token in a part of the grammar. -/
def refuseIn {α : Type} (part : String) : Reader α := do
  match ← peek with
  | some t => throw (.unexpected t.text part (← location))
  | none => throw .ended

/-- Refuses the next token where a value should begin. -/
def refuse {α : Type} : Reader α :=
  refuseIn "primary expression"

/-- Refuses the next token in a part of the grammar that wants another. -/
def want {α : Type} (wanted part : String) : Reader α := do
  match ← peek with
  | some t => throw (.expected wanted t.text part (← location))
  | none => throw .ended

/-- The next token begins a line, or the text ends. -/
def atLineStart : Reader Bool := do
  return ((← get).head?.map (·.1.begins)).getD true

/-- The next token is a mark. -/
def atMark (m : String) : Reader Bool := do
  match ← peek with
  | some (.mark s) => return s == m
  | _ => return false

/-- The next token is a word. -/
def atWord (w : String) : Reader Bool := do
  match ← peek with
  | some (.name s) => return s == w
  | _ => return false

/-- Removes a mark if it comes next. -/
def accept (m : String) : Reader Bool := do
  if ← atMark m then
    skip
    return true
  else return false

/-- Removes a word if it comes next. -/
def acceptWord (w : String) : Reader Bool := do
  if ← atWord w then
    skip
    return true
  else return false

/-- Removes a mark, which has to come next in a part of the grammar. -/
def expect (m part : String) : Reader Unit := do
  if !(← accept m) then want m part

/-- Removes a word, which has to come next in a part of the grammar. -/
def expectWord (w part : String) : Reader Unit := do
  if !(← acceptWord w) then want w part

/-- The name of a variable. -/
def variableName : Reader String := do
  match ← peek with
  | some (.name s) =>
    if reserved.contains s then want "identifier" "identifier parsing"
    else
      skip
      return s
  | _ => want "identifier" "identifier parsing"

/-- The name of a property behind a point. -/
def propertyName : Reader Units := do
  match ← peek with
  | some (.name s) =>
    skip
    return Units.ofString s
  | _ => want "identifier" "identifier parsing"

/-- The end of a statement: a semicolon, or none before a brace, a new line or the end. -/
def endStatement (part : String) : Reader Unit := do
  if !(← accept ";") then
    if !(← atMark "\x7d") && !(← atLineStart) then want ";" part

end Reader

/-- Operators between two operands. -/
inductive Joint where
  /-- An operator between two values. -/
  | binary (op : BinaryOp)
  /-- An operator that may leave out its second operand. -/
  | logic (op : LogicOp)

/-- The operators between two operands, and how strongly they bind. -/
def joints : List (String × Nat × Joint) :=
  [ ("??", 1, .logic .coalesce), ("||", 2, .logic .or), ("&&", 3, .logic .and),
    ("|", 4, .binary .bitOr), ("^", 5, .binary .bitXor), ("&", 6, .binary .bitAnd),
    ("==", 7, .binary .looseEq), ("!=", 7, .binary .looseNe), ("===", 7, .binary .eq),
    ("!==", 7, .binary .ne), ("<", 8, .binary .lt), (">", 8, .binary .gt), ("<=", 8, .binary .le),
    (">=", 8, .binary .ge), ("in", 8, .binary .isIn), ("<<", 9, .binary .shiftLeft),
    (">>", 9, .binary .shiftRight), (">>>", 9, .binary .shiftRightZero), ("+", 10, .binary .add),
    ("-", 10, .binary .sub), ("*", 11, .binary .mul), ("/", 11, .binary .div),
    ("%", 11, .binary .rem), ("**", 12, .binary .pow) ]

/-- The operator of a token between two operands, and how strongly it binds. -/
def joint? : Token → Option (Nat × Joint)
  | .mark s | .name s => (joints.find? fun i => i.1 = s).map (·.2)
  | _ => none

/-- The expression of an operator between two operands. -/
def Joint.join (i : Joint) (a b : Expr) : Expr :=
  match i with
  | .binary op => .binary op a b
  | .logic op => .logic op a b

/-- The operators before an operand. -/
def heads : List (String × UnaryOp) :=
  [ ("-", .neg), ("+", .plus), ("!", .not), ("~", .complement), ("typeof", .typeOf),
    ("void", .void) ]

/-- The operators of assignments. -/
def assignments : List (String × Option BinaryOp) :=
  [ ("=", none), ("+=", some .add), ("-=", some .sub), ("*=", some .mul), ("/=", some .div),
    ("%=", some .rem), ("**=", some .pow), ("<<=", some .shiftLeft), (">>=", some .shiftRight),
    (">>>=", some .shiftRightZero), ("&=", some .bitAnd), ("|=", some .bitOr),
    ("^=", some .bitXor) ]

/-- The expression can be assigned to. -/
def Expr.assignable : Expr → Bool
  | .ident _ | .member _ _ => true
  | _ => false

/-- The parameters of an arrow function up to its arrow, and what follows. -/
def arrowParams : List (Lead × Token) → Option (List String × List (Lead × Token))
  | (_, .name s) :: (⟨false, _⟩, .mark "=>") :: rest =>
    if reserved.contains s then none else some ([s], rest)
  | (_, .mark "(") :: (_, .mark ")") :: (⟨false, _⟩, .mark "=>") :: rest => some ([], rest)
  | (_, .mark "(") :: rest => names rest
  | _ => none
where
  /-- The names up to the closing bracket and the arrow behind it. -/
  names : List (Lead × Token) → Option (List String × List (Lead × Token))
    | (_, .name s) :: (_, .mark ",") :: rest =>
      if reserved.contains s then none else (names rest).map fun r => (s :: r.1, r.2)
    | (_, .name s) :: (_, .mark ")") :: (⟨false, _⟩, .mark "=>") :: rest =>
      if reserved.contains s then none else some ([s], rest)
    | _ => none

/-- Where a statement stands. -/
structure Place where
  /-- It stands in a function. -/
  inFunction : Bool
  /-- It stands in a loop of that function. -/
  inLoop : Bool

/-- Statements of one block at a place, unless they declare a variable twice. -/
def checked (p : Location) (body : List Stmt) (params : List String) (top : Bool) :
    Except SyntaxFault (List Stmt) :=
  let own := (lexical body).map (·.1)
  let shared := declared body ++ params ++ (functions body).map (·.1)
  match Engine.repeated? (own ++ (if top then [] else (functions body).map (·.1))) with
  | some _ => .error (.redeclared p)
  | none => if own.any shared.contains then .error (.shared p) else .ok body

open Reader

mutual

/-- Expressions separated by commas. -/
def parseExpression : Nat → Reader Expr
  | 0 => refuse
  | fuel + 1 => do
    let a ← parseAssignment fuel
    parseSequence fuel a

/-- The rest of expressions separated by commas. -/
def parseSequence : Nat → Expr → Reader Expr
  | 0, _ => refuse
  | fuel + 1, a => do
    if ← accept "," then
      let b ← parseAssignment fuel
      parseSequence fuel (.seq a b)
    else return a

/-- An assignment or what binds stronger. -/
def parseAssignment : Nat → Reader Expr
  | 0 => refuse
  | fuel + 1 => do
    match arrowParams (← get) with
    | some (params, rest) =>
      set rest
      if ← atMark "\x7b" then
        let body ← parseBody fuel params
        return .function (.mk "" params body true)
      else
        let e ← parseAssignment fuel
        return .function (.mk "" params [.ret (some e)] true)
    | none =>
      let target ← parseBinary fuel 1
      if ← accept "?" then
        let a ← parseAssignment fuel
        expect ":" "conditional expression"
        let b ← parseAssignment fuel
        return .cond target a b
      else
        match ← peek with
        | some (.mark m) =>
          match assignments.find? fun i => i.1 = m with
          | some (_, op) =>
            if target.assignable then
              skip
              return .assign op target (← parseAssignment fuel)
            else refuse
          | none => return target
        | _ => return target

/-- Operators that bind at least so strongly. -/
def parseBinary : Nat → Nat → Reader Expr
  | 0, _ => refuse
  | fuel + 1, least => do
    let a ← parseUnary fuel
    parseJoints fuel least a

/-- The rest of operators that bind at least so strongly. -/
def parseJoints : Nat → Nat → Expr → Reader Expr
  | 0, _, _ => refuse
  | fuel + 1, least, a => do
    match (← peek).bind joint? with
    | some (strength, op) =>
      if strength < least then return a
      else
        if let (.unary _ _, .binary .pow) := (a, op) then refuse
        skip
        let b ← parseBinary fuel (if strength = 12 then 12 else strength + 1)
        parseJoints fuel least (op.join a b)
    | none => return a

/-- An operator before its operand. -/
def parseUnary : Nat → Reader Expr
  | 0 => refuse
  | fuel + 1 => do
    match ← peek with
    | some (.mark s) | some (.name s) =>
      match heads.find? fun i => i.1 = s with
      | some (_, op) =>
        skip
        return .unary op (← parseUnary fuel)
      | none =>
        if s = "delete" then
          skip
          return .delete (← parseUnary fuel)
        else if s = "++" ∨ s = "--" then
          skip
          let e ← parseUnary fuel
          if e.assignable then return .update true (s = "--") e else refuse
        else parseStep fuel
    | _ => parseStep fuel

/-- A value with a step behind it. -/
def parseStep : Nat → Reader Expr
  | 0 => refuse
  | fuel + 1 => do
    let e ← parsePrimary fuel
    let e ← parseAccess fuel true e
    let step := (← atMark "++") || (← atMark "--")
    if step && e.assignable && !(← atLineStart) then
      let down ← atMark "--"
      skip
      return .update false down e
    else return e

/-- Properties and calls behind a value. -/
def parseAccess : Nat → Bool → Expr → Reader Expr
  | 0, _, _ => refuse
  | fuel + 1, calls, e => do
    if ← accept "." then
      let name ← propertyName
      parseAccess fuel calls (.member e (.str name))
    else if ← accept "[" then
      let key ← parseExpression fuel
      expect "]" "member expression"
      parseAccess fuel calls (.member e key)
    else if calls && (← atMark "(") then
      skip
      let args ← parseArguments fuel
      parseAccess fuel calls (.call e args)
    else return e

/-- Arguments up to the closing bracket. -/
def parseArguments : Nat → Reader (List Expr)
  | 0 => refuse
  | fuel + 1 => do
    if ← accept ")" then return []
    else
      let e ← parseAssignment fuel
      if ← accept "," then return e :: (← parseArguments fuel)
      else
        expect ")" "argument list"
        return [e]

/-- A value. -/
def parsePrimary : Nat → Reader Expr
  | 0 => refuse
  | fuel + 1 => do
    match ← peek with
    | some (.num x) => skip; return .num x
    | some (.bigint n) => skip; return .bigint n
    | some (.str u) => skip; return .str u
    | some (.template head parts) =>
      skip
      return .template head (← parseParts fuel parts)
    | some (.mark "(") =>
      skip
      let e ← parseExpression fuel
      expect ")" "parenthesized expression"
      return e
    | some (.mark "[") => skip; return .array (← parseItems fuel)
    | some (.mark "\x7b") => skip; return .object (← parseProperties fuel)
    | some (.name "null") => skip; return .null
    | some (.name "true") => skip; return .bool true
    | some (.name "false") => skip; return .bool false
    | some (.name "this") => skip; return .this
    | some (.name "function") =>
      skip
      let name ← if ← atMark "(" then pure "" else variableName
      return .function (← parseFunction fuel name)
    | some (.name "new") =>
      skip
      let f ← parsePrimary fuel
      let f ← parseAccess fuel false f
      if ← accept "(" then return .new f (← parseArguments fuel) else return .new f []
    | some (.name _) => return .ident (← variableName)
    | _ => refuse

/-- The expressions inside of a template. -/
def parseParts : Nat → List (List Char × Units) → Reader (List (Expr × Units))
  | 0, _ => refuse
  | _, [] => return []
  | fuel + 1, (code, text) :: rest => do
    let (e, left) ← (tokens code).bind (parseExpression fuel)
    match left with
    | [] => return (e, text) :: (← parseParts fuel rest)
    | (lead, t) :: _ => throw (.unexpected t.text "template literal" lead.pos)

/-- Items of an array up to the closing bracket. -/
def parseItems : Nat → Reader (List (Option Expr))
  | 0 => refuse
  | fuel + 1 => do
    if ← accept "]" then return []
    else if ← accept "," then return none :: (← parseItems fuel)
    else
      let e ← parseAssignment fuel
      if ← accept "," then return some e :: (← parseItems fuel)
      else
        expect "]" "array literal"
        return [some e]

/-- The key of a property. -/
def parseKey : Nat → Reader Expr
  | 0 => refuse
  | fuel + 1 => do
    match ← peek with
    | some (.name s) => skip; return .str (Units.ofString s)
    | some (.str u) => skip; return .str u
    | some (.num x) => skip; return .str (unitsOfNumber x)
    | some (.mark "[") =>
      skip
      let e ← parseAssignment fuel
      expect "]" "computed property name"
      return e
    | _ => refuse

/-- Properties of an object up to the closing brace. -/
def parseProperties : Nat → Reader (List (PropKind × Expr × Expr))
  | 0 => refuse
  | fuel + 1 => do
    if ← accept "\x7d" then return []
    else
      let p ← parseProperty fuel
      if ← accept "," then return p :: (← parseProperties fuel)
      else
        expect "\x7d" "object literal"
        return [p]

/-- A property of an object. -/
def parseProperty : Nat → Reader (PropKind × Expr × Expr)
  | 0 => refuse
  | fuel + 1 => do
    let first ← peek
    let plain :=
      match ← peekSecond with
      | some (.mark m) => [":", "(", ",", "\x7d"].contains m
      | none => true
      | _ => false
    let accessor : Option PropKind :=
      match first with
      | some (.name "get") => if plain then none else some .getter
      | some (.name "set") => if plain then none else some .setter
      | _ => none
    match accessor with
    | some kind =>
      skip
      let key ← parseKey fuel
      return (kind, key, .function (← parseFunction fuel ""))
    | none =>
      let key ← parseKey fuel
      if ← accept ":" then return (.value, key, ← parseAssignment fuel)
      else if ← atMark "(" then return (.value, key, .function (← parseFunction fuel ""))
      else
        match first with
        | some (.name s) =>
          if reserved.contains s then refuse else return (.value, key, .ident s)
        | _ => refuse

/-- The parameters and the body of a function. -/
def parseFunction : Nat → String → Reader Func
  | 0, _ => refuse
  | fuel + 1, name => do
    expect "(" "function"
    let params ← parseParams fuel
    let body ← parseBody fuel params
    return .mk name params body false

/-- Parameters up to the closing bracket. -/
def parseParams : Nat → Reader (List String)
  | 0 => refuse
  | fuel + 1 => do
    if ← accept ")" then return []
    else
      let p ← variableName
      if ← accept "," then return p :: (← parseParams fuel)
      else
        expect ")" "formal parameters"
        return [p]

/-- The body of a function in braces. -/
def parseBody : Nat → List String → Reader (List Stmt)
  | 0, _ => refuse
  | fuel + 1, params => do
    let p ← location
    expect "\x7b" "function body"
    let body ← parseStatements fuel ⟨true, false⟩
    expect "\x7d" "function body"
    checked p body params true

/-- Statements up to a closing brace or the end. -/
def parseStatements : Nat → Place → Reader (List Stmt)
  | 0, _ => refuse
  | fuel + 1, place => do
    if (← atMark "\x7d") || (← peek).isNone then return []
    else
      let s ← parseStatement fuel place
      return s :: (← parseStatements fuel place)

/-- A block in braces. -/
def parseBlock : Nat → Place → Reader (List Stmt)
  | 0, _ => refuse
  | fuel + 1, place => do
    let p ← location
    expect "\x7b" "block"
    let body ← parseStatements fuel place
    expect "\x7d" "block"
    checked p body [] false

/-- A statement. -/
def parseStatement : Nat → Place → Reader Stmt
  | 0, _ => refuse
  | fuel + 1, place => do
    let second ← peekSecond
    match ← peek with
    | some (.mark ";") => skip; return .empty
    | some (.mark "\x7b") => return .block (← parseBlock fuel place)
    | some (.name "var") => parseDeclaration fuel .var
    | some (.name "const") => parseDeclaration fuel .const
    | some (.name "let") =>
      match second with
      | some (.name _) => parseDeclaration fuel .block
      | _ => parseLine fuel
    | some (.name "function") =>
      skip
      if ← atMark "(" then refuseIn "function declaration"
      let name ← variableName
      return .func name (← parseFunction fuel name)
    | some (.name "return") =>
      if place.inFunction then
        skip
        let bare := (← atMark ";") || (← atMark "\x7d") || (← atLineStart)
        let e ← if bare then pure none else some <$> parseExpression fuel
        endStatement "return statement"
        return .ret e
      else refuseIn "statement"
    | some (.name "if") =>
      skip
      expect "(" "if statement"
      let c ← parseExpression fuel
      expect ")" "if statement"
      let a ← parseStatement fuel place
      let b ← if ← acceptWord "else" then some <$> parseStatement fuel place else pure none
      return .branch c a b
    | some (.name "while") =>
      skip
      expect "(" "while statement"
      let c ← parseExpression fuel
      expect ")" "while statement"
      return .whileLoop c (← parseStatement fuel { place with inLoop := true })
    | some (.name "do") =>
      skip
      let body ← parseStatement fuel { place with inLoop := true }
      expectWord "while" "do-while statement"
      expect "(" "do-while statement"
      let c ← parseExpression fuel
      expect ")" "do-while statement"
      let _ ← accept ";"
      return .doLoop body c
    | some (.name "for") => skip; parseFor fuel { place with inLoop := true }
    | some (.name "break") =>
      if place.inLoop then
        skip
        endStatement "break statement"
        return .leave
      else refuseIn "statement"
    | some (.name "continue") =>
      if place.inLoop then
        skip
        endStatement "continue statement"
        return .again
      else refuseIn "statement"
    | some (.name "throw") =>
      skip
      if ← atLineStart then refuseIn "throw statement"
      let e ← parseExpression fuel
      endStatement "throw statement"
      return .raise e
    | some (.name "try") => skip; parseTry fuel place
    | _ => parseLine fuel

/-- An expression as a statement. -/
def parseLine : Nat → Reader Stmt
  | 0 => refuse
  | fuel + 1 => do
    let e ← parseExpression fuel
    endStatement "expression statement"
    return .expr e

/-- Declarations of variables as a statement. -/
def parseDeclaration : Nat → DeclKind → Reader Stmt
  | 0, _ => refuse
  | fuel + 1, kind => do
    skip
    let vars ← parseVariables fuel kind
    endStatement (if kind = .var then "variable statement" else "lexical declaration")
    return .declare kind vars

/-- Declarations separated by commas. -/
def parseVariables : Nat → DeclKind → Reader (List (String × Option Expr))
  | 0, _ => refuse
  | fuel + 1, kind => do
    let name ← variableName
    if kind ≠ .var ∧ name = "let" then refuseIn "lexical declaration"
    let value ←
      if ← accept "=" then some <$> parseAssignment fuel
      else if kind = .const then refuseIn "const declaration"
      else pure none
    if ← accept "," then return (name, value) :: (← parseVariables fuel kind)
    else return [(name, value)]

/-- A loop behind its first word. -/
def parseFor : Nat → Place → Reader Stmt
  | 0, _ => refuse
  | fuel + 1, place => do
    expect "(" "for statement"
    let kind : Option DeclKind :=
      match ← peek with
      | some (.name "var") => some .var
      | some (.name "let") => some .block
      | some (.name "const") => some .const
      | _ => none
    match kind, (← get).drop 1 with
    | some k, (_, .name x) :: (_, .name w) :: rest =>
      if (w = "of" ∨ w = "in") ∧ !reserved.contains x then
        set rest
        let e ← if w = "of" then parseAssignment fuel else parseExpression fuel
        expect ")" "for statement"
        return .forEach k x (w = "in") e (← parseStatement fuel place)
      else refuseIn "for statement"
    | some k, _ =>
      skip
      let vars ← parseVariables fuel k
      parseForRest fuel place (some (.declare k vars))
    | none, _ =>
      if ← atMark ";" then parseForRest fuel place none
      else
        let e ← parseExpression fuel
        parseForRest fuel place (some (.expr e))

/-- A loop behind its start. -/
def parseForRest : Nat → Place → Option Stmt → Reader Stmt
  | 0, _, _ => refuse
  | fuel + 1, place, start => do
    expect ";" "for statement"
    let c ← if ← atMark ";" then pure none else some <$> parseExpression fuel
    expect ";" "for statement"
    let step ← if ← atMark ")" then pure none else some <$> parseExpression fuel
    expect ")" "for statement"
    return .forLoop start c step (← parseStatement fuel place)

/-- A guarded block behind its first word. -/
def parseTry : Nat → Place → Reader Stmt
  | 0, _ => refuse
  | fuel + 1, place => do
    let body ← parseBlock fuel place
    let handler ←
      if ← acceptWord "catch" then
        let name ←
          if ← accept "(" then
            let n ← variableName
            expect ")" "catch in try statement"
            pure (some n)
          else pure none
        let block ← parseBlock fuel place
        pure (some (name, block))
      else pure none
    let final ← if ← acceptWord "finally" then some <$> parseBlock fuel place else pure none
    if handler.isNone && final.isNone then refuseIn "try statement"
    return .guarded body handler final

end

/-- The statements of a text. -/
def program (text : String) : Except SyntaxFault (List Stmt) := do
  let t := text.toList
  let (body, rest) ← parseStatements (16 * (t.length + 1)) ⟨false, false⟩ (← tokens t)
  match rest with
  | [] => checked .start body [] true
  | (lead, token) :: _ => throw (.unexpected token.text "primary expression" lead.pos)

end ScriptStage.JavaScript
