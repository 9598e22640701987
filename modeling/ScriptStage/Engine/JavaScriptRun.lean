import ScriptStage.Engine.JavaScriptBuiltin

/-!
# Running JavaScript programs

Evaluation is by recursion on fuel, which bounds how deep it nests: the limits on rounds of loops
and on calls end a program long before its fuel does.

## Main definitions

* `ScriptStage.JavaScript.Completion`: how a statement ends.
* `ScriptStage.JavaScript.runProgram`: the value of a program.
-/

set_option autoImplicit false

namespace ScriptStage.JavaScript

/-- How a statement ends, with the value of the last expression that ran as a statement. -/
inductive Completion where
  /-- At its end. -/
  | done (v : Option Value)
  /-- At the end of a loop around it. -/
  | left (v : Option Value)
  /-- At the end of a round of a loop around it. -/
  | again (v : Option Value)
  /-- At the end of the function around it. -/
  | returned (v : Value)

/-- The completion with a value for the case that it has none. -/
def Completion.orValue (v : Option Value) : Completion → Completion
  | .done w => .done (w.or v)
  | .left w => .left (w.or v)
  | .again w => .again (w.or v)
  | .returned w => .returned w

/-- Where an expression is evaluated. -/
structure Env where
  /-- The innermost scope. -/
  scope : Nat
  /-- The object `this`. -/
  this : Value

namespace Env

/-- The variable has no value. -/
def unknown {α : Type} (name : String) : Eval α :=
  Eval.fail .referenceError (name ++ " is not defined")

/-- The value of a variable. -/
def read (call : Caller) (env : Env) (name : String) : Eval Value := do
  match ← Eval.scopeOf? env.scope name with
  | some (_, ⟨some v, _⟩) => return v
  | some (_, ⟨none, _⟩) =>
    Eval.fail .referenceError "access of uninitialized binding"
  | none =>
    match constants.lookup name with
    | some v => return v
    | none =>
      let key := Units.ofString name
      if ((← Eval.object 0).slot? key).isSome then property call (.object 0) key
      else unknown name

/-- The variable exists. -/
def knows (env : Env) (name : String) : Eval Bool := do
  if (← Eval.scopeOf? env.scope name).isSome then return true
  return (constants.lookup name).isSome
    || ((← Eval.object 0).slot? (Units.ofString name)).isSome

/-- Writes a variable. One that nothing declares becomes global. -/
def write (call : Caller) (env : Env) (name : String) (v : Value) : Eval Unit := do
  match ← Eval.scopeOf? env.scope name with
  | some (_, ⟨none, _⟩) => Eval.fail .referenceError "access of uninitialized binding"
  | some (_, ⟨some _, true⟩) =>
    Eval.fail .typeError ("cannot mutate an immutable binding '" ++ name ++ "'")
  | some (scope, ⟨some _, false⟩) => Eval.declare scope name ⟨some v, false⟩
  | none =>
    if (constants.lookup name).isSome then return
    else setProperty call (.object 0) (Units.ofString name) v

/-- Gives a declared variable its first value. -/
def define (call : Caller) (env : Env) (kind : DeclKind) (name : String) (v : Value) :
    Eval Unit := do
  if kind = .var then env.write call name v
  else Eval.declare env.scope name ⟨some v, kind = .const⟩

end Env

/-- The variables that a block has before it runs. -/
def blockVariables (body : List Stmt) : List (String × Variable) :=
  (lexical body).map fun v => (v.1, ⟨none, v.2⟩)

/-- Declares the functions of a block. -/
def declareFunctions (env : Env) (body : List Stmt) : Eval Unit := do
  for (name, f) in functions body do
    let v ← Eval.make ⟨.function f env.scope env.this, []⟩
    Eval.declare env.scope name ⟨some v, false⟩

/-- The property of an object literal. -/
def addProperty (kind : PropKind) (key : Units) (v : Value) (o : Object) : Object :=
  let old : Option Value × Option Value :=
    match o.slot? key with
    | some (.accessor g s) => (g, s)
    | _ => (none, none)
  match kind with
  | .value => o.put key (.value v)
  | .getter => o.put key (.accessor (some v) old.2)
  | .setter => o.put key (.accessor old.1 (some v))

/-- What a loop runs over: the keys of a value or its items. -/
def rangeOf (keys : Bool) (v : Value) : Eval (List Value) := do
  match keys, v with
  | true, .object place => return (keysOf (← Eval.object place)).map .str
  | true, _ => return []
  | false, .str u => return u.map fun c => .str [c]
  | false, v =>
    if ← isArray v then itemsOf v else Eval.fail .typeError "value is not iterable"

mutual

/-- Calls a function. -/
def callFunction : Nat → Value → Value → List Value → Eval Value
  | 0, _, _, _ => throw (.limit "RuntimeLimit: exceeded maximum depth")
  | fuel + 1, f, this, args => do
    match f with
    | .builtin b => Eval.deeper (runBuiltin (callFunction fuel) b this args)
    | .object place =>
      match (← Eval.object place).body with
      | .function (.mk name params body arrow) scope outerThis =>
        Eval.deeper do
          let self := if name = "" ∨ params.contains name then [] else [(name, ⟨some f, false⟩)]
          let inputs := params.zipIdx.map fun p => (p.1, ⟨some (argument args p.2), false⟩)
          let locals := (declared body).filter fun n => !params.contains n
          let env : Env :=
            { scope := ← Eval.openScope scope
                (inputs ++ locals.map (fun n => (n, ⟨some .undefined, false⟩))
                  ++ blockVariables body ++ self)
              this := if arrow then outerThis else this }
          declareFunctions env body
          match ← execList fuel env body none with
          | .returned v => return v
          | _ => return .undefined
      | _ => Eval.fail .typeError "not a callable function"
    | _ => Eval.fail .typeError "not a callable function"

/-- The value of an expression. -/
def eval : Nat → Env → Expr → Eval Value
  | 0, _, _ => throw (.limit "RuntimeLimit: exceeded maximum depth")
  | fuel + 1, env, e => do
    match e with
    | .num x => return .num x
    | .bigint n => return .bigint n
    | .str u => return .str u
    | .template head parts => return .str (head ++ (← evalParts fuel env parts))
    | .ident name => env.read (callFunction fuel) name
    | .null => return .null
    | .bool b => return .bool b
    | .this => return env.this
    | .array items => Eval.make ⟨.array (← evalItems fuel env items).toArray, []⟩
    | .object props => Eval.make (← evalProps fuel env props default)
    | .function f => do
      let (.mk name _ _ arrow) := f
      let this := if arrow then env.this else .undefined
      if name = "" then Eval.make ⟨.function f env.scope this, []⟩
      else
        let scope ← Eval.openScope env.scope []
        let v ← Eval.make ⟨.function f scope this, []⟩
        Eval.declare scope name ⟨some v, false⟩
        return v
    | .unary .typeOf (.ident name) =>
      if ← env.knows name then
        applyUnary (callFunction fuel) .typeOf (← env.read (callFunction fuel) name)
      else return .ofString "undefined"
    | .unary op a => applyUnary (callFunction fuel) op (← eval fuel env a)
    | .delete a =>
      match a with
      | .member o key =>
        let v ← eval fuel env o
        let key ← toUnits (callFunction fuel) (← eval fuel env key)
        removeProperty v key
        return .bool true
      | _ => return .bool false
    | .update before down target =>
      let (old, put) ← evalTarget fuel env target
      let old ← toPrimitive (callFunction fuel) false (← old)
      let (old, new) ←
        match old with
        | .bigint n => pure (Value.bigint n, Value.bigint (if down then n - 1 else n + 1))
        | v =>
          let x ← primitiveNumber v
          pure (Value.num x, Value.num (if down then x - 1 else x + 1))
      put new
      return if before then new else old
    | .binary op a b =>
      let a ← eval fuel env a
      let b ← eval fuel env b
      applyBinary (callFunction fuel) op a b
    | .logic op a b =>
      let v ← eval fuel env a
      let first :=
        match op with
        | .and => !v.truthy
        | .or => v.truthy
        | .coalesce => !(v matches .undefined | .null)
      if first then return v else eval fuel env b
    | .cond c a b => if (← eval fuel env c).truthy then eval fuel env a else eval fuel env b
    | .assign none target value =>
      let (_, put) ← evalTarget fuel env target
      let v ← eval fuel env value
      put v
      return v
    | .assign (some op) target value =>
      let (old, put) ← evalTarget fuel env target
      let old ← old
      let v ← applyBinary (callFunction fuel) op old (← eval fuel env value)
      put v
      return v
    | .call (.member o key) args =>
      let this ← eval fuel env o
      let key ← toUnits (callFunction fuel) (← eval fuel env key)
      let f ← property (callFunction fuel) this key
      callFunction fuel f this (← evalList fuel env args)
    | .call f args =>
      let f ← eval fuel env f
      callFunction fuel f .undefined (← evalList fuel env args)
    | .new f args =>
      let f ← eval fuel env f
      let args ← evalList fuel env args
      if !(← isCallable f) then Eval.fail .typeError "not a constructor"
      else if let .builtin _ := f then callFunction fuel f .undefined args
      else
        let this ← Eval.make default
        let v ← callFunction fuel f this args
        return if v.isObject then v else this
    | .member o key =>
      let v ← eval fuel env o
      let key ← toUnits (callFunction fuel) (← eval fuel env key)
      property (callFunction fuel) v key
    | .seq a b =>
      let _ ← eval fuel env a
      eval fuel env b

/-- How the target of an assignment is read and written. -/
def evalTarget : Nat → Env → Expr → Eval (Eval Value × (Value → Eval Unit))
  | 0, _, _ => throw (.limit "RuntimeLimit: exceeded maximum depth")
  | fuel + 1, env, e => do
    match e with
    | .ident name =>
      return (env.read (callFunction fuel) name, env.write (callFunction fuel) name)
    | .member o key =>
      let v ← eval fuel env o
      let key ← toUnits (callFunction fuel) (← eval fuel env key)
      return (property (callFunction fuel) v key, setProperty (callFunction fuel) v key)
    | _ => Eval.fail .syntaxError "invalid assignment target"

/-- The values of expressions. -/
def evalList : Nat → Env → List Expr → Eval (List Value)
  | 0, _, _ => throw (.limit "RuntimeLimit: exceeded maximum depth")
  | _, _, [] => return []
  | fuel + 1, env, e :: rest => do
    let v ← eval fuel env e
    return v :: (← evalList fuel env rest)

/-- The text of the parts of a template. -/
def evalParts : Nat → Env → List (Expr × Units) → Eval Units
  | 0, _, _ => throw (.limit "RuntimeLimit: exceeded maximum depth")
  | _, _, [] => return []
  | fuel + 1, env, (e, text) :: rest => do
    let u ← toUnits (callFunction fuel) (← eval fuel env e)
    return u ++ text ++ (← evalParts fuel env rest)

/-- The items of an array. -/
def evalItems : Nat → Env → List (Option Expr) → Eval (List (Option Value))
  | 0, _, _ => throw (.limit "RuntimeLimit: exceeded maximum depth")
  | _, _, [] => return []
  | fuel + 1, env, none :: rest => do return none :: (← evalItems fuel env rest)
  | fuel + 1, env, some e :: rest => do
    let v ← eval fuel env e
    return some v :: (← evalItems fuel env rest)

/-- An object with properties added. -/
def evalProps : Nat → Env → List (PropKind × Expr × Expr) → Object → Eval Object
  | 0, _, _, _ => throw (.limit "RuntimeLimit: exceeded maximum depth")
  | _, _, [], o => return o
  | fuel + 1, env, (kind, key, e) :: rest, o => do
    let key ← toUnits (callFunction fuel) (← eval fuel env key)
    let v ← eval fuel env e
    evalProps fuel env rest (addProperty kind key v o)

/-- Runs a statement. -/
def exec : Nat → Env → Stmt → Eval Completion
  | 0, _, _ => throw (.limit "RuntimeLimit: exceeded maximum depth")
  | fuel + 1, env, s => do
    match s with
    | .expr e => return .done (some (← eval fuel env e))
    | .declare kind vars =>
      execVariables fuel env kind vars
      return .done none
    | .func _ _ | .empty => return .done none
    | .ret none => return .returned .undefined
    | .ret (some e) => return .returned (← eval fuel env e)
    | .branch c a b =>
      if (← eval fuel env c).truthy then
        return (← exec fuel env a).orValue (some .undefined)
      else
        match b with
        | some b => return (← exec fuel env b).orValue (some .undefined)
        | none => return .done (some .undefined)
    | .whileLoop c body => execLoop fuel env (some c) none body (some .undefined)
    | .doLoop body c =>
      Eval.countRound
      match ← exec fuel env body with
      | .left v => return .done (v.or (some .undefined))
      | .returned v => return .returned v
      | .done v | .again v => execLoop fuel env (some c) none body (v.or (some .undefined))
    | .forLoop start c step body =>
      match start with
      | some (.declare kind vars) =>
        if kind = .var then
          execVariables fuel env kind vars
          execLoop fuel env c step body (some .undefined)
        else
          let scope ← Eval.openScope env.scope (blockVariables [.declare kind vars])
          let env := { env with scope := scope }
          execVariables fuel env kind vars
          execLoop fuel env c step body (some .undefined)
      | some s =>
        let _ ← exec fuel env s
        execLoop fuel env c step body (some .undefined)
      | none => execLoop fuel env c step body (some .undefined)
    | .forEach kind name keys e body =>
      let items ← rangeOf keys (← eval fuel env e)
      execEach fuel env kind name body items (some .undefined)
    | .block body => execBlock fuel env body
    | .raise e => throw (.thrown (← eval fuel env e))
    | .guarded body handler final =>
      let guarded : Eval Completion :=
        match handler with
        | none => execBlock fuel env body
        | some (name, block) =>
          tryCatch (execBlock fuel env body) fun
            | .limit text => throw (.limit text)
            | .thrown v => do
              let scope ← Eval.openScope env.scope
                (name.toList.map fun n => (n, ⟨some v, false⟩))
              execBlock fuel { env with scope := scope } block
      match final with
      | none => return (← guarded).orValue (some .undefined)
      | some last =>
        let result ← tryCatch (do return Except.ok (← guarded)) fun
          | .limit text => throw (.limit text)
          | .thrown v => return Except.error v
        match ← execBlock fuel env last with
        | .done _ =>
          match result with
          | .ok c => return c.orValue (some .undefined)
          | .error v => throw (.thrown v)
        | c => return c
    | .leave => return .left none
    | .again => return .again none

/-- Declares variables. -/
def execVariables : Nat → Env → DeclKind → List (String × Option Expr) → Eval Unit
  | 0, _, _, _ => throw (.limit "RuntimeLimit: exceeded maximum depth")
  | _, _, _, [] => return
  | fuel + 1, env, kind, (name, value) :: rest => do
    match value with
    | some e => env.define (callFunction fuel) kind name (← eval fuel env e)
    | none =>
      if kind ≠ .var then env.define (callFunction fuel) kind name .undefined
    execVariables fuel env kind rest

/-- Runs the rounds of a loop. -/
def execLoop : Nat → Env → Option Expr → Option Expr → Stmt → Option Value → Eval Completion
  | 0, _, _, _, _, _ => throw (.limit "RuntimeLimit: exceeded maximum depth")
  | fuel + 1, env, c, step, body, last => do
    let goes ←
      match c with
      | some e => do pure (← eval fuel env e).truthy
      | none => pure true
    if !goes then return .done last
    Eval.countRound
    match ← exec fuel env body with
    | .left v => return .done (v.or last)
    | .returned v => return .returned v
    | .done v | .again v =>
      if let some e := step then
        let _ ← eval fuel env e
      execLoop fuel env c step body (v.or last)

/-- Runs a loop over values. -/
def execEach : Nat → Env → DeclKind → String → Stmt → List Value → Option Value → Eval Completion
  | 0, _, _, _, _, _, _ => throw (.limit "RuntimeLimit: exceeded maximum depth")
  | _, _, _, _, _, [], last => return .done last
  | fuel + 1, env, kind, name, body, x :: rest, last => do
    Eval.countRound
    let inner ←
      if kind = .var then
        env.write (callFunction fuel) name x
        pure env
      else
        let scope ← Eval.openScope env.scope [(name, ⟨some x, kind = .const⟩)]
        pure { env with scope := scope }
    match ← exec fuel inner body with
    | .left v => return .done (v.or last)
    | .returned v => return .returned v
    | .done v | .again v => execEach fuel env kind name body rest (v.or last)

/-- Runs a block. -/
def execBlock : Nat → Env → List Stmt → Eval Completion
  | 0, _, _ => throw (.limit "RuntimeLimit: exceeded maximum depth")
  | fuel + 1, env, body => do
    let own := blockVariables body
    if own.isEmpty && (functions body).isEmpty then execList fuel env body none
    else
      let scope ← Eval.openScope env.scope own
      let env := { env with scope := scope }
      declareFunctions env body
      execList fuel env body none

/-- Runs statements, given the value of the last expression. -/
def execList : Nat → Env → List Stmt → Option Value → Eval Completion
  | 0, _, _, _ => throw (.limit "RuntimeLimit: exceeded maximum depth")
  | _, _, [], last => return .done last
  | fuel + 1, env, s :: rest, last => do
    match ← exec fuel env s with
    | .done v => execList fuel env rest (v.or last)
    | c => return c.orValue last

end

/-- How deep evaluation may nest. No run within the limits nests deeper. -/
def depthBound : Nat := 0x1000000000000

/-- The value of a program whose global variables are already there. -/
def runProgram (body : List Stmt) : Eval Value := do
  let env : Env := ⟨0, .object 0⟩
  for name in declared body do
    if !(← env.knows name) then
      Eval.change 0 fun o => o.put (Units.ofString name) (.value .undefined)
  for (name, f) in functions body do
    let v ← Eval.make ⟨.function f 0 (.object 0), []⟩
    Eval.change 0 fun o => o.put (Units.ofString name) (.value v)
  for (name, v) in blockVariables body do
    Eval.declare 0 name v
  match ← execList depthBound env body none with
  | .done v => return v.getD .undefined
  | .returned v => return v
  | .left _ | .again _ => return .undefined

end ScriptStage.JavaScript
