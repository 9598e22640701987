import ScriptStage.Engine.RhaiBuiltin

/-!
# Running Rhai programs

Evaluation is by recursion on fuel, which bounds how deep it nests: the limits on operations and
calls end a program long before its fuel does.

## Main definitions

* `ScriptStage.Rhai.World`, `Fault`, `Stop`, `Eval`: all that a program can change, what went wrong,
  why it stops, and its computations.
* `ScriptStage.Rhai.Path`: a variable and the way to a part of it.
* `ScriptStage.Rhai.runProgram`: the value of a program.
-/

set_option autoImplicit false

namespace ScriptStage.Rhai

/-- A variable. -/
structure Variable where
  /-- Its name. -/
  name : String
  /-- Its value. -/
  value : Value
  /-- It cannot be written. -/
  constant : Bool

/-- All that a program can change. -/
structure World where
  /-- The variables, the one declared last first. -/
  vars : List Variable
  /-- The operations that are left. -/
  operations : Nat
  /-- The nested calls that are left. -/
  calls : Nat

/-- A call on the way to a fault. -/
structure Frame where
  /-- The function, if it has a name. -/
  function : Option String
  /-- Where it was called. -/
  pos : Place

/-- The wording of a call. -/
def Frame.text (f : Frame) : String :=
  let what :=
    match f.function with
    | some name => "in call to function '" ++ name ++ "'"
    | none => "in closure call"
  "\n" ++ what ++ f.pos.text

/-- What went wrong in a run. -/
structure Fault where
  /-- The cause. -/
  why : Cause
  /-- The place. -/
  pos : Place
  /-- The calls around the place, the innermost first. -/
  frames : List Frame

namespace Fault

/-- The wording of a fault. -/
def message (f : Fault) : String :=
  f.why.message ++ f.pos.text ++ String.join (f.frames.map Frame.text)

/-- The fault, seen from outside of a call. A limit that is reached inside of the call counts as
reached at its place. -/
def outside (f : Fault) (call : Frame) : Fault :=
  if f.why.catchable then { f with frames := f.frames ++ [call] } else { f with pos := call.pos }

end Fault

/-- Why a program stops before its end. -/
inductive Stop where
  /-- Something went wrong. -/
  | fault (f : Fault)
  /-- The loop around ends with a value. -/
  | left (v : Value)
  /-- The round of the loop around ends. -/
  | again
  /-- The function around ends with a value. -/
  | returned (v : Value)

/-- Computations of a running program. -/
abbrev Eval := EStateM Stop World

/-- How many operations a program may use. -/
def maxOperations : Nat := 10000000

/-- How deep calls may nest. -/
def maxCalls : Nat := 64

/-- One step on the way to a part of a value. -/
inductive Step where
  /-- To a property. -/
  | property (pos : Place) (name : String)
  /-- To an item; the places are those of the bracket and of the key. -/
  | item (pos keyPos : Place) (key : Value)

/-- A variable and the way to a part of it. -/
structure Path where
  /-- The place where the variable is named. -/
  pos : Place
  /-- The variable. -/
  name : String
  /-- The way. -/
  steps : List Step

/-- A part of a value under a key. A type without items goes wrong at the bracket, all else at the
key. -/
def atKey {α : Type} (pos keyPos : Place) (r : Except Cause α) : Except (Cause × Place) α :=
  r.mapError fun
    | .noItems type key => (.noItems type key, pos)
    | why => (why, keyPos)

/-- The part of a value at the end of a way. -/
def partAt (v : Value) : List Step → Except (Cause × Place) Value
  | [] => .ok v
  | .property pos name :: rest => do
    let x ← (field v name).mapError (·, pos)
    partAt x rest
  | .item pos keyPos key :: rest => do
    let x ← atKey pos keyPos (item v key)
    partAt x rest

/-- The value with the part at the end of a way replaced. -/
def replaceAt (v x : Value) : List Step → Except (Cause × Place) Value
  | [] => .ok x
  | .property pos name :: rest => do
    let inner ← if rest.isEmpty then pure .unit else (field v name).mapError (·, pos)
    let new ← replaceAt inner x rest
    (setField v name new).mapError (·, pos)
  | .item pos keyPos key :: rest => do
    let inner ← if rest.isEmpty then pure .unit else atKey pos keyPos (item v key)
    let new ← replaceAt inner x rest
    atKey pos keyPos (setItem v key new)

namespace Eval

/-- Goes wrong at a place. -/
def fail {α : Type} (why : Cause) (pos : Place) : Eval α :=
  throw (.fault ⟨why, pos, []⟩)

/-- The result of a rule at a place. -/
def ofRule {α : Type} (pos : Place) (r : Except Cause α) : Eval α :=
  match r with
  | .ok a => pure a
  | .error why => fail why pos

/-- The result of a rule that tells the place. -/
def ofPlaced {α : Type} (r : Except (Cause × Place) α) : Eval α :=
  match r with
  | .ok a => pure a
  | .error (why, pos) => fail why pos

/-- Counts an operation at a place. -/
def count (pos : Place) : Eval Unit := do
  let w ← get
  match w.operations with
  | 0 => fail .tooManyOperations pos
  | n + 1 => set { w with operations := n }

/-- Declares a variable. -/
def declare (name : String) (v : Value) (constant : Bool) : Eval Unit :=
  modify fun w => { w with vars := ⟨name, v, constant⟩ :: w.vars }

/-- How many variables are declared. -/
def height : Eval Nat := do
  return (← get).vars.length

/-- Forgets the variables above a height. -/
def dropTo (n : Nat) : Eval Unit :=
  modify fun w => { w with vars := w.vars.drop (w.vars.length - n) }

/-- Runs with variables of its own. -/
def within {α : Type} (m : Eval α) : Eval α := do
  let n ← height
  let a ← m
  dropTo n
  return a

/-- A variable. -/
def lookup? (name : String) : Eval (Option Variable) := do
  return (← get).vars.find? fun x => x.name = name

/-- The value of a variable. -/
def read (pos : Place) (name : String) : Eval Value := do
  match ← lookup? name with
  | some x => return x.value
  | none => fail (.noVariable name) pos

/-- Writes the first variable of a name in a list. -/
def writeFirst (name : String) (v : Value) : List Variable → List Variable
  | [] => []
  | x :: rest =>
    if x.name = name then { x with value := v } :: rest else x :: writeFirst name v rest

/-- Writes a variable. -/
def write (pos : Place) (name : String) (v : Value) : Eval Unit := do
  match ← lookup? name with
  | none => fail (.noVariable name) pos
  | some x =>
    if x.constant then fail (.constant name) pos
    else modify fun w => { w with vars := writeFirst name v w.vars }

/-- Runs a call one level deeper, with nothing but its own variables in sight. -/
def calling (call : Frame) (vars : List Variable) (m : Eval Value) :
    Eval (Value × List Variable) := do
  let w ← get
  match w.calls with
  | 0 => fail .tooManyCalls call.pos
  | n + 1 =>
    set { w with vars := vars, calls := n }
    let restore : Eval (List Variable) :=
      modifyGet fun inner =>
        (inner.vars, { inner with vars := w.vars, calls := n + 1 })
    let v ← tryCatch m fun
      | .returned v => return v
      | .fault f => do
        let _ ← restore
        throw (.fault (f.outside call))
      | e => do
        let _ ← restore
        throw e
    let own ← restore
    return (v, own)

/-- Runs what a built-in function calls. -/
def onBehalf {α : Type} (call : Frame) (m : Eval α) : Eval α :=
  tryCatch m fun
    | .fault f => throw (.fault (f.outside call))
    | e => throw e

end Eval

/-- What a loop runs over. -/
inductive Cursor where
  /-- Values. -/
  | items (vs : List Value)
  /-- The integers from one to before another. -/
  | span (low high : Int)

/-- The next value and what is left. -/
def Cursor.next? : Cursor → Option (Value × Cursor)
  | .items [] => none
  | .items (v :: rest) => some (v, .items rest)
  | .span low high => if low < high then some (.int low, .span (low + 1) high) else none

/-- What a loop over a value runs over. -/
def Cursor.ofValue? : Value → Option Cursor
  | .array vs => some (.items vs)
  | .str s => some (.items (s.toList.map .char))
  | .blob bytes => some (.items (bytes.map fun b => .int b.toNat))
  | .range low high through => some (.span low (if through then high + 1 else high))
  | _ => none

/-- The name of the object of a method. -/
def thisName : String := "this"

/-- The boolean that a test answers. -/
def testOf (pos : Place) : Value → Eval Bool
  | .bool b => return b
  | v => Eval.fail (.mismatch v.typeName "bool") pos

/-- The variables that a closure keeps, each once. -/
def keep (vars : List Variable) : List (String × Value) :=
  vars.foldr (fun x kept => (x.name, x.value) :: kept.filter (·.1 ≠ x.name)) []

/-- The arguments of a closure: no more than it has parameters. -/
def fitArgs (f : Value) (args : List Value) : List Value :=
  match f with
  | .closure params _ _ => args.take params.length
  | _ => args

/-- The text that a handler is given of what went wrong. -/
def caughtValue : Cause → Value
  | .thrown v => v
  | why => .str why.message

/-- A place where nothing goes on for want of fuel. -/
def exhausted {α : Type} : Eval α :=
  Eval.fail .tooManyOperations default

mutual

/-- The value of an expression. -/
def eval : Nat → List Func → Expr → Eval Value
  | 0, _, _ => exhausted
  | fuel + 1, fns, e => do
    Eval.count default
    match e with
    | .unit => return .unit
    | .bool b => return .bool b
    | .int n => return .int n
    | .float x => return .float x
    | .char c => return .char c
    | .str s => return .str s
    | .template parts =>
      let vs ← evalList fuel fns parts
      Eval.ofRule default (sized (.str (String.join (vs.map Value.text))))
    | .array items => Eval.ofRule default (sized (.array (← evalList fuel fns items)))
    | .map fields =>
      let vs ← evalList fuel fns (fields.map (·.2))
      let entries := (fields.map (·.1)).zip vs
      Eval.ofRule default
        (sized (.map (entries.foldl (fun fs f => Dict.put f.1 f.2 fs) [])))
    | .ident pos name => Eval.read pos name
    | .unary pos op a => Eval.ofRule pos (applyUnary op (← eval fuel fns a))
    | .binary pos op a b =>
      let a ← eval fuel fns a
      let b ← eval fuel fns b
      Eval.ofRule pos (applyBinary op a b)
    | .logic _ .coalesce a b =>
      match ← eval fuel fns a with
      | .unit => eval fuel fns b
      | v => return v
    | .logic pos op a b =>
      let x ← testOf pos (← eval fuel fns a)
      if x == (op == .or) then return .bool x
      else return .bool (← testOf pos (← eval fuel fns b))
    | .call pos name behind args => evalCall fuel fns pos name behind args
    | .dot pos a name => Eval.ofRule pos (field (← eval fuel fns a) name)
    | .index pos keyPos a key =>
      let v ← eval fuel fns a
      let key ← eval fuel fns key
      Eval.ofPlaced (atKey pos keyPos (item v key))
    | .closure params body => return .closure params body (keep (← get).vars)
    | .stmt s => exec fuel fns s

/-- The values of expressions. -/
def evalList : Nat → List Func → List Expr → Eval (List Value)
  | 0, _, _ => exhausted
  | _, _, [] => return []
  | fuel + 1, fns, e :: rest => do
    let v ← eval fuel fns e
    return v :: (← evalList fuel fns rest)

/-- The variable that an expression names and the way to the part of it, if it does so. -/
def evalPath : Nat → List Func → Expr → Eval (Option Path)
  | 0, _, _ => exhausted
  | fuel + 1, fns, e => do
    match e with
    | .ident pos name => return some ⟨pos, name, []⟩
    | .dot pos a name =>
      return (← evalPath fuel fns a).map fun p =>
        { p with steps := p.steps ++ [.property pos name] }
    | .index pos keyPos a key =>
      match ← evalPath fuel fns a with
      | some p =>
        let key ← eval fuel fns key
        return some { p with steps := p.steps ++ [.item pos keyPos key] }
      | none => return none
    | _ => return none

/-- A call whose first argument may be changed in its place. The value of the first argument is read
after the others. -/
def evalCall : Nat → List Func → Place → String → Bool → List Expr → Eval Value
  | 0, _, _, _, _, _ => exhausted
  | fuel + 1, fns, pos, name, behind, args => do
    match args with
    | [] => return (← invoke fuel fns pos name behind []).value
    | first :: rest =>
      match ← evalPath fuel fns first with
      | none =>
        let vs ← evalList fuel fns (first :: rest)
        return (← invoke fuel fns pos name behind vs).value
      | some path =>
        let vs ← evalList fuel fns rest
        let whole ← Eval.read path.pos path.name
        let part ← Eval.ofPlaced (partAt whole path.steps)
        let answer ← invoke fuel fns pos name behind (part :: vs)
        match answer.changed with
        | none => return answer.value
        | some new =>
          let whole ← Eval.read path.pos path.name
          let whole ← Eval.ofPlaced (replaceAt whole new path.steps)
          Eval.write path.pos path.name whole
          return answer.value

/-- A call of a closure. -/
def callClosure : Nat → List Func → Place → Value → List Value → Eval Value
  | 0, _, _, _, _ => exhausted
  | fuel + 1, fns, pos, f, args => do
    match f with
    | .closure params body seen =>
      if params.length ≠ args.length then
        Eval.fail (.noFunction "Fn" (args.map Value.argumentName)) pos
      let own := (params.zip args).reverse.map fun p => ⟨p.1, p.2, false⟩
      let outer := seen.map fun p => ⟨p.1, p.2, false⟩
      return (← Eval.calling ⟨none, pos⟩ (own ++ outer) (exec fuel fns body)).1
    | v => Eval.fail (.mismatch v.typeName "Fn") pos

/-- A call of a function with values. -/
def invoke : Nat → List Func → Place → String → Bool → List Value → Eval Answer
  | 0, _, _, _, _, _ => exhausted
  | fuel + 1, fns, pos, name, behind, args => do
    let ownArgs := if behind then args.drop 1 else args
    match fns.find? fun f => f.name = name ∧ f.params.length = ownArgs.length, args with
    | some f, args =>
      let this : List Variable := if behind then [⟨thisName, args.headD .unit, false⟩] else []
      let own := (f.params.zip ownArgs).reverse.map fun p => ⟨p.1, p.2, false⟩
      let (v, after) ← Eval.calling ⟨some name, pos⟩ (own ++ this) (exec fuel fns f.body)
      let changed := if behind then (after.find? fun x => x.name = thisName).map (·.value) else none
      return { value := v, changed := changed }
    | none, .closure params body seen :: rest =>
      if name = "call" then
        return { value := ← callClosure fuel fns pos (.closure params body seen) rest }
      else Eval.ofRule pos (builtin name args)
    | none, .array items :: f :: rest =>
      match name, rest with
      | "map", [] => do
        let vs ← applyEach fuel fns ⟨some name, pos⟩ f items 0
        return { value := .array vs }
      | "filter", [] =>
        let vs ← applyEach fuel fns ⟨some name, pos⟩ f items 0
        let flags ← vs.mapM (testOf pos)
        return { value := .array (((items.zip flags).filter (·.2)).map (·.1)) }
      | "some", [] =>
        let flags ← (← applyEach fuel fns ⟨some name, pos⟩ f items 0).mapM (testOf pos)
        return { value := .bool (flags.any id) }
      | "all", [] =>
        let flags ← (← applyEach fuel fns ⟨some name, pos⟩ f items 0).mapM (testOf pos)
        return { value := .bool (flags.all id) }
      | "reduce", [] => return { value := ← applyAll fuel fns ⟨some name, pos⟩ f .unit items }
      | "reduce", [start] => return { value := ← applyAll fuel fns ⟨some name, pos⟩ f start items }
      | _, _ => Eval.ofRule pos (builtin name args)
    | none, [.map fields, f] =>
      if name = "map" then
        let keys := fields.map fun p => Value.str p.1
        let vs ← applyEach fuel fns ⟨some name, pos⟩ f keys 0
        return { value := .map ((fields.map (·.1)).zip vs) }
      else Eval.ofRule pos (builtin name args)
    | none, args => Eval.ofRule pos (builtin name args)

/-- The results of a closure for items and their places, on behalf of a built-in function. -/
def applyEach : Nat → List Func → Frame → Value → List Value → Nat → Eval (List Value)
  | 0, _, _, _, _, _ => exhausted
  | _, _, _, _, [], _ => return []
  | fuel + 1, fns, caller, f, v :: rest, n => do
    let x ← Eval.onBehalf caller (callClosure fuel fns caller.pos f (fitArgs f [v, .int n]))
    return x :: (← applyEach fuel fns caller f rest (n + 1))

/-- The result of a closure that takes what it made of the items so far and the next one, on behalf
of a built-in function. -/
def applyAll : Nat → List Func → Frame → Value → Value → List Value → Eval Value
  | 0, _, _, _, _, _ => exhausted
  | _, _, _, _, total, [] => return total
  | fuel + 1, fns, caller, f, total, v :: rest => do
    let x ← Eval.onBehalf caller (callClosure fuel fns caller.pos f (fitArgs f [total, v]))
    applyAll fuel fns caller f x rest

/-- Runs a statement. -/
def exec : Nat → List Func → Stmt → Eval Value
  | 0, _, _ => exhausted
  | fuel + 1, fns, s => do
    Eval.count default
    match s with
    | .expr e => eval fuel fns e
    | .declare constant name value =>
      let v ←
        match value with
        | some e => eval fuel fns e
        | none => pure .unit
      Eval.declare name v constant
      return .unit
    | .assign pos op target value =>
      let v ← eval fuel fns value
      match ← evalPath fuel fns target with
      | none => return .unit
      | some path =>
        let whole ← Eval.read path.pos path.name
        let v ←
          match op with
          | none => pure v
          | some op =>
            let old ← Eval.ofPlaced (partAt whole path.steps)
            Eval.ofRule pos (applyUpdate op old v)
        Eval.write path.pos path.name (← Eval.ofPlaced (replaceAt whole v path.steps))
        return .unit
    | .block body => Eval.within (execList fuel fns body .unit)
    | .branch pos c a b =>
      if ← testOf pos (← eval fuel fns c) then exec fuel fns a
      else
        match b with
        | some b => exec fuel fns b
        | none => return .unit
    | .choose e cases =>
      let v ← eval fuel fns e
      execCases fuel fns v cases
    | .loop pos bodyPos c body => execLoop fuel fns pos bodyPos c body
    | .doLoop pos body goesOn c => execDo fuel fns pos body goesOn c
    | .forEach pos name e body =>
      let v ← eval fuel fns e
      match Cursor.ofValue? v with
      | some cursor => execEach fuel fns name body cursor
      | none => Eval.fail (.mismatch v.typeName "iterable") pos
    | .leave none => throw (.left .unit)
    | .leave (some e) => throw (.left (← eval fuel fns e))
    | .again => throw .again
    | .ret none => throw (.returned .unit)
    | .ret (some e) => throw (.returned (← eval fuel fns e))
    | .raise pos none => Eval.fail (.thrown .unit) pos
    | .raise pos (some e) => Eval.fail (.thrown (← eval fuel fns e)) pos
    | .guarded body name handler =>
      let n ← Eval.height
      tryCatch (exec fuel fns body) fun
        | .fault f =>
          if f.why.catchable then do
            Eval.dropTo n
            Eval.within do
              if let some x := name then
                Eval.declare x (caughtValue f.why) false
              exec fuel fns handler
          else throw (.fault f)
        | e => throw e
    | .empty => return .unit

/-- Runs statements; the value is that of the last one. -/
def execList : Nat → List Func → List Stmt → Value → Eval Value
  | 0, _, _, _ => exhausted
  | _, _, [], last => return last
  | fuel + 1, fns, s :: rest, _ => do
    let v ← exec fuel fns s
    execList fuel fns rest v

/-- Runs the first case that a value falls under. -/
def execCases : Nat → List Func → Value → List (List Expr × Option Expr × Stmt) → Eval Value
  | 0, _, _, _ => exhausted
  | _, _, _, [] => return .unit
  | fuel + 1, fns, v, (values, test, body) :: rest => do
    let xs ← evalList fuel fns values
    let hit := xs.isEmpty || xs.any fun x =>
      match x, v with
      | .range _ _ _, .int _ =>
          ((contains x v).toOption.map fun b => b.same (.bool true)).getD false
      | _, _ => x.same v
    let allowed ←
      if !hit then pure false
      else
        match test with
        | some e => testOf default (← eval fuel fns e)
        | none => pure true
    if allowed then exec fuel fns body else execCases fuel fns v rest

/-- Runs a body once: whether the loop goes on, or the value with which it ends. -/
def execRound : Nat → List Func → Stmt → Eval (Option Value)
  | 0, _, _ => exhausted
  | fuel + 1, fns, body => do
    let n ← Eval.height
    tryCatch (do
      let _ ← exec fuel fns body
      return none) fun
      | .again => do
        Eval.dropTo n
        return none
      | .left v => do
        Eval.dropTo n
        return some v
      | e => throw e

/-- Runs a loop with its test in front. -/
def execLoop : Nat → List Func → Place → Place → Option Expr → Stmt → Eval Value
  | 0, _, _, _, _, _ => exhausted
  | fuel + 1, fns, pos, bodyPos, c, body => do
    Eval.count bodyPos
    let goes ←
      match c with
      | some e => testOf pos (← eval fuel fns e)
      | none => pure true
    if !goes then return .unit
    else if body matches .block [] then execLoop fuel fns pos bodyPos c body
    else
      match ← execRound fuel fns body with
      | some v => return v
      | none => execLoop fuel fns pos bodyPos c body

/-- Runs a loop with its test behind. -/
def execDo : Nat → List Func → Place → Stmt → Bool → Expr → Eval Value
  | 0, _, _, _, _, _ => exhausted
  | fuel + 1, fns, pos, body, goesOn, c => do
    Eval.count pos
    match ← execRound fuel fns body with
    | some v => return v
    | none =>
      if (← testOf pos (← eval fuel fns c)) == goesOn then execDo fuel fns pos body goesOn c
      else return .unit

/-- Runs a loop over values. -/
def execEach : Nat → List Func → String → Stmt → Cursor → Eval Value
  | 0, _, _, _, _ => exhausted
  | fuel + 1, fns, name, body, cursor => do
    Eval.count default
    match cursor.next? with
    | none => return .unit
    | some (v, rest) =>
      let n ← Eval.height
      Eval.declare name v false
      let ended ← execRound fuel fns body
      Eval.dropTo n
      match ended with
      | some v => return v
      | none => execEach fuel fns name body rest

end

/-- How deep evaluation may nest. No run within the limits nests deeper. -/
def depthBound : Nat := 0x1000000000000

/-- The value of a program. -/
def runProgram (p : Program) : Eval Value :=
  tryCatch (execList depthBound p.functions p.body .unit) fun
    | .returned v => return v
    | .left v => return v
    | .again => return .unit
    | e => throw e

end ScriptStage.Rhai
