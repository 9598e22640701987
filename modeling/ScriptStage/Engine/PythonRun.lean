import ScriptStage.Engine.PythonBuiltin

/-!
# Running Python programs

Evaluation is by recursion on fuel, which bounds how deep it nests. A program that nests deeper is
told so by an exception, as one whose calls nest too deep.

## Main definitions

* `ScriptStage.Python.Completion`: how a statement ends.
* `ScriptStage.Python.execList`, `eval`: statements and expressions.
* `ScriptStage.Python.depthBound`: the fuel of a program.
-/

set_option autoImplicit false

namespace ScriptStage.Python

/-- How a statement ends. -/
inductive Completion where
  /-- At its end. -/
  | done
  /-- At the end of a loop around it. -/
  | left
  /-- At the end of a round of a loop around it. -/
  | again
  /-- At the end of the function around it. -/
  | returned (v : Value)

/-- The dictionary of the variables of the program. -/
def programEntries : Eval (List (Value × Value)) := do
  match ← Eval.object 0 with
  | .dict entries => return entries
  | _ => return []

/-- A built-in function or a kind of exceptions. -/
def builtin? (name : String) : Option Value :=
  match Builtin.table.lookup name with
  | some f => some (.builtin f)
  | none => (ErrorKind.all.find? fun k => k.name = name).map .kind

/-- The variable of the program that stands for the built-in names, if it is there. -/
def builtinsName : String := "__builtins__"

/-- The value of a built-in name: an item of the variable that stands for all of them, if there is
such a variable. -/
def readBuiltin (name : String) : Eval Value := do
  let undefined : Eval Value := Eval.fail .nameError ("name '" ++ name ++ "' is not defined")
  match (← programEntries).find? fun e => e.1.sameKey (.str builtinsName) with
  | none => (builtin? name).elim undefined pure
  | some e =>
    tryCatch (readItem e.2 (.str name)) fun r => if r.kind = .keyError then undefined else throw r

/-- The value of a variable of the program, or of a built-in name. -/
def readGlobal (name : String) : Eval Value := do
  match (← programEntries).find? fun e => e.1.sameKey (.str name) with
  | some e => return e.2
  | none => readBuiltin name

/-- Writes a variable of the program. -/
def writeGlobal (name : String) (v : Value) : Eval Unit := do
  Eval.put 0 (.dict (writeEntry (.str name) v (← programEntries)))

/-- The variable of the program that holds the annotations of its variables. -/
def annotationsName : String := "__annotations__"

/-- Notes the annotation of a variable of the program. -/
def noteAnnotation (name : String) (v : Value) : Eval Unit := do
  match (← programEntries).find? fun e => e.1.sameKey (.str annotationsName) with
  | some e => writeItem e.2 (.str name) v
  | none => writeGlobal annotationsName (← Eval.make (.dict [(.str name, v)]))

/-- The value of a variable, from a scope outward. The fuel is the number of scopes. -/
def readName (name : String) : Nat → Option Nat → Eval Value
  | 0, _ => readGlobal name
  | _, none => readGlobal name
  | fuel + 1, some place => do
    let s := (← get).scopes.getD place default
    match s.vars.lookup name with
    | some v => return v
    | none =>
      if s.own.contains name then
        Eval.fail .unboundLocalError
          ("cannot access local variable '" ++ name
            ++ "' where it is not associated with a value")
      else readName name fuel s.outer

/-- Changes the variables of a scope. -/
def changeScope (place : Nat) (f : List (String × Value) → List (String × Value)) : Eval Unit :=
  modify fun w => { w with scopes := w.scopes.modify place fun s =>
    { s with vars := f s.vars } }

/-- The scope in which a name stands for a variable of its own. -/
def ownScope? (scope : Option Nat) (name : String) : Eval (Option Nat) := do
  let scopes := (← get).scopes
  return scope.filter fun place => (scopes.getD place default).own.contains name

/-- Writes a variable. -/
def writeName (scope : Option Nat) (name : String) (v : Value) : Eval Unit := do
  match ← ownScope? scope name with
  | some place =>
    changeScope place fun vars => (name, v) :: vars.filter (·.1 ≠ name)
  | none => writeGlobal name v

/-- Removes a variable. -/
def removeName (scope : Option Nat) (name : String) : Eval Unit := do
  match ← ownScope? scope name with
  | some place => changeScope place fun vars => vars.filter (·.1 ≠ name)
  | none =>
    let entries ← programEntries
    if entries.any fun e => e.1.sameKey (.str name) then
      Eval.put 0 (.dict (entries.filter fun e => !e.1.sameKey (.str name)))
    else Eval.fail .nameError ("name '" ++ name ++ "' is not defined")

/-- The exception that a value stands for. -/
def raisedOf (v : Value) : Eval Raised := do
  match v with
  | .kind k => return ⟨k, []⟩
  | .error k args => return ⟨k, args⟩
  | _ => Eval.fail .typeError "exceptions must derive from BaseException"

/-- The kinds of exceptions that a handler names. -/
def kindsOf (v : Value) : Eval (List ErrorKind) := do
  match v with
  | .kind k => return [k]
  | .tuple items =>
    items.mapM fun x =>
      match x with
      | .kind k => (return k : Eval ErrorKind)
      | _ => Eval.fail .typeError "catching classes that do not inherit from BaseException"
  | _ => Eval.fail .typeError "catching classes that do not inherit from BaseException"

/-- Ends for want of fuel. -/
def exhausted {α : Type} : Eval α :=
  Eval.fail .recursionError "maximum recursion depth exceeded"

mutual

/-- Calls a value. -/
def callValue : Nat → Value → List Value → Eval Value
  | 0, _, _ => exhausted
  | fuel + 1, f, args => do
    let w ← get
    match f with
    | .builtin b => callBuiltin b args
    | .kind k => return .error k args
    | .method self name => callMethod self name args
    | .object place =>
      match w.objects.getD place default with
      | .function name params body scope =>
        if params.length ≠ args.length then
          Eval.fail .typeError
            (name ++ "() takes " ++ toString params.length ++ " positional arguments but "
              ++ toString args.length ++ " were given")
        Eval.deeper do
          let shared := globals body
          let own := params ++ (assigned body).filter fun n => !shared.contains n
          let place ← modifyGet fun w =>
            (w.scopes.size, { w with scopes := w.scopes.push ⟨own, params.zip args, scope⟩ })
          match ← execList fuel (some place) body with
          | .returned v => return v
          | _ => return .none
      | _ => Eval.fail .typeError ("'" ++ w.typeName f ++ "' object is not callable")
    | _ => Eval.fail .typeError ("'" ++ w.typeName f ++ "' object is not callable")

/-- The value of an expression. -/
def eval : Nat → Option Nat → Expr → Eval Value
  | 0, _, _ => exhausted
  | fuel + 1, scope, e => do
    match e with
    | .none => return .none
    | .bool b => return .bool b
    | .int n => return .int n
    | .float x => return .float x
    | .str s => return .str s
    | .name s => readName s ((← get).scopes.size + 1) scope
    | .list items => Eval.make (.list (← evalList fuel scope items))
    | .tuple items => return .tuple (← evalList fuel scope items)
    | .set items =>
      let vs ← evalList fuel scope items
      vs.forM checkKey
      Eval.make (.set (distinct vs))
    | .dict entries => Eval.make (.dict (← evalEntries fuel scope entries []))
    | .unary op a => applyUnary op (← eval fuel scope a)
    | .binary op a b =>
      let x ← eval fuel scope a
      let y ← eval fuel scope b
      applyBinary op x y
    | .and a b =>
      let v ← eval fuel scope a
      if (← get).truthy v then eval fuel scope b else return v
    | .or a b =>
      let v ← eval fuel scope a
      if (← get).truthy v then return v else eval fuel scope b
    | .compare a rest => evalChain fuel scope (← eval fuel scope a) rest
    | .choose c a b =>
      let v ← eval fuel scope c
      if (← get).truthy v then eval fuel scope a else eval fuel scope b
    | .lambda params body =>
      Eval.make (.function "<lambda>" params [.ret (some body)] scope)
    | .call f args =>
      let f ← eval fuel scope f
      callValue fuel f (← evalList fuel scope args)
    | .attribute a name =>
      let v ← eval fuel scope a
      let w ← get
      match v, name with
      | .error _ args, "args" => return .tuple args
      | v, name =>
        if hasMethod w v name then return .method v name
        else
          Eval.fail .attributeError
            ("'" ++ w.typeName v ++ "' object has no attribute '" ++ name ++ "'")
    | .item a (.slice start stop) =>
      let v ← eval fuel scope a
      let start ← evalBound fuel scope start
      let stop ← evalBound fuel scope stop
      readPart v start stop
    | .item a key =>
      let v ← eval fuel scope a
      readItem v (← eval fuel scope key)
    | .slice _ _ => Eval.fail .typeError "a slice stands alone"

/-- The bound of a part. -/
def evalBound : Nat → Option Nat → Option Expr → Eval (Option Int)
  | 0, _, _ => exhausted
  | _, _, none => return none
  | fuel + 1, scope, some e => do
    match ← eval fuel scope e with
    | .none => return none
    | v => return some (← bound v)

/-- The values of expressions. -/
def evalList : Nat → Option Nat → List Expr → Eval (List Value)
  | 0, _, _ => exhausted
  | _, _, [] => return []
  | fuel + 1, scope, e :: rest => do
    let v ← eval fuel scope e
    return v :: (← evalList fuel scope rest)

/-- Entries of a dictionary added to others. -/
def evalEntries : Nat → Option Nat → List (Expr × Expr) → List (Value × Value) →
    Eval (List (Value × Value))
  | 0, _, _, _ => exhausted
  | _, _, [], entries => return entries
  | fuel + 1, scope, (k, e) :: rest, entries => do
    let k ← eval fuel scope k
    let v ← eval fuel scope e
    checkKey k
    evalEntries fuel scope rest (writeEntry k v entries)

/-- A chain of comparisons, as far as needed. -/
def evalChain : Nat → Option Nat → Value → List (Comparison × Expr) → Eval Value
  | 0, _, _, _ => exhausted
  | _, _, _, [] => return .bool true
  | fuel + 1, scope, a, (op, e) :: rest => do
    let b ← eval fuel scope e
    if ← compareValues op a b then evalChain fuel scope b rest else return .bool false

/-- Assigns a value to a target. -/
def assign : Nat → Option Nat → Expr → Value → Eval Unit
  | 0, _, _, _ => exhausted
  | fuel + 1, scope, target, v => do
    match target with
    | .name s => writeName scope s v
    | .item a key =>
      let whole ← eval fuel scope a
      writeItem whole (← eval fuel scope key) v
    | .tuple targets | .list targets =>
      let items ← elements v
      if items.length < targets.length then
        Eval.fail .valueError "not enough values to unpack"
      else if targets.length < items.length then
        Eval.fail .valueError "too many values to unpack"
      else assignAll fuel scope targets items
    | _ => Eval.fail .attributeError "object has no such attribute"

/-- Assigns values to targets one by one. -/
def assignAll : Nat → Option Nat → List Expr → List Value → Eval Unit
  | 0, _, _, _ => exhausted
  | fuel + 1, scope, t :: ts, v :: vs => do
    assign fuel scope t v
    assignAll fuel scope ts vs
  | _, _, _, _ => return

/-- Assigns a value to several targets. -/
def assignEach : Nat → Option Nat → List Expr → Value → Eval Unit
  | 0, _, _, _ => exhausted
  | _, _, [], _ => return
  | fuel + 1, scope, t :: ts, v => do
    assign fuel scope t v
    assignEach fuel scope ts v

/-- Removes targets. -/
def deleteEach : Nat → Option Nat → List Expr → Eval Unit
  | 0, _, _ => exhausted
  | _, _, [] => return
  | fuel + 1, scope, t :: ts => do
    match t with
    | .name s => removeName scope s
    | .item a key =>
      let whole ← eval fuel scope a
      removeItem whole (← eval fuel scope key)
    | .tuple items | .list items => deleteEach fuel scope items
    | _ => Eval.fail .attributeError "object has no such attribute"
    deleteEach fuel scope ts

/-- Runs a statement. -/
def exec : Nat → Option Nat → Stmt → Eval Completion
  | 0, _, _ => exhausted
  | fuel + 1, scope, s => do
    match s with
    | .expr e =>
      let _ ← eval fuel scope e
      return .done
    | .assign targets e =>
      let v ← eval fuel scope e
      assignEach fuel scope targets v
      return .done
    | .update op (.item a key) e =>
      let whole ← eval fuel scope a
      let key ← eval fuel scope key
      let old ← readItem whole key
      writeItem whole key (← applyUpdate op old (← eval fuel scope e))
      return .done
    | .update op target e =>
      let old ← eval fuel scope target
      let v ← applyUpdate op old (← eval fuel scope e)
      assign fuel scope target v
      return .done
    | .annotate target annotation value =>
      if let some e := value then
        assign fuel scope target (← eval fuel scope e)
      if scope.isNone then
        let v ← eval fuel scope annotation
        if let .name x := target then noteAnnotation x v
      return .done
    | .delete targets =>
      deleteEach fuel scope targets
      return .done
    | .define name params body =>
      writeName scope name (← Eval.make (.function name params body scope))
      return .done
    | .ret none => return .returned .none
    | .ret (some e) => return .returned (← eval fuel scope e)
    | .branch c a b =>
      let v ← eval fuel scope c
      if (← get).truthy v then execList fuel scope a else execList fuel scope b
    | .whileLoop c body last => execWhile fuel scope c body last
    | .forLoop target e body last =>
      let items ← elements (← eval fuel scope e)
      execFor fuel scope target items body last
    | .raise none =>
      match (← get).handled with
      | r :: _ => throw r
      | [] => Eval.fail .runtimeError "No active exception to reraise"
    | .raise (some e) => throw (← raisedOf (← eval fuel scope e))
    | .guarded body handlers last final =>
      let guarded : Eval Completion := do
        let result ← tryCatch (do return Except.ok (← execList fuel scope body)) fun r =>
          return Except.error r
        match result with
        | .ok .done => execList fuel scope last
        | .ok c => return c
        | .error r => execHandlers fuel scope r handlers
      let result ← tryCatch (do return Except.ok (← guarded)) fun r => return Except.error r
      match ← execList fuel scope final with
      | .done =>
        match result with
        | .ok c => return c
        | .error r => throw r
      | c => return c
    | .global _ | .pass => return .done
    | .leave => return .left
    | .again => return .again

/-- Runs the handler of an exception. -/
def execHandlers : Nat → Option Nat → Raised → List (Option Expr × Option String × List Stmt) →
    Eval Completion
  | 0, _, _, _ => exhausted
  | _, _, r, [] => throw r
  | fuel + 1, scope, r, (kind, name, body) :: rest => do
    let fits ←
      match kind with
      | none => pure true
      | some e => do
        let kinds ← kindsOf (← eval fuel scope e)
        pure (r.kind.line.any kinds.contains)
    if !fits then execHandlers fuel scope r rest
    else
      if let some x := name then
        writeName scope x (.error r.kind r.args)
      modify fun w => { w with handled := r :: w.handled }
      let result ← tryCatch (do return Except.ok (← execList fuel scope body)) fun r =>
        return Except.error r
      modify fun w => { w with handled := w.handled.drop 1 }
      if let some x := name then
        tryCatch (removeName scope x) fun _ => return
      match result with
      | .ok c => return c
      | .error r => throw r

/-- Runs the rounds of a loop with a test. -/
def execWhile : Nat → Option Nat → Expr → List Stmt → List Stmt → Eval Completion
  | 0, _, _, _, _ => exhausted
  | fuel + 1, scope, c, body, last => do
    let v ← eval fuel scope c
    if (← get).truthy v then
      match ← execList fuel scope body with
      | .left => return .done
      | .returned v => return .returned v
      | .done | .again => execWhile fuel scope c body last
    else execList fuel scope last

/-- Runs the rounds of a loop over values. -/
def execFor : Nat → Option Nat → Expr → List Value → List Stmt → List Stmt → Eval Completion
  | 0, _, _, _, _, _ => exhausted
  | fuel + 1, scope, _, [], _, last => execList fuel scope last
  | fuel + 1, scope, target, v :: vs, body, last => do
    assign fuel scope target v
    match ← execList fuel scope body with
    | .left => return .done
    | .returned v => return .returned v
    | .done | .again => execFor fuel scope target vs body last

/-- Runs statements. -/
def execList : Nat → Option Nat → List Stmt → Eval Completion
  | 0, _, _ => exhausted
  | _, _, [] => return .done
  | fuel + 1, scope, s :: rest => do
    match ← exec fuel scope s with
    | .done => execList fuel scope rest
    | c => return c

end

/-- How deep evaluation may nest. -/
def depthBound : Nat := 0x1000000000000

end ScriptStage.Python
