import ScriptStage.Engine.PythonParser
import ScriptStage.Engine.PythonRun
import ScriptStage.Worker.Loop

/-!
# Scripts in Python

The interpreter that runs Python scripts. The result of a script is the value of the expression
that is its last statement; or the value of the variable if its last statement assigns to one
variable; otherwise there is none.

## Main definitions

* `ScriptStage.Python.Prepared`: a script that can be run.
* `ScriptStage.Python.evaluate`: a run of it.
* `ScriptStage.Python.toDocument`: the document of a value.
* `ScriptStage.Python.engine`: the interpreter.
-/

set_option autoImplicit false

namespace ScriptStage.Python

open Worker (Document)

/-- Where the result of a script comes from. -/
inductive Tail where
  /-- From an expression. -/
  | expression (e : Expr)
  /-- From a variable. -/
  | named (name : String)
  /-- There is none. -/
  | nothing

/-- A script that can be run. -/
structure Prepared where
  /-- What runs first. -/
  body : List Stmt
  /-- Where the result comes from. -/
  tail : Tail

/-- The script of the statements of a program. -/
def Prepared.ofProgram (body : List Stmt) : Prepared :=
  match body.getLast? with
  | some (.expr e) => ⟨body.dropLast, .expression e⟩
  | some (.assign [.name x] _) => ⟨body, .named x⟩
  | _ => ⟨body, .nothing⟩

/-- An exception with a text. -/
def raised (kind : ErrorKind) (text : String) : Worker.Raised :=
  .ofStrings kind.name text

/-- The exception for a line that is no JSON. -/
def malformedLine : Worker.Raised :=
  .ofStrings "JSONDecodeError" "Expecting value"

/-- The script of a text. -/
def prepareText (text : String) : Except Worker.Raised Prepared :=
  match program text with
  | .ok body => .ok (.ofProgram body)
  | .error fault => .error (.ofStrings fault.cause.kind fault.text)

/-- Prepares the script of a request. -/
def prepare (line : List Char) : Except Worker.Raised Prepared :=
  match Document.parse line with
  | none => .error malformedLine
  | some (.obj fields) =>
    match Document.field? "script" fields with
    | some (.str text) => prepareText text
    | some _ => .error (raised .typeError "compile() arg 1 must be a string, bytes or AST object")
    | none => .error (raised .keyError "'script'")
  | some _ => .error (raised .typeError "indices must be integers or slices")

mutual

/-- The value of a document. -/
def ofDocument : Document → Eval Value
  | .null => return .none
  | .bool b => return .bool b
  | .int n => return .int n
  | .float x _ => return .float x
  | .str s => return .str s
  | .arr items => do Eval.make (.list (← ofItems items))
  | .obj fields => do Eval.make (.dict (← ofFields fields []))

/-- The values of documents. -/
def ofItems : List Document → Eval (List Value)
  | [] => return []
  | d :: ds => do
    let v ← ofDocument d
    return v :: (← ofItems ds)

/-- The entries of fields added to others. -/
def ofFields : List (String × Document) → List (Value × Value) → Eval (List (Value × Value))
  | [], entries => return entries
  | (k, d) :: fs, entries => do
    let v ← ofDocument d
    ofFields fs (writeEntry (.str k) v entries)

end

/-- The exception for a double that JSON does not have. -/
def notFinite : Worker.Raised :=
  raised .valueError "Out of range float values are not JSON compliant"

/-- A text, or the exception that there is none. -/
def told (text : Except Untold String) : Except Worker.Raised String :=
  text.mapError fun u => raised u.kind u.text

/-- The key of a field. -/
def keyOf (w : World) (v : Value) : Except Worker.Raised String :=
  match v with
  | .str s => .ok s
  | .none => .ok "null"
  | .bool b => .ok (if b then "true" else "false")
  | .int n => told (Value.decimal n)
  | .float x =>
    if x.isFinite then told (w.repr v)
    else .error notFinite
  | v =>
    .error (raised .typeError ("keys must be str, int, float, bool or None, not " ++ w.typeName v))

/-- The document of a value. What JSON does not have is written as its text. The fuel bounds how
deep the value nests. -/
def documentAt (w : World) : Nat → Value → Except Worker.Raised Document
  | 0, _ => .error (raised .valueError "Circular reference detected")
  | fuel + 1, v =>
    let items (vs : List Value) : Except Worker.Raised Document :=
      (vs.mapM (documentAt w fuel)).map .arr
    match v with
    | .none => .ok .null
    | .bool b => .ok (.bool b)
    | .int n => do
      let _ ← told (Value.decimal n)
      return .int n
    | .float x =>
      match Document.ofFloat? x with
      | some d => .ok d
      | none => .error notFinite
    | .str s => .ok (.str s)
    | .tuple vs => items vs
    | .object place =>
      match w.objects.getD place default with
      | .list vs => items vs
      | .dict entries =>
        let field (e : Value × Value) : Except Worker.Raised (String × Document) := do
          let k ← keyOf w e.1
          return (k, ← documentAt w fuel e.2)
        (entries.mapM field).map .obj
      | _ => (told (w.text v)).map .str
    | v => (told (w.text v)).map .str

/-- The document of a value. -/
def toDocument (w : World) (v : Value) : Except Worker.Raised Document :=
  documentAt w World.nesting v

/-- The variables that a script starts with: the bindings, and the name of the program. -/
def startVariables (fields : List (String × Document)) : Eval Unit := do
  let entries ← ofFields fields []
  Eval.put 0 (.dict (writeEntry (.str "__name__") (.str "__script__") entries))

/-- A run of a script. -/
def runPrepared (p : Prepared) (fields : List (String × Document)) : Eval Value := do
  startVariables fields
  let _ ← execList depthBound none p.body
  match p.tail with
  | .expression e => eval depthBound none e
  | .named x =>
    return (((← programEntries).find? fun e => e.1.sameKey (.str x)).map (·.2)).getD .none
  | .nothing => return .none

/-- The world before a run. -/
def World.initial : World where
  objects := #[.dict []]
  scopes := #[]
  calls := maxCalls
  handled := []

/-- What is raised, with its text if it has one. -/
def Raised.telling (r : Raised) (w : World) : Worker.Raised :=
  match r.text w with
  | .ok text => raised r.kind text
  | .error u => .silent (raised u.kind u.text)

/-- A run of a script: its result with the world in which it stands. -/
def evaluate (p : Prepared) (fields : List (String × Document)) :
    Except Worker.Raised (World × Value) :=
  match (runPrepared p fields).run .initial with
  | .ok v w => .ok (w, v)
  | .error r w => .error (r.telling w)

/-- Runs a script on the bindings of a request. Bindings that are missing or null are none. -/
def answer (p : Prepared) (line : List Char) : Except Worker.Raised (World × Value) :=
  match Document.parse line with
  | none => .error malformedLine
  | some (.obj fields) =>
    match Document.field? "bindings" fields with
    | none | some .null => evaluate p []
    | some (.obj bindings) => evaluate p bindings
    | some _ => .error (raised .typeError "cannot convert bindings to a dictionary")
  | some _ => .error (raised .attributeError "object has no attribute 'get'")

/-- The interpreter. Each run has a world of its own, so that it keeps no state. What it leaves
unhandled are errors of values and of recursion, and these all end it alike. -/
def engine : Worker.Engine Unit Prepared (World × Value) where
  start := ()
  prepare := fun line => MonadExcept.ofExcept (prepare line)
  run := fun p line => MonadExcept.ofExcept (answer p line)
  serialize := fun r => MonadExcept.ofExcept ((toDocument r.1 r.2).map Document.write)
  leave := fun _ => .exited 1

end ScriptStage.Python
