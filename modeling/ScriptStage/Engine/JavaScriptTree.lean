import ScriptStage.Engine.JavaScriptText

/-!
# JavaScript programs

The part of the language that scripts in the stage use: expressions with functions, arrays,
objects and templates; variables; branches, loops and exceptions.

## Main definitions

* `ScriptStage.JavaScript.Expr`, `Stmt`, `Func`: expressions, statements, functions.
* `ScriptStage.JavaScript.declared`: the variables that statements declare for their function.
-/

set_option autoImplicit false

namespace ScriptStage.JavaScript

/-- Operators before an operand. -/
inductive UnaryOp where
  /-- The negative. -/
  | neg
  /-- The number. -/
  | plus
  /-- The negation. -/
  | not
  /-- The complement of the bits. -/
  | complement
  /-- The name of the type. -/
  | typeOf
  /-- Nothing. -/
  | void
  deriving DecidableEq, Repr

/-- Operators between two values. -/
inductive BinaryOp where
  /-- Sum or concatenation. -/
  | add
  /-- Difference. -/
  | sub
  /-- Product. -/
  | mul
  /-- Quotient. -/
  | div
  /-- Remainder. -/
  | rem
  /-- Power. -/
  | pow
  /-- Equality with conversion. -/
  | looseEq
  /-- Its negation. -/
  | looseNe
  /-- Equality. -/
  | eq
  /-- Its negation. -/
  | ne
  /-- Less. -/
  | lt
  /-- Greater. -/
  | gt
  /-- Less or equal. -/
  | le
  /-- Greater or equal. -/
  | ge
  /-- Bits of both. -/
  | bitAnd
  /-- Bits of either. -/
  | bitOr
  /-- Bits of one. -/
  | bitXor
  /-- Shift to the left. -/
  | shiftLeft
  /-- Shift to the right that keeps the sign. -/
  | shiftRight
  /-- Shift to the right that drops the sign. -/
  | shiftRightZero
  /-- Whether an object has a property. -/
  | isIn
  deriving DecidableEq, Repr

/-- Operators that may leave out their second operand. -/
inductive LogicOp where
  /-- Conjunction. -/
  | and
  /-- Disjunction. -/
  | or
  /-- The second if the first is missing. -/
  | coalesce
  deriving DecidableEq, Repr

/-- How a variable is declared. -/
inductive DeclKind where
  /-- For its function. -/
  | var
  /-- For its block. -/
  | block
  /-- For its block and once. -/
  | const
  deriving DecidableEq, Repr

/-- The part of a property that a literal gives. -/
inductive PropKind where
  /-- The value. -/
  | value
  /-- The function that reads it. -/
  | getter
  /-- The function that writes it. -/
  | setter
  deriving DecidableEq, Repr

mutual

/-- Expressions. -/
inductive Expr where
  /-- A number. -/
  | num (x : Float)
  /-- An integer of any size. -/
  | bigint (n : Int)
  /-- A string. -/
  | str (u : Units)
  /-- A string with expressions in it. -/
  | template (head : Units) (parts : List (Expr × Units))
  /-- A variable. -/
  | ident (name : String)
  /-- The value `null`. -/
  | null
  /-- A boolean. -/
  | bool (b : Bool)
  /-- The object of a method. -/
  | this
  /-- An array; items may be missing. -/
  | array (items : List (Option Expr))
  /-- An object. -/
  | object (props : List (PropKind × Expr × Expr))
  /-- A function. -/
  | function (f : Func)
  /-- An operator before its operand. -/
  | unary (op : UnaryOp) (e : Expr)
  /-- The removal of a property. -/
  | delete (e : Expr)
  /-- A step up or down, before or behind its operand. -/
  | update (before : Bool) (down : Bool) (target : Expr)
  /-- An operator between two values. -/
  | binary (op : BinaryOp) (a b : Expr)
  /-- An operator that may leave out its second operand. -/
  | logic (op : LogicOp) (a b : Expr)
  /-- A choice. -/
  | cond (c a b : Expr)
  /-- An assignment, perhaps with an operator. -/
  | assign (op : Option BinaryOp) (target value : Expr)
  /-- A call. -/
  | call (f : Expr) (args : List Expr)
  /-- A construction. -/
  | new (f : Expr) (args : List Expr)
  /-- A property; the key is an expression. -/
  | member (e key : Expr)
  /-- Two expressions one after another. -/
  | seq (a b : Expr)

/-- Functions. -/
inductive Func where
  /-- A function with its name, parameters and body. An arrow function has no object of its
  own. -/
  | mk (name : String) (params : List String) (body : List Stmt) (arrow : Bool)

/-- Statements. -/
inductive Stmt where
  /-- An expression. -/
  | expr (e : Expr)
  /-- Variables. -/
  | declare (kind : DeclKind) (vars : List (String × Option Expr))
  /-- A function. -/
  | func (name : String) (f : Func)
  /-- The end of a function. -/
  | ret (e : Option Expr)
  /-- A branch. -/
  | branch (c : Expr) (a : Stmt) (b : Option Stmt)
  /-- A loop with its test in front. -/
  | whileLoop (c : Expr) (body : Stmt)
  /-- A loop with its test behind. -/
  | doLoop (body : Stmt) (c : Expr)
  /-- A loop with a start, a test and a step. -/
  | forLoop (start : Option Stmt) (c : Option Expr) (step : Option Expr) (body : Stmt)
  /-- A loop over the keys or the items of a value. -/
  | forEach (kind : DeclKind) (name : String) (keys : Bool) (e : Expr) (body : Stmt)
  /-- A block. -/
  | block (body : List Stmt)
  /-- An exception. -/
  | raise (e : Expr)
  /-- A block with a handler and a final block. -/
  | guarded (body : List Stmt) (handler : Option (Option String × List Stmt))
      (final : Option (List Stmt))
  /-- The end of a loop. -/
  | leave
  /-- The end of a round of a loop. -/
  | again
  /-- Nothing. -/
  | empty

end

instance : Inhabited Expr := ⟨.null⟩

instance : Inhabited Func := ⟨.mk "" [] [] false⟩

instance : Inhabited Stmt := ⟨.empty⟩

mutual

/-- The variables that a statement declares for its function. -/
def Stmt.declared : Stmt → List String
  | .declare .var vars => vars.map (·.1)
  | .branch _ a b =>
    a.declared
      ++ (match b with
          | some s => s.declared
          | none => [])
  | .whileLoop _ body => body.declared
  | .doLoop body _ => body.declared
  | .forLoop start _ _ body =>
    (match start with
      | some s => s.declared
      | none => [])
    ++ body.declared
  | .forEach kind name _ _ body => (if kind = .var then [name] else []) ++ body.declared
  | .block body => declared body
  | .guarded body handler final =>
    declared body
      ++ (match handler with
          | some (_, b) => declared b
          | none => [])
      ++ (match final with
          | some b => declared b
          | none => [])
  | _ => []

/-- The variables that statements declare for their function. -/
def declared : List Stmt → List String
  | [] => []
  | s :: rest => s.declared ++ declared rest

end

/-- The functions that statements declare. -/
def functions (body : List Stmt) : List (String × Func) :=
  body.filterMap fun s =>
    match s with
    | .func name f => some (name, f)
    | _ => none

/-- The variables that statements declare for their block, and whether they are constant. -/
def lexical (body : List Stmt) : List (String × Bool) :=
  body.flatMap fun s =>
    match s with
    | .declare .block vars => vars.map fun v => (v.1, false)
    | .declare .const vars => vars.map fun v => (v.1, true)
    | _ => []

end ScriptStage.JavaScript
