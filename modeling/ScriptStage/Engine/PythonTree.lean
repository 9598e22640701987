/-!
# Python programs

The part of the language that scripts in the stage use: expressions with lists, tuples,
dictionaries and functions; variables; branches, loops and exceptions.

## Main definitions

* `ScriptStage.Python.Expr`, `Stmt`: expressions and statements.
* `ScriptStage.Python.assigned`: the variables that statements assign to.
-/

set_option autoImplicit false

namespace ScriptStage.Python

/-- Operators before an operand. -/
inductive UnaryOp where
  /-- The negative. -/
  | neg
  /-- The number itself. -/
  | plus
  /-- The complement of the bits. -/
  | invert
  /-- The negation. -/
  | not
  deriving DecidableEq, Repr

/-- The text of an operator. -/
def UnaryOp.text : UnaryOp → String
  | neg => "-"
  | plus => "+"
  | invert => "~"
  | not => "not"

/-- Operators between two values. -/
inductive BinaryOp where
  /-- Sum or concatenation. -/
  | add
  /-- Difference. -/
  | sub
  /-- Product or repetition. -/
  | mul
  /-- Quotient with a fraction. -/
  | div
  /-- Quotient rounded down. -/
  | floorDiv
  /-- Remainder with the sign of the divisor. -/
  | mod
  /-- Power. -/
  | pow
  /-- Bits of both. -/
  | bitAnd
  /-- Bits of either. -/
  | bitOr
  /-- Bits of one. -/
  | bitXor
  /-- Shift to the left. -/
  | shiftLeft
  /-- Shift to the right. -/
  | shiftRight
  deriving DecidableEq, Repr

/-- The text of an operator. -/
def BinaryOp.text : BinaryOp → String
  | add => "+"
  | sub => "-"
  | mul => "*"
  | div => "/"
  | floorDiv => "//"
  | mod => "%"
  | pow => "** or pow()"
  | bitAnd => "&"
  | bitOr => "|"
  | bitXor => "^"
  | shiftLeft => "<<"
  | shiftRight => ">>"

/-- The text of an operator that updates its first operand. -/
def BinaryOp.updateText : BinaryOp → String
  | pow => "**="
  | op => op.text ++ "="

/-- Comparisons. -/
inductive Comparison where
  /-- Equal. -/
  | eq
  /-- Not equal. -/
  | ne
  /-- Less. -/
  | lt
  /-- Less or equal. -/
  | le
  /-- Greater. -/
  | gt
  /-- Greater or equal. -/
  | ge
  /-- Member. -/
  | isIn
  /-- No member. -/
  | notIn
  /-- The same object. -/
  | same
  /-- Not the same object. -/
  | notSame
  deriving DecidableEq, Repr

/-- Expressions. -/
inductive Expr where
  /-- The value `None`. -/
  | none
  /-- A boolean. -/
  | bool (b : Bool)
  /-- An integer. -/
  | int (n : Int)
  /-- A number with a fraction. -/
  | float (x : Float)
  /-- A string. -/
  | str (s : String)
  /-- A variable. -/
  | name (s : String)
  /-- A list. -/
  | list (items : List Expr)
  /-- A tuple. -/
  | tuple (items : List Expr)
  /-- A set. -/
  | set (items : List Expr)
  /-- A dictionary. -/
  | dict (entries : List (Expr × Expr))
  /-- An operator before its operand. -/
  | unary (op : UnaryOp) (e : Expr)
  /-- An operator between two values. -/
  | binary (op : BinaryOp) (a b : Expr)
  /-- Conjunction. -/
  | and (a b : Expr)
  /-- Disjunction. -/
  | or (a b : Expr)
  /-- A chain of comparisons. -/
  | compare (a : Expr) (rest : List (Comparison × Expr))
  /-- A choice. -/
  | choose (c a b : Expr)
  /-- A function without a name. -/
  | lambda (params : List String) (body : Expr)
  /-- A call. -/
  | call (f : Expr) (args : List Expr)
  /-- An attribute. -/
  | attribute (e : Expr) (name : String)
  /-- An item. -/
  | item (e key : Expr)
  /-- The bounds of a part of a sequence. -/
  | slice (start stop : Option Expr)
  deriving Inhabited

/-- Statements. -/
inductive Stmt where
  /-- An expression. -/
  | expr (e : Expr)
  /-- A value assigned to targets. -/
  | assign (targets : List Expr) (value : Expr)
  /-- A value assigned to a target with an operator. -/
  | update (op : BinaryOp) (target value : Expr)
  /-- A target with an annotation and perhaps a value. -/
  | annotate (target annotation : Expr) (value : Option Expr)
  /-- The removal of targets. -/
  | delete (targets : List Expr)
  /-- A function. -/
  | define (name : String) (params : List String) (body : List Stmt)
  /-- The end of a function. -/
  | ret (e : Option Expr)
  /-- A branch. -/
  | branch (c : Expr) (a b : List Stmt)
  /-- A loop with a test. -/
  | whileLoop (c : Expr) (body last : List Stmt)
  /-- A loop over the items of a value. -/
  | forLoop (target e : Expr) (body last : List Stmt)
  /-- An exception, or the one that is handled. -/
  | raise (e : Option Expr)
  /-- Statements with handlers: each with the exceptions that it handles and a name. -/
  | guarded (body : List Stmt) (handlers : List (Option Expr × Option String × List Stmt))
      (last final : List Stmt)
  /-- Names that stand for variables of the program. -/
  | global (names : List String)
  /-- The end of a loop. -/
  | leave
  /-- The end of a round of a loop. -/
  | again
  /-- Nothing. -/
  | pass
  deriving Inhabited

/-- The variables that a target assigns to. -/
def Expr.targetNames : Expr → List String
  | .name s => [s]
  | .list items | .tuple items => namesOf items
  | _ => []
where
  /-- The variables that targets assign to. -/
  namesOf : List Expr → List String
    | [] => []
    | e :: rest => e.targetNames ++ namesOf rest

mutual

/-- The variables that a statement assigns to. -/
def Stmt.assigned : Stmt → List String
  | .assign targets _ => targets.flatMap Expr.targetNames
  | .update _ target _ => target.targetNames
  | .annotate target _ _ => target.targetNames
  | .delete targets => targets.flatMap Expr.targetNames
  | .define name _ _ => [name]
  | .branch _ a b => assigned a ++ assigned b
  | .whileLoop _ body last => assigned body ++ assigned last
  | .forLoop target _ body last => target.targetNames ++ assigned body ++ assigned last
  | .guarded body handlers last final =>
    assigned body ++ assignedHandlers handlers ++ assigned last ++ assigned final
  | _ => []

/-- The variables that statements assign to. -/
def assigned : List Stmt → List String
  | [] => []
  | s :: rest => s.assigned ++ assigned rest

/-- The variables that handlers assign to. -/
def assignedHandlers : List (Option Expr × Option String × List Stmt) → List String
  | [] => []
  | (_, name, body) :: rest => name.toList ++ assigned body ++ assignedHandlers rest

end

mutual

/-- The names that a statement declares to stand for variables of the program. -/
def Stmt.globals : Stmt → List String
  | .global names => names
  | .branch _ a b => globals a ++ globals b
  | .whileLoop _ body last => globals body ++ globals last
  | .forLoop _ _ body last => globals body ++ globals last
  | .guarded body _ last final => globals body ++ globals last ++ globals final
  | _ => []

/-- The names that statements declare to stand for variables of the program. -/
def globals : List Stmt → List String
  | [] => []
  | s :: rest => s.globals ++ globals rest

end

end ScriptStage.Python
