/-!
# Rhai programs

The part of the language that scripts in the stage use: expressions with arrays, maps, templates
and closures; variables; branches, loops and exceptions; functions.

## Main definitions

* `ScriptStage.Rhai.Place`: a place in a text.
* `ScriptStage.Rhai.Expr`, `Stmt`, `Func`, `Program`: expressions, statements, functions and
  programs.
-/

set_option autoImplicit false

namespace ScriptStage.Rhai

/-- A place in a text: the line and the character of the line, both counted from one. Line zero
stands for no place. -/
structure Place where
  /-- The line. -/
  line : Nat
  /-- The character of the line. -/
  column : Nat
  deriving DecidableEq, Repr, Inhabited

/-- The wording of a place. -/
def Place.text (p : Place) : String :=
  if p.line = 0 then ""
  else " (line " ++ toString p.line ++ ", position " ++ toString p.column ++ ")"

/-- Operators before an operand. -/
inductive UnaryOp where
  /-- The negative. -/
  | neg
  /-- The value itself. -/
  | plus
  /-- The negation. -/
  | not
  deriving DecidableEq, Repr

/-- Operators between two values. -/
inductive BinaryOp where
  /-- Sum or concatenation. -/
  | add
  /-- Difference. -/
  | sub
  /-- Product. -/
  | mul
  /-- Quotient. -/
  | div
  /-- Remainder. -/
  | rem
  /-- Power. -/
  | pow
  /-- Equality. -/
  | eq
  /-- Its negation. -/
  | ne
  /-- Less. -/
  | lt
  /-- Greater. -/
  | gt
  /-- Less or equal. -/
  | le
  /-- Greater or equal. -/
  | ge
  /-- Bits of both. -/
  | bitAnd
  /-- Bits of either. -/
  | bitOr
  /-- Bits of one. -/
  | bitXor
  /-- Shift to the left. -/
  | shiftLeft
  /-- Shift to the right. -/
  | shiftRight
  /-- The integers from one to before another. -/
  | range
  /-- The integers from one to another. -/
  | rangeThrough
  /-- Membership. -/
  | isIn
  deriving DecidableEq, Repr

/-- The text of an operator. -/
def BinaryOp.text : BinaryOp → String
  | add => "+"
  | sub => "-"
  | mul => "*"
  | div => "/"
  | rem => "%"
  | pow => "**"
  | eq => "=="
  | ne => "!="
  | lt => "<"
  | gt => ">"
  | le => "<="
  | ge => ">="
  | bitAnd => "&"
  | bitOr => "|"
  | bitXor => "^"
  | shiftLeft => "<<"
  | shiftRight => ">>"
  | range => ".."
  | rangeThrough => "..="
  | isIn => "in"

/-- Operators that may leave out their second operand. -/
inductive LogicOp where
  /-- Conjunction. -/
  | and
  /-- Disjunction. -/
  | or
  /-- The second if the first is the unit. -/
  | coalesce
  deriving DecidableEq, Repr

mutual

/-- Expressions. -/
inductive Expr where
  /-- The unit. -/
  | unit
  /-- A boolean. -/
  | bool (b : Bool)
  /-- An integer. -/
  | int (n : Int)
  /-- A number with a fraction. -/
  | float (x : Float)
  /-- A character. -/
  | char (c : Char)
  /-- A string. -/
  | str (s : String)
  /-- A string with values in it. -/
  | template (parts : List Expr)
  /-- An array. -/
  | array (items : List Expr)
  /-- A map. -/
  | map (fields : List (String × Expr))
  /-- A variable. -/
  | ident (pos : Place) (name : String)
  /-- An operator before its operand. -/
  | unary (pos : Place) (op : UnaryOp) (e : Expr)
  /-- An operator between two values. -/
  | binary (pos : Place) (op : BinaryOp) (a b : Expr)
  /-- An operator that may leave out its second operand. -/
  | logic (pos : Place) (op : LogicOp) (a b : Expr)
  /-- A call of a function; written behind its first argument or in front of it. -/
  | call (pos : Place) (name : String) (behind : Bool) (args : List Expr)
  /-- A property. -/
  | dot (pos : Place) (e : Expr) (name : String)
  /-- An item; the places are those of the bracket and of the key. -/
  | index (pos keyPos : Place) (e key : Expr)
  /-- A function without a name. -/
  | closure (params : List String) (body : Stmt)
  /-- A statement with its value. -/
  | stmt (s : Stmt)

/-- Statements. -/
inductive Stmt where
  /-- An expression. -/
  | expr (e : Expr)
  /-- A variable. -/
  | declare (constant : Bool) (name : String) (value : Option Expr)
  /-- An assignment, perhaps with an operator. -/
  | assign (pos : Place) (op : Option BinaryOp) (target value : Expr)
  /-- A block. -/
  | block (body : List Stmt)
  /-- A branch, with the place of its test. -/
  | branch (pos : Place) (c : Expr) (a : Stmt) (b : Option Stmt)
  /-- A choice among values; the last case may have none. -/
  | choose (e : Expr) (cases : List (List Expr × Option Expr × Stmt))
  /-- A loop with its test in front; without a test it goes on. The places are those of the test and
  of the body. -/
  | loop (pos bodyPos : Place) (c : Option Expr) (body : Stmt)
  /-- A loop with its test behind; it goes on while the test answers so. -/
  | doLoop (pos : Place) (body : Stmt) (goesOn : Bool) (c : Expr)
  /-- A loop over the items of a value. -/
  | forEach (pos : Place) (name : String) (e : Expr) (body : Stmt)
  /-- The end of a loop, perhaps with its value. -/
  | leave (e : Option Expr)
  /-- The end of a round of a loop. -/
  | again
  /-- The end of a function. -/
  | ret (e : Option Expr)
  /-- An exception. -/
  | raise (pos : Place) (e : Option Expr)
  /-- A block with a handler. -/
  | guarded (body : Stmt) (name : Option String) (handler : Stmt)
  /-- Nothing. -/
  | empty

end

instance : Inhabited Expr := ⟨.unit⟩

instance : Inhabited Stmt := ⟨.empty⟩

/-- A function. -/
structure Func where
  /-- Its name. -/
  name : String
  /-- Its parameters. -/
  params : List String
  /-- Its body. -/
  body : Stmt
  deriving Inhabited

/-- A program. -/
structure Program where
  /-- Its functions. -/
  functions : List Func
  /-- Its statements. -/
  body : List Stmt

end ScriptStage.Rhai
