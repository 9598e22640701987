import ScriptStage.Engine.PythonOperator
import ScriptStage.Text.Case
import ScriptStage.Text.Search

/-!
# Built-in functions and methods of Python

## Main definitions

* `ScriptStage.Python.callBuiltin`: a call of a built-in function.
* `ScriptStage.Python.callMethod`: a call of a method.
* `ScriptStage.Python.hasMethod`: the values that have a method.
-/

set_option autoImplicit false

namespace ScriptStage.Python

/-- The integer that a text denotes. -/
def parseInt (s : String) : Eval Value := do
  let t := Text.trim s.toList
  let (negative, ds) :=
    match t with
    | '-' :: ds => (true, ds)
    | '+' :: ds => (false, ds)
    | _ => (false, t)
  if ds.isEmpty || !ds.all Text.isDigit then
    Eval.fail .valueError
      ("invalid literal for int() with base 10: " ++ Value.quoted s)
  else if maxDigits < ds.length then
    Eval.fail .valueError
      (tooManyDigits ++ ": value has " ++ toString ds.length
        ++ " digits; use sys.set_int_max_str_digits() to increase the limit")
  else
    let n : Int := Text.natOf ds
    return .int (if negative then -n else n)

/-- The double that a text denotes. -/
def parseFloat (s : String) : Eval Value := do
  let t := Text.lower (Text.trim s.toList)
  let (negative, ds) :=
    match t with
    | '-' :: ds => (true, ds)
    | '+' :: ds => (false, ds)
    | _ => (false, t)
  let d := Decimal.readDecimal ds
  let magnitude : Option Float :=
    if ["inf", "infinity"].contains (String.ofList ds) then some (1 / 0)
    else if String.ofList ds = "nan" then some (0 / 0)
    else if d.rest.isEmpty && !(d.whole.isEmpty && d.places.isEmpty) then some d.value
    else none
  match magnitude with
  | some x => return .float (if negative then -x else x)
  | none => Eval.fail .valueError ("could not convert string to float: " ++ Value.quoted s)

/-- Puts a value into a sorted list, behind those that do not come after it. -/
def insertSorted (x : Value) : List Value → Eval (List Value)
  | [] => return [x]
  | y :: rest => do
    if (← order "<" x y) == some .lt then return x :: y :: rest
    else return y :: (← insertSorted x rest)

/-- Values in ascending order. -/
def sortValues (items : List Value) : Eval (List Value) :=
  items.foldlM (fun sorted x => insertSorted x sorted) []

/-- The values without those that occurred before. -/
def distinct (items : List Value) : List Value :=
  items.foldl (fun kept x => if kept.any (Value.sameKey x) then kept else kept ++ [x]) []

/-- The least or the greatest of values. -/
def extreme (least : Bool) (items : List Value) : Eval Value := do
  match items with
  | [] => Eval.fail .valueError "iterable argument is empty"
  | x :: rest =>
    rest.foldlM (fun best y => do
      let o ← if least then order "<" y best else order ">" y best
      return if o == some (if least then .lt else .gt) then y else best) x

/-- The entries of pairs. -/
def pairs (items : List Value) : Eval (List (Value × Value)) :=
  items.foldlM (fun entries v => do
    match ← elements v with
    | [k, x] =>
      checkKey k
      return writeEntry k x entries
    | _ => Eval.fail .valueError "dictionary update sequence element has wrong length") []

/-- The entries of a dictionary. -/
def entriesOf (v : Value) : Eval (List (Value × Value)) := do
  match v with
  | .object place =>
    match (← get).objects.getD place default with
    | .dict entries => return entries
    | _ => pairs (← elements v)
  | v => pairs (← elements v)

/-- The bound that an argument gives. -/
def bound (v : Value) : Eval Int := do
  match v.int? with
  | some n => return n
  | none => Eval.fail .typeError "object cannot be interpreted as an integer"

/-- A call of a built-in function, given the dictionary of the program's variables. -/
def callBuiltin (f : Builtin) (args : List Value) : Eval Value := do
  let w ← get
  match f, args with
  | .print, args =>
    args.forM fun v => do let _ ← Eval.told (World.text · v)
    return .none
  | .globals, [] => return .object 0
  | .len, [v] =>
    match elements? w v with
    | some items => return .int items.length
    | none => Eval.fail .typeError ("object of type '" ++ w.typeName v ++ "' has no len()")
  | .repr, [v] => return .str (← Eval.told (World.repr · v))
  | .str, [] => return .str ""
  | .str, [v] => return .str (← Eval.told (World.text · v))
  | .bool, [] => return .bool false
  | .bool, [v] => return .bool (w.truthy v)
  | .int, [] => return .int 0
  | .int, [.str s] => parseInt s
  | .int, [.float x] =>
    if x.isFinite then return .int (Decimal.Dyadic.ofFloat x).truncate
    else if x.isNaN then Eval.fail .valueError "cannot convert float NaN to integer"
    else Eval.fail .overflowError "cannot convert float infinity to integer"
  | .int, [v] => return .int (← bound v)
  | .float, [] => return .float 0
  | .float, [.str s] => parseFloat s
  | .float, [.float x] => return .float x
  | .float, [v] => return .float (← floatOfInt (← bound v))
  | .abs, [.float x] => return .float x.abs
  | .abs, [v] => return .int (← bound v).natAbs
  | .list, [] => Eval.make (.list [])
  | .list, [v] => Eval.make (.list (← elements v))
  | .tuple, [] => return .tuple []
  | .tuple, [v] => return .tuple (← elements v)
  | .set, [] => Eval.make (.set [])
  | .set, [v] =>
    let items ← elements v
    items.forM checkKey
    Eval.make (.set (distinct items))
  | .dict, [] => Eval.make (.dict [])
  | .dict, [v] => Eval.make (.dict (← entriesOf v))
  | .range, [b] => return .range 0 (← bound b) 1
  | .range, [a, b] => return .range (← bound a) (← bound b) 1
  | .range, [a, b, c] =>
    let step ← bound c
    if step = 0 then Eval.fail .valueError "range() arg 3 must not be zero"
    else return .range (← bound a) (← bound b) step
  | .sorted, [v] => Eval.make (.list (← sortValues (← elements v)))
  | .sum, [v] => (← elements v).foldlM (applyBinary .add) (.int 0)
  | .sum, [v, start] => (← elements v).foldlM (applyBinary .add) start
  | .min, [v] => extreme true (← elements v)
  | .max, [v] => extreme false (← elements v)
  | .min, _ :: _ => extreme true args
  | .max, _ :: _ => extreme false args
  | _, _ => Eval.fail .typeError (f.name ++ "() got a wrong number of arguments")

/-- The methods of strings. -/
def stringMethods : List String :=
  ["upper", "lower", "strip", "split", "join", "replace", "startswith", "endswith", "find", "count"]

/-- The methods of lists. -/
def listMethods : List String :=
  [ "append", "extend", "insert", "pop", "remove", "index", "count", "sort", "reverse", "clear",
    "copy" ]

/-- The methods of dictionaries. -/
def dictMethods : List String :=
  ["get", "keys", "values", "items", "pop", "update", "setdefault", "clear", "copy"]

/-- The methods of sets. -/
def setMethods : List String := ["add", "discard", "clear", "copy"]

/-- The value has a method of that name. -/
def hasMethod (w : World) (v : Value) (name : String) : Bool :=
  match v with
  | .str _ => stringMethods.contains name
  | .object place =>
    match w.objects.getD place default with
    | .list _ => listMethods.contains name
    | .dict _ => dictMethods.contains name
    | .set _ => setMethods.contains name
    | .function _ _ _ _ => false
  | _ => false

/-- The call has arguments that the method does not take. -/
def wrongArguments {α : Type} (name : String) : Eval α :=
  Eval.fail .typeError (name ++ "() got wrong arguments")

/-- A call of a method of a string. -/
def callString (s : String) (name : String) (args : List Value) : Eval Value := do
  let t := s.toList
  let answer (t : List Char) : Eval Value := return .str (String.ofList t)
  match name, args with
  | "upper", [] => answer (Text.upper t)
  | "lower", [] => answer (Text.lower t)
  | "strip", [] => answer (Text.trim t)
  | "split", [] | "split", [.none] =>
    Eval.make (.list ((Text.words t).map fun w => .str (String.ofList w)))
  | "split", [.str u] =>
    if u.isEmpty then Eval.fail .valueError "empty separator"
    else Eval.make (.list ((s.splitOn u).map .str))
  | "join", [v] =>
    let parts ← (← elements v).mapM fun x =>
      match x with
      | .str u => (return u : Eval String)
      | _ => Eval.fail .typeError "sequence item: expected str instance"
    return .str (s.intercalate parts)
  | "replace", [.str a, .str b] =>
    if a.isEmpty then
      let c := b.toList
      answer (c ++ t.flatMap fun d => d :: c)
    else return .str (b.intercalate (s.splitOn a))
  | "startswith", [.str u] => return .bool (u.toList.isPrefixOf t)
  | "endswith", [.str u] => return .bool (u.toList.isSuffixOf t)
  | "find", [.str u] => return .int ((Text.find? u.toList t).elim (-1) fun n => (n : Int))
  | "count", [.str u] =>
    return .int (if u.isEmpty then t.length + 1 else (s.splitOn u).length - 1 : Nat)
  | _, _ => wrongArguments name

/-- A call of a method of a list. -/
def callList (place : Nat) (items : List Value) (name : String) (args : List Value) :
    Eval Value := do
  let w ← get
  let become (items : List Value) : Eval Value := do
    Eval.put place (.list items)
    return .none
  match name, args with
  | "append", [v] => become (items ++ [v])
  | "extend", [v] => become (items ++ (← elements v))
  | "insert", [n, v] =>
    let n ← bound n
    become (part items none (some n) ++ v :: part items (some n) none)
  | "pop", [] | "pop", [_] =>
    let n ← match args with
      | [v] => bound v
      | _ => pure (-1)
    match Engine.placeIn? items.length n with
    | some k =>
      Eval.put place (.list (items.eraseIdx k))
      return items.getD k .none
    | none =>
      Eval.fail .indexError
        (if items.isEmpty then "pop from empty list" else "pop index out of range")
  | "remove", [v] =>
    match items.findIdx? (w.same v) with
    | some k => become (items.eraseIdx k)
    | none => Eval.fail .valueError "list.remove(x): x not in list"
  | "index", [v] =>
    match items.findIdx? (w.same v) with
    | some k => return .int k
    | none => Eval.fail .valueError ((← Eval.told (World.repr · v)) ++ " is not in list")
  | "count", [v] => return .int (items.filter (w.same v)).length
  | "sort", [] => become (← sortValues items)
  | "reverse", [] => become items.reverse
  | "clear", [] => become []
  | "copy", [] => Eval.make (.list items)
  | _, _ => wrongArguments name

/-- A call of a method of a dictionary. -/
def callDict (place : Nat) (entries : List (Value × Value)) (name : String) (args : List Value) :
    Eval Value := do
  let find (k : Value) : Option Value := (entries.find? fun e => e.1.sameKey k).map (·.2)
  match name, args with
  | "get", [k] =>
    checkKey k
    return (find k).getD .none
  | "get", [k, v] =>
    checkKey k
    return (find k).getD v
  | "keys", [] => return .view "dict_keys" (entries.map (·.1))
  | "values", [] => return .view "dict_values" (entries.map (·.2))
  | "items", [] => return .view "dict_items" (entries.map fun e => .tuple [e.1, e.2])
  | "pop", k :: rest =>
    checkKey k
    match find k, rest with
    | some v, _ =>
      Eval.put place (.dict (entries.filter fun e => !e.1.sameKey k))
      return v
    | none, [v] => return v
    | none, _ => throw ⟨.keyError, [k]⟩
  | "update", [v] =>
    let more ← entriesOf v
    Eval.put place (.dict (more.foldl (fun es e => writeEntry e.1 e.2 es) entries))
    return .none
  | "setdefault", k :: rest =>
    checkKey k
    match find k with
    | some v => return v
    | none =>
      let v := rest.headD .none
      Eval.put place (.dict (writeEntry k v entries))
      return v
  | "clear", [] =>
    Eval.put place (.dict [])
    return .none
  | "copy", [] => Eval.make (.dict entries)
  | _, _ => wrongArguments name

/-- A call of a method of a set. -/
def callSet (place : Nat) (items : List Value) (name : String) (args : List Value) :
    Eval Value := do
  match name, args with
  | "add", [v] =>
    checkKey v
    Eval.put place (.set (distinct (items ++ [v])))
    return .none
  | "discard", [v] =>
    Eval.put place (.set (items.filter fun x => !x.sameKey v))
    return .none
  | "clear", [] =>
    Eval.put place (.set [])
    return .none
  | "copy", [] => Eval.make (.set items)
  | _, _ => wrongArguments name

/-- A call of a method. -/
def callMethod (self : Value) (name : String) (args : List Value) : Eval Value := do
  match self with
  | .str s => callString s name args
  | .object place =>
    match (← get).objects.getD place default with
    | .list items => callList place items name args
    | .dict entries => callDict place entries name args
    | .set items => callSet place items name args
    | .function _ _ _ _ => wrongArguments name
  | _ => wrongArguments name

end ScriptStage.Python
