import ScriptStage.Engine.RhaiValue
import ScriptStage.Text.Case
import ScriptStage.Text.Search

/-!
# Built-in functions of Rhai

A function may change its first argument. Functions that call others are not among these.

## Main definitions

* `ScriptStage.Rhai.Answer`: what a built-in function answers.
* `ScriptStage.Rhai.builtin`: a call of a built-in function.
-/

set_option autoImplicit false

namespace ScriptStage.Rhai

/-- What a built-in function answers. -/
structure Answer where
  /-- Its result. -/
  value : Value
  /-- What it makes of its first argument, if it changes it. -/
  changed : Option Value := none

/-- The answer of a function that changes nothing. -/
def plainly (v : Value) : Except Cause Answer :=
  .ok { value := v }

/-- The answer of a function that changes its first argument and has no result. -/
def changing (v : Value) : Except Cause Answer := do
  return { value := .unit, changed := some (← sized v) }

/-- A start and a length within a list: counted from the end if the start is negative. -/
def spanIn (length : Nat) (start count : Int) : Nat × Nat :=
  let first := if start < 0 then (length + start).toNat else min start.toNat length
  (first, min count.toNat (length - first))

/-- The part of a list. -/
def span {α : Type} (items : List α) (start count : Int) : List α :=
  let (first, n) := spanIn items.length start count
  (items.drop first).take n

/-- The characters of a text that a string or a character is. -/
def charsOf? : Value → Option (List Char)
  | .str s => some s.toList
  | .char c => some [c]
  | _ => none

/-- The double without its fraction. -/
def truncated (x : Float) : Float :=
  if x < 0 then x.ceil else x.floor

/-- The half of a number away from zero. -/
def rounded (x : Float) : Float :=
  let down := x.abs.floor
  let up := if 0.5 ≤ x.abs - down then down + 1 else down
  if x < 0 then -up else up

/-- The integer that a text denotes. -/
def parseInt (base : Nat) (s : String) : Except Cause Value :=
  let t := Text.trim s.toList
  let (negative, ds) :=
    match t with
    | '-' :: ds => (true, ds)
    | '+' :: ds => (false, ds)
    | _ => (false, t)
  match Text.natIn? base ds with
  | some n =>
    let k : Int := if negative then -(n : Int) else n
    if intMin ≤ k ∧ k ≤ intMax then .ok (.int k) else .error (.noNumber s)
  | none => .error (.noNumber s)

/-- The number that a text denotes. -/
def parseFloat (s : String) : Except Cause Value :=
  let t := Text.trim s.toList
  let (negative, ds) :=
    match t with
    | '-' :: ds => (true, ds)
    | '+' :: ds => (false, ds)
    | _ => (false, t)
  let d := Decimal.readDecimal ds
  if d.rest.isEmpty && !(d.whole.isEmpty && d.places.isEmpty) then
    .ok (.float (if negative then -d.value else d.value))
  else .error (.noNumber s)

/-- The items of an array in ascending order. -/
def sortItems (items : List Value) : List Value :=
  items.mergeSort fun a b => (order? a b).all (· != .gt)

/-- A call of a built-in function of an array. -/
def onArray (name : String) (items : List Value) (args : List Value) :
    Option (Except Cause Answer) :=
  match name, args with
  | "len", [] => some (plainly (.int items.length))
  | "is_empty", [] => some (plainly (.bool items.isEmpty))
  | "push", [v] => some (changing (.array (items ++ [v])))
  | "append", [.array more] => some (changing (.array (items ++ more)))
  | "insert", [.int n, v] =>
    let (first, _) := spanIn items.length n 0
    some (changing (.array (items.take first ++ v :: items.drop first)))
  | "pad", [.int n, v] =>
    some
      (if (maxItems : Int) < n then .error (.tooLarge "Size of array/BLOB")
      else changing (.array (items ++ List.replicate (n.toNat - items.length) v)))
  | "pop", [] =>
    some (.ok { value := items.getLastD .unit, changed := some (.array items.dropLast) })
  | "shift", [] =>
    some (.ok { value := items.headD .unit, changed := some (.array (items.drop 1)) })
  | "remove", [.int n] =>
    some
      (match Engine.placeIn? items.length n with
      | some k =>
        .ok { value := items.getD k .unit, changed := some (.array (items.eraseIdx k)) }
      | none => plainly .unit)
  | "clear", [] => some (changing (.array []))
  | "truncate", [.int n] => some (changing (.array (items.take n.toNat)))
  | "reverse", [] => some (changing (.array items.reverse))
  | "sort", [] => some (changing (.array (sortItems items)))
  | "extract", [.int n] => some (plainly (.array (span items n items.length)))
  | "extract", [.int n, .int k] => some (plainly (.array (span items n k)))
  | "index_of", [v] =>
    some (plainly (.int ((items.findIdx? (Value.same v)).elim (-1) fun k => (k : Int))))
  | _, _ => none

/-- A call of a built-in function of a string. -/
def onText (name : String) (s : String) (args : List Value) : Option (Except Cause Answer) :=
  let t := s.toList
  let answer (t : List Char) : Option (Except Cause Answer) :=
    some (plainly (.str (String.ofList t)))
  match name, args with
  | "len", [] => some (plainly (.int t.length))
  | "bytes", [] => some (plainly (.int s.utf8ByteSize))
  | "is_empty", [] => some (plainly (.bool t.isEmpty))
  | "to_upper", [] => answer (Text.upper t)
  | "to_lower", [] => answer (Text.lower t)
  | "make_upper", [] => some (changing (.str (String.ofList (Text.upper t))))
  | "make_lower", [] => some (changing (.str (String.ofList (Text.lower t))))
  | "trim", [] => some (changing (.str (String.ofList (Text.trim t))))
  | "clear", [] => some (changing (.str ""))
  | "truncate", [.int n] => some (changing (.str (String.ofList (t.take n.toNat))))
  | "sub_string", [.int n] => answer (span t n t.length)
  | "sub_string", [.int n, .int k] => answer (span t n k)
  | "starts_with", [.str u] => some (plainly (.bool (u.toList.isPrefixOf t)))
  | "ends_with", [.str u] => some (plainly (.bool (u.toList.isSuffixOf t)))
  | "chars", [] => some (plainly (.array (t.map .char)))
  | "split", [] =>
    some (plainly (.array ((Text.words t).map fun w => .str (String.ofList w))))
  | "split", [.str u] => some ((sized (.array ((s.splitOn u).map .str))).bind plainly)
  | "split", [.char c] =>
    some ((sized (.array ((s.splitOn (String.singleton c)).map .str))).bind plainly)
  | "append", [v] => some (changing (.str (s ++ v.text)))
  | "index_of", [v] =>
    (charsOf? v).map fun u => plainly (.int ((Text.find? u t).elim (-1) fun k => (k : Int)))
  | "replace", [v, w] =>
    match charsOf? v, charsOf? w with
    | some u, some r =>
      some (changing (.str ((String.ofList r).intercalate (s.splitOn (String.ofList u)))))
    | _, _ => none
  | "parse_int", [] => some ((parseInt 10 s).bind plainly)
  | "parse_int", [.int b] =>
    if 2 ≤ b ∧ b ≤ 16 then some ((parseInt b.toNat s).bind plainly) else none
  | "parse_float", [] => some ((parseFloat s).bind plainly)
  | _, _ => none

/-- A call of a built-in function of a number. -/
def onNumber (name : String) (v : Value) (args : List Value) : Option (Except Cause Answer) :=
  match name, v, args with
  | "abs", .int n, [] =>
    some (if n = intMin then .error (.negativeOverflow n) else plainly (.int n.natAbs))
  | "abs", .float x, [] => some (plainly (.float x.abs))
  | "sign", .int n, [] => some (plainly (.int n.sign))
  | "to_float", .int n, [] => some (plainly (.float (Float.ofInt n)))
  | "to_float", .float x, [] => some (plainly (.float x))
  | "to_int", .int n, [] => some (plainly (.int n))
  | "to_int", .float x, [] =>
    let n := (Decimal.Dyadic.ofFloat x).truncate
    some
      (if x.isFinite && intMin ≤ n && n ≤ intMax then plainly (.int n)
      else .error (.noNumber v.text))
  | "is_zero", .int n, [] => some (plainly (.bool (n = 0)))
  | "is_odd", .int n, [] => some (plainly (.bool (n % 2 = 1)))
  | "is_even", .int n, [] => some (plainly (.bool (n % 2 = 0)))
  | "is_nan", .float x, [] => some (plainly (.bool x.isNaN))
  | "floor", .float x, [] => some (plainly (.float x.floor))
  | "ceiling", .float x, [] => some (plainly (.float x.ceil))
  | "round", .float x, [] => some (plainly (.float (rounded x)))
  | "int", .float x, [] => some (plainly (.float (truncated x)))
  | "sqrt", .float x, [] => some (plainly (.float x.sqrt))
  | "min", _, [w] =>
    (order? v w).map fun o => plainly (if o = .gt then w else v)
  | "max", _, [w] =>
    (order? v w).map fun o => plainly (if o = .lt then w else v)
  | _, _, _ => none

/-- A call of a built-in function of a map. -/
def onMap (name : String) (fields : List (String × Value)) (args : List Value) :
    Option (Except Cause Answer) :=
  match name, args with
  | "len", [] => some (plainly (.int fields.length))
  | "is_empty", [] => some (plainly (.bool fields.isEmpty))
  | "keys", [] => some (plainly (.array (fields.map fun f => .str f.1)))
  | "values", [] => some (plainly (.array (fields.map (·.2))))
  | "get", [.str k] => some (plainly ((Dict.find? k fields).getD .unit))
  | "set", [.str k, v] => some (changing (.map (Dict.put k v fields)))
  | "clear", [] => some (changing (.map []))
  | "remove", [.str k] =>
    some
      (.ok
        { value := (Dict.find? k fields).getD .unit
          changed := some (.map (fields.filter fun f => f.1 ≠ k)) })
  | "mixin", [.map more] =>
    some (changing (.map (more.foldl (fun fs f => Dict.put f.1 f.2 fs) fields)))
  | _, _ => none

/-- A call of a built-in function. -/
def builtin (name : String) (args : List Value) : Except Cause Answer :=
  let missing : Except Cause Answer := .error (.noFunction name (args.map Value.argumentName))
  match name, args with
  | "type_of", [v] => plainly (.str v.typeName)
  | "to_string", [v] => plainly (.str v.text)
  | "to_debug", [v] => plainly (.str v.textInside)
  | "print", _ | "debug", _ => plainly .unit
  | "contains", [v, w] => (contains v w).bind plainly
  | "blob", [] => plainly (.blob [])
  | "blob", [.int n] =>
    if (maxItems : Int) < n then .error (.tooLarge "Size of array/BLOB")
    else plainly (.blob (List.replicate n.toNat 0))
  | "parse_int", [.str s] => (parseInt 10 s).bind plainly
  | "parse_float", [.str s] => (parseFloat s).bind plainly
  | _, .array items :: rest => (onArray name items rest).getD missing
  | _, .str s :: rest => (onText name s rest).getD missing
  | _, .map fields :: rest => (onMap name fields rest).getD missing
  | _, v :: rest => (onNumber name v rest).getD missing
  | _, [] => missing

end ScriptStage.Rhai
