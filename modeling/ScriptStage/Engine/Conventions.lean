/-!
# Conventions of scripting languages

What several of the languages agree on.

## Main definitions

* `ScriptStage.Engine.repeated?`: a name that is given twice.
* `ScriptStage.Engine.readCode`: the code inside a template.
* `ScriptStage.Engine.placeIn?`: places counted from the start or from the end.
-/

set_option autoImplicit false

namespace ScriptStage.Engine

/-- A name that occurs twice in a list. -/
def repeated? : List String → Option String
  | [] => none
  | n :: rest => if rest.contains n then some n else repeated? rest

/-- The code inside a template up to the brace that closes it, and what follows. The number is
that of the braces which are open inside the code. -/
def readCode : Nat → List Char → Option (List Char × List Char)
  | _, [] => none
  | depth, c :: t =>
    if c = '\x7d' then
      match depth with
      | 0 => some ([], t)
      | d + 1 => (readCode d t).map fun r => (c :: r.1, r.2)
    else
      (readCode (if c = '\x7b' then depth + 1 else depth) t).map fun r => (c :: r.1, r.2)

/-- The place that a number names in a list: from the end if it is negative. -/
def placeIn? (length : Nat) (n : Int) : Option Nat :=
  let k := if n < 0 then length + n else n
  if 0 ≤ k ∧ k < length then some k.toNat else none

end ScriptStage.Engine
