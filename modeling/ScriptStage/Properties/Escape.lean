import ScriptStage.Text.Digits

/-!
# Escapes in property values

A backslash gives a meaning to what follows it: `t`, `n`, `r` and `f` stand for control
characters, `u` with a number of four characters for the character with that number, and every
other character for itself. What is no such escape stays as written.

## Main definitions

* `ScriptStage.Properties.codePoint?`: the character that the four characters behind `\u` name.
* `ScriptStage.Properties.unescape`: the text that a value stands for.
-/

set_option autoImplicit false

namespace ScriptStage.Properties

/-- The character with a number, if there is one. -/
def scalar? (n : Nat) : Option Char :=
  if n.isValidChar then some (Char.ofNat n) else none

/-- The character that four characters name: a hexadecimal number, in which a plus sign may take
the place of the first digit. -/
def codePoint? (a b c d : Char) : Option Char :=
  (Text.natIn? 16 (if a = '+' then [b, c, d] else [a, b, c, d])).bind scalar?

/-- The character that the next four characters name. -/
def numbered? : List Char → Option Char
  | a :: b :: c :: d :: _ => codePoint? a b c d
  | _ => none

/-- The character that a backslash and the given character stand for. -/
def escaped (c : Char) : Char :=
  if c = 't' then '\t'
  else if c = 'n' then '\n'
  else if c = 'r' then '\r'
  else if c = 'f' then '\x0c'
  else c

/-- The text that a value stands for. -/
def unescape : List Char → List Char
  | [] => []
  | [c] => [c]
  | c :: d :: rest =>
    if c ≠ '\\' then c :: unescape (d :: rest)
    else if d ≠ 'u' then escaped d :: unescape rest
    else
      match numbered? rest with
      | some ch => ch :: unescape (rest.drop 4)
      | none => c :: d :: unescape rest
termination_by t => t.length
decreasing_by all_goals simp only [List.length_cons, List.length_drop]; omega

end ScriptStage.Properties
