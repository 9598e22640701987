import ScriptStage.Text.Blank

/-!
# Searching in texts

## Main definitions

* `ScriptStage.Text.findFrom`: the first place of a list in another.
* `ScriptStage.Text.words`: the pieces of a text between blanks.
-/

set_option autoImplicit false

namespace ScriptStage.Text

/-- The first place of a list in another one whose first place has the given number. -/
def findFrom {α : Type} [BEq α] (part : List α) : List α → Nat → Option Nat
  | [], n => if part.isEmpty then some n else none
  | x :: rest, n => if part.isPrefixOf (x :: rest) then some n else findFrom part rest (n + 1)

/-- The first place of a list in another. -/
def find? {α : Type} [BEq α] (part whole : List α) : Option Nat :=
  findFrom part whole 0

/-- The pieces of a text between blanks. -/
def words (t : List Char) : List (List Char) :=
  (t.splitBy fun a b => isBlank a == isBlank b).filter fun w => !w.all isBlank

end ScriptStage.Text
