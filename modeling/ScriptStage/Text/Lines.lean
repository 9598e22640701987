/-!
# Lines and cuts

A line ends at a line feed, and a carriage return directly before that line feed belongs to the
line end. A carriage return anywhere else is an ordinary character, and a text that ends with a
line end has no empty line after it.

## Main definitions

* `ScriptStage.Text.lines`: the lines of a text, without their ends.
* `ScriptStage.Text.cutAt`: the pieces between the occurrences of a pair of characters.
* `ScriptStage.Text.replacePair`: a text with each occurrence of a pair replaced.

## Main results

* `ScriptStage.Text.cutAt_ne_nil`: a cut leaves at least one piece.
-/

set_option autoImplicit false

namespace ScriptStage.Text

/-- The lines of a text, without their ends. -/
def lines : List Char → List (List Char)
  | [] => []
  | '\n' :: rest => [] :: lines rest
  | '\r' :: '\n' :: rest => [] :: lines rest
  | c :: rest =>
    match lines rest with
    | [] => [[c]]
    | line :: more => (c :: line) :: more

/-- Puts a character in front of the first piece. -/
def consHead (c : Char) : List (List Char) → List (List Char)
  | [] => [[c]]
  | piece :: more => (c :: piece) :: more

/-- Cuts a text at each occurrence of `a` followed by `b`, scanning from the left; the two
characters belong to no piece. -/
def cutAt (a b : Char) : List Char → List (List Char)
  | [] => [[]]
  | [c] => [[c]]
  | c :: d :: rest =>
    if c = a ∧ d = b then [] :: cutAt a b rest
    else consHead c (cutAt a b (d :: rest))

theorem consHead_ne_nil (c : Char) (ps : List (List Char)) : consHead c ps ≠ [] := by
  cases ps <;> simp [consHead]

/-- A cut leaves at least one piece. -/
theorem cutAt_ne_nil (a b : Char) (t : List Char) : cutAt a b t ≠ [] := by
  fun_cases cutAt a b t <;> simp [consHead_ne_nil]

/-- Replaces each occurrence of `a` followed by `b`, scanning from the left, by another text. -/
def replacePair (a b : Char) (replacement : List Char) (t : List Char) : List Char :=
  replacement.intercalate (cutAt a b t)

end ScriptStage.Text
