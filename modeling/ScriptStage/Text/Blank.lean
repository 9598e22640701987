/-!
# Blank characters and trimming

The blank characters are those with the Unicode property `White_Space`. Texts are handled as
lists of characters throughout the library; `String` appears only in the types that callers see.

## Main definitions

* `ScriptStage.Text.isBlank`: the `White_Space` property.
* `ScriptStage.Text.trimStart`, `trimEnd`, `trim`: a text without its outer blanks.
* `ScriptStage.Text.dropEndWhile`: a text without its longest final run of certain characters.
-/

set_option autoImplicit false

namespace ScriptStage.Text

/-- The ranges of the Unicode property `White_Space`, ascending, both ends included. -/
def blankRanges : List (Nat × Nat) :=
  [(0x09, 0x0D), (0x20, 0x20), (0x85, 0x85), (0xA0, 0xA0), (0x1680, 0x1680), (0x2000, 0x200A),
    (0x2028, 0x2029), (0x202F, 0x202F), (0x205F, 0x205F), (0x3000, 0x3000)]

/-- A blank character: one with the Unicode property `White_Space`. -/
def isBlank (c : Char) : Bool :=
  blankRanges.any fun r => r.1 ≤ c.toNat && c.toNat ≤ r.2

/-- The text without its longest final run of characters that satisfy `p`. -/
def dropEndWhile (p : Char → Bool) (t : List Char) : List Char :=
  (t.reverse.dropWhile p).reverse

/-- The text without its leading blanks. -/
def trimStart (t : List Char) : List Char :=
  t.dropWhile isBlank

/-- The text without its trailing blanks. -/
def trimEnd (t : List Char) : List Char :=
  dropEndWhile isBlank t

/-- The text without its outer blanks. -/
def trim (t : List Char) : List Char :=
  trimEnd (trimStart t)

/-- Applies a function on characters to a string. -/
def onChars (f : List Char → List Char) (s : String) : String :=
  String.ofList (f s.toList)

end ScriptStage.Text
