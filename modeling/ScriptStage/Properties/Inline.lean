import ScriptStage.Properties.Line

/-!
# Entries inside one value

A value that holds a properties text itself may write its line ends as the two characters
backslash and `n`, as well as real ones.

## Main definitions

* `ScriptStage.Properties.pieces`: the texts between line ends of either kind, without blank ones.
* `ScriptStage.Properties.ofInline`: the entries of such a value.
-/

set_option autoImplicit false

namespace ScriptStage.Properties

open Text

/-- The texts between line ends, real or written as backslash and `n`, without blank ones. -/
def pieces (t : List Char) : List (List Char) :=
  ((lines t).flatMap (cutAt '\\' 'n')).filter fun p => !(trim p).isEmpty

/-- The entries of a value that holds a properties text. -/
def ofInline (t : List Char) : List Entry :=
  (pieces t).filterMap ofLine

end ScriptStage.Properties
