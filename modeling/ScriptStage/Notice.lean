/-!
# Notices

A notice is a line that an operator of the stage should see.

## Main definitions

* `ScriptStage.Notice`: a warning or an error with its text.
-/

set_option autoImplicit false

namespace ScriptStage

/-- A line that an operator of the stage should see. -/
inductive Notice where
  /-- Something was ignored or repaired. -/
  | warning (text : String)
  /-- Something failed. -/
  | error (text : String)
  deriving DecidableEq, Repr

end ScriptStage
