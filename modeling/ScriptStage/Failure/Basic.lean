/-!
# Failures

What can go wrong when a stage is set up and when it handles a message. A failure of execution
may carry the failure that caused it; only missed deadlines, anywhere down that chain, are worth
another attempt.

## Main definitions

* `ScriptStage.Failure`: the failures.
* `ScriptStage.Failure.message`, `code`: the text and the stable code of a failure.
* `ScriptStage.Failure.retryable`: whether another attempt may succeed.
* `ScriptStage.Failure.causes`: the failures down the chain.
-/

set_option autoImplicit false

namespace ScriptStage

/-- A failure of the stage. -/
inductive Failure where
  /-- The setup is invalid or incomplete. -/
  | configuration (text : String)
  /-- A file cannot be read. -/
  | io (text : String)
  /-- A script could not handle a message. -/
  | execution (context : String) (source : Option Failure)
  /-- The interpreter of a script reports an error. -/
  | script (text : String)
  /-- A deadline was missed. -/
  | timeout (text : String)
  /-- A JSON text is refused. -/
  | deserialization (text : String)
  deriving Repr

namespace Failure

/-- The text of a failure. -/
def message : Failure → String
  | configuration t => "Configuration error: " ++ t
  | io t => "IO error: " ++ t
  | execution c _ => "Script execution error: " ++ c
  | script t => "Script error: " ++ t
  | timeout t => "Timeout error: " ++ t
  | deserialization t => "Deserialization error: " ++ t

/-- The name of the kind of a failure. -/
def kind : Failure → String
  | configuration _ => "Configuration"
  | io _ => "Io"
  | execution _ _ => "Execution"
  | script _ => "Script"
  | timeout _ => "Timeout"
  | deserialization _ => "Deserialization"

/-- The stable code of a failure. -/
def code : Failure → String
  | configuration _ => "CONFIGURATION_ERROR"
  | io _ => "IO_ERROR"
  | execution _ _ => "EXECUTION_ERROR"
  | script _ => "SCRIPT_ERROR"
  | timeout _ => "TIMEOUT_ERROR"
  | deserialization _ => "DESERIALIZATION_ERROR"

/-- The failure that caused this one. -/
def source? : Failure → Option Failure
  | execution _ s => s
  | _ => none

/-- Another attempt may succeed: a deadline was missed, here or down the chain of causes. -/
def retryable : Failure → Bool
  | timeout _ => true
  | execution _ (some f) => f.retryable
  | _ => false

/-- The failures down the chain of causes, nearest first. -/
def causes : Failure → List Failure
  | execution _ (some f) => f :: f.causes
  | _ => []

/-- A failure of the setup, which keeps the stage from starting. -/
def isStartup : Failure → Bool
  | configuration _ | io _ => true
  | _ => false

/-- A failure while a script handles a message. -/
def isExecution : Failure → Bool
  | execution _ _ => true
  | _ => false

/-- The failure without its cause. -/
def withoutSource : Failure → Failure
  | execution c _ => execution c none
  | f => f

end Failure

end ScriptStage
