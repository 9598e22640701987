import ScriptStage.Decimal.Notation
import ScriptStage.Text.Utf8

/-!
# Processes that read and write lines

A process reacts to each line that it is sent: it writes output, and it may close either of its
streams or end. What it has written stays readable after it has ended, and lines can still be sent
to it, upon which nothing happens.

## Main definitions

* `ScriptStage.Worker.ExitStatus`: how a process ended.
* `ScriptStage.Worker.Reaction`: what a process does upon a line.
* `ScriptStage.Worker.Process`: a process; `send` and `receive` are its two streams.
-/

set_option autoImplicit false

namespace ScriptStage.Worker

/-- How a process ended. -/
inductive ExitStatus where
  /-- It ended by itself, with a code. -/
  | exited (code : Nat)
  /-- A signal ended it. -/
  | killed (signal : Nat)
  deriving DecidableEq, Repr

/-- The names of signals. -/
def signalNames : List (Nat × String) :=
  [(1, "SIGHUP"), (2, "SIGINT"), (3, "SIGQUIT"), (4, "SIGILL"), (5, "SIGTRAP"), (6, "SIGABRT"),
    (7, "SIGBUS"), (8, "SIGFPE"), (9, "SIGKILL"), (10, "SIGUSR1"), (11, "SIGSEGV"),
    (12, "SIGUSR2"), (13, "SIGPIPE"), (14, "SIGALRM"), (15, "SIGTERM"), (16, "SIGSTKFLT"),
    (24, "SIGXCPU"), (25, "SIGXFSZ"), (26, "SIGVTALRM"), (27, "SIGPROF"), (29, "SIGIO"),
    (30, "SIGPWR"), (31, "SIGSYS")]

/-- The decimal text of a number. -/
def decimal (n : Nat) : String :=
  String.ofList (Decimal.Notation.digitsOf n)

/-- The wording of an exit status. -/
def ExitStatus.message : ExitStatus → String
  | exited code => "exit status: " ++ decimal code
  | killed signal =>
    "signal: " ++ decimal signal
      ++ (match signalNames.find? fun e => e.1 = signal with
          | some (_, name) => " (" ++ name ++ ")"
          | none => "")

/-- What a process does upon a line. -/
structure Reaction where
  /-- The bytes that it writes. -/
  output : List UInt8 := []
  /-- It closes the stream from which it reads. -/
  closesInput : Bool := false
  /-- It closes the stream to which it writes. -/
  closesOutput : Bool := false
  /-- It ends. -/
  ends : Option ExitStatus := none

/-- What a process does upon a line, given all lines up to that one, oldest first. -/
abbrev Behaviour := List (List Char) → Reaction

/-- A process. -/
structure Process where
  /-- What it does upon a line. -/
  behaviour : Behaviour
  /-- The lines that it has been sent, oldest first. -/
  received : List (List Char)
  /-- What it has written and nobody has read. -/
  unread : List UInt8
  /-- Whether lines can be sent to it. -/
  inputOpen : Bool
  /-- Whether it may still write. -/
  outputOpen : Bool
  /-- How it ended, if it has ended. -/
  status : Option ExitStatus

namespace Process

/-- A process that has just been started. -/
def start (behaviour : Behaviour) : Process :=
  ⟨behaviour, [], [], true, true, none⟩

/-- The process after it has been sent a line; nothing if the line cannot be written. Once its
output is closed, what it writes is lost. -/
def send (p : Process) (line : List Char) : Option Process :=
  if !p.inputOpen then none
  else if p.status.isSome then some p
  else
    let received := p.received ++ [line]
    let r := p.behaviour received
    some
      { p with
        received := received
        unread := if p.outputOpen then p.unread ++ r.output else p.unread
        inputOpen := !r.closesInput
        outputOpen := p.outputOpen && !(r.closesOutput || r.ends.isSome)
        status := r.ends }

/-- What comes of waiting for a line. -/
inductive Received where
  /-- A line with its end, or what was written before the stream was closed. -/
  | line (bytes : List UInt8)
  /-- The stream is closed and empty. -/
  | closed
  /-- Nothing comes. -/
  | nothing

/-- The bytes up to the first line feed, with it, and the bytes behind it. -/
def cutLine : List UInt8 → Option (List UInt8 × List UInt8)
  | [] => none
  | b :: bs => if b = 10 then some ([b], bs) else (cutLine bs).map fun r => (b :: r.1, r.2)

/-- Waits for a line. -/
def receive (p : Process) : Received × Process :=
  match cutLine p.unread with
  | some (line, rest) => (.line line, { p with unread := rest })
  | none =>
    if p.outputOpen then (.nothing, p)
    else if p.unread.isEmpty then (.closed, p)
    else (.line p.unread, { p with unread := [] })

end Process

end ScriptStage.Worker
