import Mathlib.Logic.Function.Basic
import Mathlib.Tactic.Common
import ScriptStage.Worker.Session

/-!
# Concurrent runs of one script

Any number of runs share the slot of one script. A run waits for its turn, takes the worker out of
the slot or starts one, has the script compiled, sends its bindings, reads a line and puts the
worker back; it may be given up wherever it waits. This file says which steps the runs and the
workers can make, in any order.

Nothing is assumed of a worker but this: each line that it writes answers a request that it has
received, later lines answer later requests, and no request is answered twice. What the lines say,
when they are written, and when the worker stops reading or writing is left open.

## Main definitions

* `ScriptStage.Worker.Sharing.Phase` — how far a run has come.
* `ScriptStage.Worker.Sharing.Station` — a worker with all that went over its two streams.
* `ScriptStage.Worker.Sharing.Situation` — the runs, the slot, the workers, and the replies that
  were handed over so far.
* `ScriptStage.Worker.Sharing.Step`, `Reachable` — the steps, and the situations they lead to.
-/

set_option autoImplicit false

namespace ScriptStage.Worker.Sharing

/-- How a run ends. -/
inductive Ending where
  /-- With the reply to its bindings. -/
  | answered (reply : Reply)
  /-- With a fault. -/
  | failed (fault : Fault)

/-- What the caller of a run gets. -/
def Ending.result (i : Interpreter) : Ending → Except Failure Json
  | answered reply => Interpreter.resultOf reply
  | failed fault => .error (i.failure fault)

/-- How far a run has come. -/
inductive Phase where
  /-- It waits for its turn. -/
  | queued
  /-- It has its turn and no worker yet. -/
  | admitted
  /-- It sends a request to a worker. -/
  | sending (w : ℕ) (q : Request)
  /-- It waits for the reply to a request. -/
  | awaiting (w : ℕ) (q : Request)
  /-- It has the reply to its bindings and still the worker. -/
  | replied (w : ℕ) (reply : Reply)
  /-- It stops a worker because of a fault. -/
  | stopping (w : ℕ) (fault : Fault)
  /-- It is over. -/
  | ended (ending : Ending)
  /-- It was given up. -/
  | dropped

namespace Phase

/-- The run has its turn. -/
def Active : Phase → Prop
  | admitted | sending _ _ | awaiting _ _ | replied _ _ | stopping _ _ => True
  | queued | ended _ | dropped => False

/-- The run waits for something, so that it can be given up. -/
def Waits : Phase → Prop
  | queued | sending _ _ | awaiting _ _ | stopping _ _ => True
  | admitted | replied _ _ | ended _ | dropped => False

/-- The worker that the run has in its hands. -/
def worker? : Phase → Option ℕ
  | sending w _ | awaiting w _ | replied w _ | stopping w _ => some w
  | queued | admitted | ended _ | dropped => none

/-- The reply to its bindings that the run has got. -/
def reply? : Phase → Option Reply
  | replied _ reply | ended (.answered reply) => some reply
  | queued | admitted | sending _ _ | awaiting _ _ | stopping _ _ | dropped => none
  | ended (.failed _) => none

/-- How far a run has come once it has a well-formed reply: a worker that has compiled the script
is sent the bindings, one that has not is stopped. -/
def afterReply (b : Bindings) (w : ℕ) (reply : Reply) : Request → Phase
  | .compile _ =>
    match reply.error with
    | some text => stopping w (.notCompiled text)
    | none => sending w (.run b)
  | .run _ => replied w reply

end Phase

variable {ι : Type}

/-- A worker, with all that went over its two streams. -/
structure Station (ι : Type) where
  /-- The worker itself. -/
  process : Process
  /-- The requests that it has received, oldest first, with the runs that sent them. -/
  log : List (ι × Request)
  /-- The lines that it has written, oldest first, with the places in `log` of the requests that
  they answer. -/
  written : List (ℕ × List UInt8)
  /-- How many of its lines were read. -/
  taken : ℕ

namespace Station

/-- A worker that has just been started. -/
def fresh (behaviour : Behaviour) : Station ι :=
  ⟨.start behaviour, [], [], 0⟩

/-- The worker has received a request of a run. -/
def receives (s : Station ι) (r : ι) (q : Request) : Station ι :=
  { s with
    process := { s.process with received := s.process.received ++ [q.line] }
    log := s.log ++ [(r, q)] }

/-- The worker has written a line that answers the request at a place. -/
def writes (s : Station ι) (place : ℕ) (bytes : List UInt8) : Station ι :=
  { s with
    process := { s.process with unread := s.process.unread ++ bytes }
    written := s.written ++ [(place, bytes)] }

/-- The worker may have closed either of its streams, and it may have ended. -/
def falters (s : Station ι) (closesInput closesOutput : Bool) (ends : Option ExitStatus) :
    Station ι :=
  { s with
    process :=
      { s.process with
        inputOpen := s.process.inputOpen && !closesInput
        outputOpen := s.process.outputOpen && !closesOutput
        status := s.process.status.or ends } }

/-- A line of the worker was read, which leaves the process as given. -/
def read (s : Station ι) (p : Process) : Station ι :=
  { s with process := p, taken := s.taken + 1 }

end Station

/-- One line, or what stands for one when the output ends behind it: bytes of which at most the
last is a line feed. -/
def IsLine (bytes : List UInt8) : Prop :=
  bytes ≠ [] ∧ 10 ∉ bytes.dropLast

/-- A well-formed reply that was handed over. -/
structure Delivery (ι : Type) where
  /-- The run that got it. -/
  run : ι
  /-- The worker that it came from. -/
  worker : ℕ
  /-- How many lines of that worker had been read before. -/
  index : ℕ
  /-- The request whose answer the run was waiting for. -/
  request : Request
  /-- The reply. -/
  reply : Reply

/-- All runs of a script, and the workers started for it. -/
structure Situation (ι : Type) where
  /-- How far each run has come. -/
  phase : ι → Phase
  /-- The run that has its turn. -/
  turn : Option ι
  /-- The worker in the slot. -/
  slot : Option ℕ
  /-- How many workers were started. -/
  started : ℕ
  /-- The workers. -/
  station : ℕ → Station ι
  /-- The well-formed replies that were handed over, oldest first. -/
  deliveries : List (Delivery ι)

namespace Situation

/-- Before the first step. -/
def start : Situation ι :=
  ⟨fun _ => .queued, none, none, 0, fun _ => .fresh fun _ => {}, []⟩

variable [DecidableEq ι]

/-- A run has come further. -/
def moves (S : Situation ι) (r : ι) (φ : Phase) : Situation ι :=
  { S with phase := Function.update S.phase r φ }

/-- A run has come to its end, and the turn is free again if it was that of this run. -/
def leaves (S : Situation ι) (r : ι) (φ : Phase) : Situation ι :=
  { S with
    phase := Function.update S.phase r φ
    turn := if S.turn = some r then none else S.turn }

/-- A worker has changed. -/
def changes (S : Situation ι) (w : ℕ) (s : Station ι) : Situation ι :=
  { S with station := Function.update S.station w s }

end Situation

variable [DecidableEq ι]

/-- The steps of the runs of a script, each with its own bindings, and of their workers. -/
inductive Step (source : String) (bindings : ι → Bindings) : Situation ι → Situation ι → Prop
  /-- A run gets its turn. -/
  | enter {S : Situation ι} {r : ι} (phase : S.phase r = .queued) (free : S.turn = none) :
    Step source bindings S { S.moves r .admitted with turn := some r }
  /-- It takes the worker out of the slot. -/
  | take {S : Situation ι} {r : ι} {w : ℕ} (phase : S.phase r = .admitted)
      (slot : S.slot = some w) :
    Step source bindings S { S.moves r (.sending w (.run (bindings r))) with slot := none }
  /-- It starts a worker if there is none. -/
  | launch {S : Situation ι} {r : ι} (behaviour : Behaviour) (phase : S.phase r = .admitted)
      (slot : S.slot = none) :
    Step source bindings S
      { (S.moves r (.sending S.started (.compile source))).changes S.started (.fresh behaviour) with
        started := S.started + 1 }
  /-- No worker can be started. -/
  | launchFails {S : Situation ι} {r : ι} (why : StartFault) (phase : S.phase r = .admitted)
      (slot : S.slot = none) :
    Step source bindings S (S.leaves r (.ended (.failed (.notStarted why))))
  /-- The worker receives the request. -/
  | send {S : Situation ι} {r : ι} {w : ℕ} {q : Request} (phase : S.phase r = .sending w q) :
    Step source bindings S
      ((S.moves r (.awaiting w q)).changes w ((S.station w).receives r q))
  /-- The request is written, but the worker never receives it. -/
  | lose {S : Situation ι} {r : ι} {w : ℕ} {q : Request} (phase : S.phase r = .sending w q) :
    Step source bindings S (S.moves r (.awaiting w q))
  /-- The request cannot be written. -/
  | unsent {S : Situation ι} {r : ι} {w : ℕ} {q : Request} (status : Option ExitStatus)
      (phase : S.phase r = .sending w q) :
    Step source bindings S (S.moves r (.stopping w (.notWritten status)))
  /-- The run reads a line that is a well-formed reply. -/
  | reply {S : Situation ι} {r : ι} {w : ℕ} {q : Request} {bytes : List UInt8} {p : Process}
      {status : Option ExitStatus} {reply : Reply} (phase : S.phase r = .awaiting w q)
      (line : (S.station w).process.receive = (.line bytes, p))
      (wellFormed : readReply status bytes = .ok reply) :
    Step source bindings S
      { (S.moves r (.afterReply (bindings r) w reply q)).changes w ((S.station w).read p) with
        deliveries := S.deliveries ++ [⟨r, w, (S.station w).taken, q, reply⟩] }
  /-- The run reads a line that is no reply. -/
  | garbage {S : Situation ι} {r : ι} {w : ℕ} {q : Request} {bytes : List UInt8} {p : Process}
      {status : Option ExitStatus} {fault : Fault} (phase : S.phase r = .awaiting w q)
      (line : (S.station w).process.receive = (.line bytes, p))
      (illFormed : readReply status bytes = .error fault) :
    Step source bindings S
      ((S.moves r (.stopping w fault)).changes w ((S.station w).read p))
  /-- The run finds that the output of the worker has ended. -/
  | closed {S : Situation ι} {r : ι} {w : ℕ} {q : Request} {p : Process}
      (status : Option ExitStatus) (phase : S.phase r = .awaiting w q)
      (line : (S.station w).process.receive = (.closed, p)) :
    Step source bindings S (S.moves r (.stopping w (.noReply status)))
  /-- The run puts the worker back and is over. -/
  | putBack {S : Situation ι} {r : ι} {w : ℕ} {reply : Reply}
      (phase : S.phase r = .replied w reply) :
    Step source bindings S { S.leaves r (.ended (.answered reply)) with slot := some w }
  /-- The run has stopped the worker and is over. -/
  | stopped {S : Situation ι} {r : ι} {w : ℕ} {fault : Fault}
      (phase : S.phase r = .stopping w fault) :
    Step source bindings S (S.leaves r (.ended (.failed fault)))
  /-- A run is given up while it waits. -/
  | drop {S : Situation ι} {r : ι} (waits : (S.phase r).Waits) :
    Step source bindings S (S.leaves r .dropped)
  /-- A worker writes a line: after the request that it answers, and behind all lines that answer
  earlier requests. -/
  | write {S : Situation ι} (w place : ℕ) {bytes : List UInt8}
      (after : place < (S.station w).log.length)
      (order : ∀ e ∈ (S.station w).written, e.1 < place) (line : IsLine bytes) :
    Step source bindings S (S.changes w ((S.station w).writes place bytes))
  /-- A worker closes streams or ends. -/
  | falter {S : Situation ι} {w : ℕ} (closesInput closesOutput : Bool)
      (ends : Option ExitStatus) :
    Step source bindings S (S.changes w ((S.station w).falters closesInput closesOutput ends))

/-- The situations that steps lead to. -/
inductive Reachable (source : String) (bindings : ι → Bindings) : Situation ι → Prop
  /-- The first situation. -/
  | start : Reachable source bindings .start
  /-- One step more. -/
  | step {S S' : Situation ι} (reached : Reachable source bindings S)
      (step : Step source bindings S S') : Reachable source bindings S'

end ScriptStage.Worker.Sharing
