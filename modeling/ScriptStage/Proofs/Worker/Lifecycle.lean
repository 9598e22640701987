import Mathlib.Data.List.Induction
import Mathlib.Logic.Function.Iterate
import Mathlib.Tactic.Common
import ScriptStage.Worker.Session

/-!
# The worker between the runs of a script

Runs of a script that follow one another share its slot. A run takes the worker out of the slot or
starts one, and it puts a worker back only after a well-formed reply to its bindings. It may end in
many other ways, and it may be given up wherever it waits. This file follows a run step by step, so
that it can be given up between any two of them, and says what every sequence of runs leaves behind.

Nothing is assumed of the workers. Each start gives another process or fails in its own way, and
anything may happen to a worker while it is idle.

## Main definitions

* `ScriptStage.Worker.Answers` — a worker answers a request with a well-formed reply.
* `ScriptStage.Worker.Lifecycle.Ledger` — the slot, and what was started and sent so far.
* `ScriptStage.Worker.Lifecycle.step` — one step of a run.
* `ScriptStage.Worker.Lifecycle.Ledger.turn`, `history` — a run that may be given up, and runs one
  after another.
* `ScriptStage.Worker.Lifecycle.Serves` — the worker that gets the bindings of a run.

## Main results

* `ScriptStage.Worker.exchange_eq_replied` — an exchange succeeds just if the worker answers.
* `ScriptStage.Worker.Lifecycle.Progress.step`, `Progress.turn` — what a run has done so far.
* `ScriptStage.Worker.Lifecycle.turn_eq_run` — a run that is not given up is
  `ScriptStage.Worker.Interpreter.run`.
* `ScriptStage.Worker.Lifecycle.respond_eq_attempt` — so is what the script of an interpreter
  answers.
* `ScriptStage.Worker.Lifecycle.slot_after_runs` — what runs leave behind.
-/

set_option autoImplicit false

namespace ScriptStage.Worker

/-! ## Answers -/

/-- **A worker answers a request**: the request can be written, and the line that is read then is a
text that spells a reply. The worker is left in the given state. -/
def Answers (worker : Process) (q : Request) (reply : Reply) (left : Process) : Prop :=
  ∃ later bytes line, worker.send q.line = some later ∧ later.receive = (.line bytes, left) ∧
    Text.decode bytes = .ok line ∧ Reply.parse line = .ok reply

/-- A line is a reply just if it is a text that spells one. -/
lemma readReply_eq_ok {status : Option ExitStatus} {bytes : List UInt8} {reply : Reply} :
    readReply status bytes = .ok reply ↔
      ∃ line, Text.decode bytes = .ok line ∧ Reply.parse line = .ok reply := by
  unfold readReply
  cases Text.decode bytes with
  | error how => simp
  | ok line => cases h : Reply.parse line <;> simp [Except.mapError, h]

/-- **An exchange succeeds just if the worker answers.** -/
theorem exchange_eq_replied {worker left : Process} {q : Request} {reply : Reply} :
    exchange worker q = .replied reply left ↔ Answers worker q reply left := by
  constructor
  · intro h
    unfold exchange at h
    split at h
    · exact nomatch h
    next later hsend =>
    dsimp only at h
    split at h
    · exact nomatch h
    · exact nomatch h
    next bytes left' hreceive =>
    split at h
    · exact nomatch h
    next reply' hreply =>
    injection h with h₁ h₂
    subst h₁ h₂
    obtain ⟨line, hline⟩ := readReply_eq_ok.1 hreply
    exact ⟨later, bytes, line, hsend, hreceive, hline⟩
  · rintro ⟨later, bytes, line, hsend, hreceive, hline⟩
    have hreply : ∀ status, readReply status bytes = .ok reply := fun _ =>
      readReply_eq_ok.2 ⟨line, hline⟩
    simp only [exchange, hsend, hreceive, hreply]

/-- A worker answers in one way only. -/
lemma Answers.unique {worker left left' : Process} {q : Request} {reply reply' : Reply}
    (h : Answers worker q reply left) (h' : Answers worker q reply' left') :
    reply = reply' ∧ left = left' := by
  rw [← exchange_eq_replied] at h h'
  have he := h.symm.trans h'
  injection he with h₁ h₂
  exact ⟨h₁, h₂⟩

namespace Lifecycle

/-! ## Runs step by step -/

/-- A worker with the number of its start among all starts. -/
structure Held where
  /-- The number. -/
  number : ℕ
  /-- The worker itself. -/
  process : Process

/-- How far a run has come. -/
inductive Stage where
  /-- It has its turn and no worker yet. -/
  | admitted
  /-- It exchanges a request for its reply. -/
  | asking (w : Held) (q : Request)
  /-- It stops a worker because of a fault. -/
  | stopping (fault : Fault)
  /-- It is over, with the reply to its bindings. -/
  | answered (reply : Reply)
  /-- It is over, with a fault. -/
  | failed (fault : Fault)

/-- The slot, and what was started and sent so far. -/
structure Ledger where
  /-- The worker in the slot. -/
  slot : Option Held
  /-- What came of each start, oldest first. -/
  starts : List (Except StartFault Process)
  /-- The requests that were sent, oldest first, with the numbers of the workers. -/
  log : List (ℕ × Request)

/-- What a run meets. -/
structure Turn where
  /-- What comes of a start, should the run need one. -/
  launch : Except StartFault Process
  /-- What has happened to the worker in the slot since the last run. -/
  idle : Process → Process
  /-- What the script is to see. -/
  bindings : Bindings
  /-- How many times the run may wait before it is given up. -/
  patience : ℕ

namespace Ledger

/-- Before the first run. -/
def empty : Ledger :=
  ⟨none, [], []⟩

/-- The requests that were sent to a worker, oldest first. -/
def asked (L : Ledger) (n : ℕ) : List Request :=
  (L.log.filter fun e => e.1 = n).map Prod.snd

/-- A request is sent to a worker. -/
def ask (L : Ledger) (w : Held) (q : Request) : Ledger × Stage :=
  ({ L with log := L.log ++ [(w.number, q)] }, .asking w q)

/-- A worker is started, and it is sent the script. -/
def start (L : Ledger) (source : String) (launch : Except StartFault Process) : Ledger × Stage :=
  let started : Ledger := { L with starts := L.starts ++ [launch] }
  match launch with
  | .error why => (started, .failed (.notStarted why))
  | .ok p => started.ask ⟨L.starts.length, p⟩ (.compile source)

/-- A well-formed reply is read. -/
def hear (L : Ledger) (b : Bindings) (w : Held) (reply : Reply) : Request → Ledger × Stage
  | .compile _ =>
    match reply.error with
    | some text => (L, .stopping (.notCompiled text))
    | none => L.ask w (.run b)
  | .run _ => ({ L with slot := some w }, .answered reply)

/-- A worker turns out to be of no use. -/
def lose (L : Ledger) (fault : Fault) : Request → Ledger × Stage
  | .compile _ => (L, .failed fault)
  | .run _ => (L, .stopping fault)

end Ledger

/-- One step of a run. It can be given up while it asks or stops a worker; what it has not reached
by then is not done. -/
def step (source : String) (t : Turn) : Ledger × Stage → Ledger × Stage
  | (L, .admitted) =>
    match L.slot with
    | some w => { L with slot := none }.ask ⟨w.number, t.idle w.process⟩ (.run t.bindings)
    | none => L.start source t.launch
  | (L, .asking w q) =>
    match exchange w.process q with
    | .replied reply left => L.hear t.bindings ⟨w.number, left⟩ reply q
    | .broken fault => L.lose fault q
    | .stuck => (L, .asking w q)
  | (L, .stopping fault) => (L, .failed fault)
  | (L, .answered reply) => (L, .answered reply)
  | (L, .failed fault) => (L, .failed fault)

/-- A run, up to its end or to where it is given up. -/
def Ledger.turn (source : String) (L : Ledger) (t : Turn) : Ledger × Stage :=
  (step source t)^[t.patience + 1] (L, .admitted)

/-- Runs one after another: what they leave behind, and how far the last one has come. -/
def history (source : String) (ts : List Turn) : Ledger × Option Stage :=
  ts.foldl (fun s t => ((s.1.turn source t).1, some (s.1.turn source t).2)) (.empty, none)

/-! ## What a run has done so far -/

/-- **The worker that gets the bindings**: the one in the slot, or a new one that has compiled the
script. -/
inductive Serves (source : String) (t : Turn) (L : Ledger) : Held → Prop
  /-- The worker in the slot. -/
  | kept {w : Held} (slot : L.slot = some w) :
    Serves source t L ⟨w.number, t.idle w.process⟩
  /-- A new one. -/
  | fresh {p left : Process} {reply : Reply} (slot : L.slot = none) (launch : t.launch = .ok p)
      (compiled : Answers p (.compile source) reply left) (accepted : reply.error = none) :
    Serves source t L ⟨L.starts.length, left⟩

/-- The ledger once a run has a worker. -/
def Ledger.ready (source : String) (t : Turn) (L : Ledger) : Ledger :=
  match L.slot with
  | some _ => { L with slot := none }
  | none =>
    ⟨none, L.starts ++ [t.launch], L.log ++ [(L.starts.length, .compile source)]⟩

/-- The ledger once a run has sent its bindings. -/
def Ledger.served (source : String) (t : Turn) (L : Ledger) (n : ℕ) : Ledger :=
  { L.ready source t with log := (L.ready source t).log ++ [(n, .run t.bindings)] }

@[simp]
lemma Ledger.ready_slot (source : String) (t : Turn) (L : Ledger) :
    (L.ready source t).slot = none := by
  unfold ready
  split <;> rfl

@[simp]
lemma Ledger.served_slot (source : String) (t : Turn) (L : Ledger) (n : ℕ) :
    (L.served source t n).slot = none :=
  ready_slot source t L

@[simp]
lemma Ledger.ready_ask (source : String) (t : Turn) (L : Ledger) (w : Held) :
    (L.ready source t).ask w (.run t.bindings) =
      (L.served source t w.number, .asking w (.run t.bindings)) := rfl

/-- A run waits for a reply, or it has given up its worker. -/
def Stage.Unanswered (w : Held) (q : Request) (s : Stage) : Prop :=
  s = .asking w q ∨ ∃ fault, s = .stopping fault ∨ s = .failed fault

/-- **How far a run can have come** after its first step, and the ledger then. -/
inductive Progress (source : String) (t : Turn) (L : Ledger) : Ledger × Stage → Prop
  /-- No worker could be started. -/
  | notStarted {why : StartFault} (slot : L.slot = none) (launch : t.launch = .error why) :
    Progress source t L ({ L with starts := L.starts ++ [t.launch] }, .failed (.notStarted why))
  /-- A new worker was sent the script and has not compiled it. -/
  | compiling {p : Process} {s : Stage} (slot : L.slot = none) (launch : t.launch = .ok p)
      (stage : s.Unanswered ⟨L.starts.length, p⟩ (.compile source)) :
    Progress source t L (L.ready source t, s)
  /-- A worker was sent the bindings and has not answered. -/
  | running {w : Held} {s : Stage} (serves : Serves source t L w)
      (stage : s.Unanswered w (.run t.bindings)) :
    Progress source t L (L.served source t w.number, s)
  /-- A worker has answered and is back in the slot. -/
  | answered {w : Held} {reply : Reply} {left : Process} (serves : Serves source t L w)
      (answers : Answers w.process (.run t.bindings) reply left) :
    Progress source t L
      ({ L.served source t w.number with slot := some ⟨w.number, left⟩ }, .answered reply)

namespace Progress

variable {source : String} {t : Turn} {L : Ledger} {s : Ledger × Stage}

/-- A run gets a worker or starts one. -/
lemma first (source : String) (t : Turn) (L : Ledger) :
    Progress source t L (Lifecycle.step source t (L, .admitted)) := by
  cases hslot : L.slot with
  | some w =>
    have h : Progress source t L _ := running (.kept hslot) (.inl rfl)
    simpa [Lifecycle.step, Ledger.served, Ledger.ready, Ledger.ask, hslot] using h
  | none =>
    cases hlaunch : t.launch with
    | error why =>
      have h : Progress source t L _ := notStarted hslot hlaunch
      rw [hlaunch] at h
      simpa [Lifecycle.step, Ledger.start, hslot, hlaunch] using h
    | ok p =>
      have h : Progress source t L _ := compiling hslot hlaunch (.inl rfl)
      simpa [Lifecycle.step, Ledger.start, Ledger.ask, Ledger.ready, hslot, hlaunch] using h

/-- **One step more.** -/
lemma step (h : Progress source t L s) : Progress source t L (Lifecycle.step source t s) := by
  cases h with
  | notStarted slot launch => exact notStarted slot launch
  | @compiling p s slot launch stage =>
    rcases stage with rfl | ⟨fault, rfl | rfl⟩
    · cases he : exchange p (.compile source) with
      | stuck =>
        have h : Progress source t L _ := compiling slot launch (.inl rfl)
        simpa [Lifecycle.step, he] using h
      | broken fault =>
        have h : Progress source t L _ := compiling slot launch (.inr ⟨fault, .inr rfl⟩)
        simpa [Lifecycle.step, he, Ledger.lose] using h
      | replied reply left =>
        have answers := exchange_eq_replied.1 he
        cases herror : reply.error with
        | some text =>
          have h : Progress source t L _ := compiling slot launch
            (.inr ⟨.notCompiled text, .inl rfl⟩)
          simpa [Lifecycle.step, he, Ledger.hear, herror] using h
        | none =>
          have h := running (.fresh slot launch answers herror) (.inl rfl)
          simpa [Lifecycle.step, he, Ledger.hear, herror] using h
    · exact compiling slot launch (.inr ⟨fault, .inr rfl⟩)
    · exact compiling slot launch (.inr ⟨fault, .inr rfl⟩)
  | @running w s serves stage =>
    rcases stage with rfl | ⟨fault, rfl | rfl⟩
    · cases he : exchange w.process (.run t.bindings) with
      | stuck =>
        have h := running serves (.inl rfl)
        simpa [Lifecycle.step, he] using h
      | broken fault =>
        have h := running serves (.inr ⟨fault, .inl rfl⟩)
        simpa [Lifecycle.step, he, Ledger.lose] using h
      | replied reply left =>
        have h := answered serves (exchange_eq_replied.1 he)
        simpa [Lifecycle.step, he, Ledger.hear] using h
    · exact running serves (.inr ⟨fault, .inr rfl⟩)
    · exact running serves (.inr ⟨fault, .inr rfl⟩)
  | answered serves answers => exact answered serves answers

/-- **A run has come as far as it can** when it is given up or is over. -/
theorem turn (source : String) (t : Turn) (L : Ledger) :
    Progress source t L (L.turn source t) := by
  have steps : ∀ n s, Progress source t L s →
      Progress source t L ((Lifecycle.step source t)^[n] s) := by
    intro n
    induction n with
    | zero => exact fun s h => h
    | succ n ih =>
      intro s h
      rw [Function.iterate_succ_apply]
      exact ih _ h.step
  rw [Ledger.turn, Function.iterate_succ_apply]
  exact steps _ _ (first source t L)

end Progress

/-! ## What is recorded -/

/-- The worker with the number was started. -/
def Ledger.Started (L : Ledger) (n : ℕ) : Prop :=
  ∃ p, L.starts[n]? = some (.ok p)

/-- **The ledger tells of the workers**: each that was started was sent the script once and then
nothing but bindings, and only such a worker is in the slot. -/
structure Recorded (source : String) (L : Ledger) : Prop where
  asked : ∀ n, L.Started n → ∃ bs : List Bindings, L.asked n = .compile source :: bs.map .run
  unstarted : ∀ n, ¬ L.Started n → L.asked n = []
  slot : ∀ w, L.slot = some w → L.Started w.number

namespace Ledger

variable {L : Ledger} {launch : Except StartFault Process} {n : ℕ}

/-- One start more. -/
lemma started_append (slot : Option Held) (log : List (ℕ × Request)) :
    Started ⟨slot, L.starts ++ [launch], log⟩ n ↔
      L.Started n ∨ n = L.starts.length ∧ ∃ p, launch = .ok p := by
  show (∃ p, (L.starts ++ [launch])[n]? = some (.ok p)) ↔ _
  rcases Nat.lt_trichotomy n L.starts.length with hn | rfl | hn
  · have hne : n ≠ L.starts.length := Nat.ne_of_lt hn
    simp [Started, List.getElem?_append_left hn, hne]
  · simp [Started]
  · have hne : n ≠ L.starts.length := Nat.ne_of_gt hn
    have hbehind : (L.starts ++ [launch])[n]? = none :=
      List.getElem?_eq_none (by rw [List.length_append]; exact hn)
    simp [Started, hbehind, List.getElem?_eq_none (Nat.le_of_lt hn), hne]

/-- The next worker was not started yet. -/
lemma not_started_length (L : Ledger) : ¬ L.Started L.starts.length := by
  simp [Started]

/-- One request more. -/
lemma asked_append (slot : Option Held) (starts : List (Except StartFault Process))
    (log : List (ℕ × Request)) (m n : ℕ) (q : Request) :
    asked ⟨slot, starts, log ++ [(m, q)]⟩ n =
      asked ⟨slot, starts, log⟩ n ++ if m = n then [q] else [] := by
  unfold asked
  split
  · next h => simp [h]
  · next h => simp [h]

end Ledger

namespace Recorded

variable {source : String} {t : Turn} {L : Ledger}

lemma empty (source : String) : Recorded source .empty :=
  ⟨fun _ ⟨_, h⟩ => (nomatch h), fun _ _ => rfl, fun _ h => nomatch h⟩

/-- The slot may be emptied, or hold a worker that was started. -/
lemma puts (h : Recorded source L) {slot : Option Held}
    (started : ∀ w, slot = some w → L.Started w.number) : Recorded source { L with slot := slot } :=
  ⟨h.asked, h.unstarted, started⟩

/-- A start that fails changes nothing. -/
lemma notStarted (h : Recorded source L) {why : StartFault} (launch : t.launch = .error why) :
    Recorded source { L with starts := L.starts ++ [t.launch] } := by
  have hstarted : ∀ n, Ledger.Started { L with starts := L.starts ++ [t.launch] } n ↔
      L.Started n := by
    intro n
    rw [Ledger.started_append, launch]
    simp
  exact ⟨fun n hn => h.asked n ((hstarted n).1 hn),
    fun n hn => h.unstarted n (hn ∘ (hstarted n).2),
    fun w hw => (hstarted _).2 (h.slot w hw)⟩

/-- A new worker is sent the script. -/
lemma compiling (h : Recorded source L) {p : Process} (launch : t.launch = .ok p) :
    Recorded source
      ⟨none, L.starts ++ [t.launch], L.log ++ [(L.starts.length, .compile source)]⟩ where
  asked n hn := by
    rw [Ledger.asked_append]
    rcases (Ledger.started_append _ _).1 hn with hn | ⟨rfl, -⟩
    · obtain ⟨bs, hbs⟩ := h.asked n hn
      have hne : L.starts.length ≠ n := fun he => L.not_started_length (he ▸ hn)
      exact ⟨bs, by rw [if_neg hne, List.append_nil]; exact hbs⟩
    · have hnew : L.asked L.starts.length = [] := h.unstarted _ L.not_started_length
      exact ⟨[], by rw [if_pos rfl]; exact congrArg (· ++ _) hnew⟩
  unstarted n hn := by
    rw [Ledger.started_append, not_or] at hn
    have hne : L.starts.length ≠ n := fun he => hn.2 ⟨he.symm, p, launch⟩
    rw [Ledger.asked_append, if_neg hne, List.append_nil]
    exact h.unstarted n hn.1
  slot w hw := nomatch hw

/-- Bindings are sent to a worker that was started. -/
lemma running (h : Recorded source L) {n : ℕ} (started : L.Started n) (b : Bindings) :
    Recorded source { L with log := L.log ++ [(n, .run b)] } where
  asked m hm := by
    obtain ⟨bs, hbs⟩ := h.asked m hm
    rw [Ledger.asked_append]
    split
    · exact ⟨bs ++ [b], by rw [List.map_append]; exact congrArg (· ++ [Request.run b]) hbs⟩
    · exact ⟨bs, by rw [List.append_nil]; exact hbs⟩
  unstarted m hm := by
    have hne : n ≠ m := fun he => hm (he ▸ started)
    rw [Ledger.asked_append, if_neg hne, List.append_nil]
    exact h.unstarted m hm
  slot := h.slot

/-- A run that has a worker has sent nothing to it but the script, if it is new. -/
lemma ready (h : Recorded source L) {w : Held} (serves : Serves source t L w) :
    Recorded source (L.ready source t) ∧ (L.ready source t).Started w.number := by
  cases serves with
  | @kept w slot =>
    have hready : L.ready source t = { L with slot := none } := by simp [Ledger.ready, slot]
    rw [hready]
    exact ⟨h.puts fun _ hw => (nomatch hw), h.slot w slot⟩
  | @fresh p left reply slot launch =>
    have hready : L.ready source t =
        ⟨none, L.starts ++ [t.launch], L.log ++ [(L.starts.length, .compile source)]⟩ := by
      simp [Ledger.ready, slot]
    rw [hready]
    exact ⟨h.compiling launch, (Ledger.started_append _ _).2 (.inr ⟨rfl, p, launch⟩)⟩

/-- **A run keeps the records.** -/
theorem turn (h : Recorded source L) (t : Turn) : Recorded source (L.turn source t).1 := by
  have hp := Progress.turn source t L
  generalize L.turn source t = s at hp
  cases hp with
  | notStarted slot launch => exact h.notStarted launch
  | compiling slot launch stage =>
    have hready : L.ready source t =
        ⟨none, L.starts ++ [t.launch], L.log ++ [(L.starts.length, .compile source)]⟩ := by
      simp [Ledger.ready, slot]
    rw [hready]
    exact h.compiling launch
  | running serves stage =>
    obtain ⟨hready, started⟩ := h.ready serves
    exact hready.running started t.bindings
  | answered serves answers =>
    obtain ⟨hready, started⟩ := h.ready serves
    refine (hready.running started t.bindings).puts fun w hw => ?_
    obtain rfl := Option.some.inj hw
    exact started

end Recorded

/-! ## Runs that are not given up -/

/-- How a run ends at a stage; one that waits there forever never does. -/
def Stage.attempt (i : Interpreter) : Stage → Attempt
  | answered reply => .now (Interpreter.resultOf reply)
  | failed fault => .now (.error (i.failure fault))
  | admitted | asking _ _ | stopping _ => .pending

/-- The interpreter, with what comes of the start that a run makes. -/
def Turn.interpreter (t : Turn) (i : Interpreter) : Interpreter :=
  { i with launch := t.launch }

/-- The worker that a run finds in the slot. -/
def Turn.finds (t : Turn) (L : Ledger) : Option Process :=
  L.slot.map fun w => t.idle w.process

section Run

variable {i : Interpreter} {source : String} {t : Turn} {L : Ledger} {s : Ledger × Stage}
  {e : RunEnd} {n m : ℕ}

/-- **After so many steps**, and ever after, the slot and the ending are as given. -/
def Ends (i : Interpreter) (source : String) (t : Turn) (n : ℕ) (s : Ledger × Stage)
    (e : RunEnd) : Prop :=
  ∀ m, n ≤ m → ((step source t)^[m] s).1.slot.map Held.process = e.slot ∧
    ((step source t)^[m] s).2.attempt i = e.attempt

lemma Ends.mono (h : Ends i source t n s e) (hnm : n ≤ m) : Ends i source t m s e :=
  fun k hk => h k (Nat.le_trans hnm hk)

/-- One step before. -/
lemma Ends.of_step (h : Ends i source t n (step source t s) e) : Ends i source t (n + 1) s e := by
  intro m hm
  obtain ⟨m, rfl⟩ := Nat.exists_eq_add_of_le' (Nat.le_trans (Nat.le_add_left 1 n) hm)
  rw [Function.iterate_succ_apply]
  exact h m (by omega)

/-- A run that is over, or waits forever, stays as it is. -/
lemma Ends.of_fixed (fixed : step source t s = s) (slot : s.1.slot.map Held.process = e.slot)
    (attempt : s.2.attempt i = e.attempt) : Ends i source t 0 s e := by
  intro m _
  rw [Function.iterate_fixed fixed]
  exact ⟨slot, attempt⟩

/-- A worker that was sent the bindings. -/
lemma ends_ask (slot : L.slot = none) (w : Held) :
    Ends i source t 2 (L.ask w (.run t.bindings)) (i.runOn w.process t.bindings) := by
  cases he : exchange w.process (.run t.bindings) with
  | replied reply left =>
    refine (Ends.of_step (.of_fixed ?_ ?_ ?_)).mono (Nat.le_succ 1) <;>
      simp [step, Ledger.ask, Ledger.hear, Stage.attempt, Interpreter.runOn, he]
  | broken fault =>
    refine .of_step (.of_step (.of_fixed ?_ ?_ ?_)) <;>
      simp [step, Ledger.ask, Ledger.lose, Stage.attempt, Interpreter.runOn, he, slot]
  | stuck =>
    refine (Ends.of_fixed ?_ ?_ ?_).mono (Nat.zero_le 2) <;>
      simp [step, Ledger.ask, Stage.attempt, Interpreter.runOn, he, slot]

/-- A new worker. -/
lemma ends_start (slot : L.slot = none) :
    Ends i source t 3 (L.start source t.launch)
      ((t.interpreter i).run source none t.bindings) := by
  unfold Turn.interpreter
  cases hl : t.launch with
  | error why =>
    refine (Ends.of_fixed ?_ ?_ ?_).mono (Nat.zero_le 3) <;>
      simp [step, Ledger.start, Stage.attempt, Interpreter.run, Interpreter.startWorker, slot,
        Interpreter.failure]
  | ok p =>
    cases he : exchange p (.compile source) with
    | stuck =>
      refine (Ends.of_fixed ?_ ?_ ?_).mono (Nat.zero_le 3) <;>
        simp [step, Ledger.start, Ledger.ask, Stage.attempt, Interpreter.run,
          Interpreter.startWorker, he, slot]
    | broken fault =>
      refine (Ends.of_step (.of_fixed ?_ ?_ ?_)).mono (Nat.le_add_left 1 2) <;>
        simp [step, Ledger.start, Ledger.ask, Ledger.lose, Stage.attempt, Interpreter.run,
          Interpreter.startWorker, he, slot, Interpreter.failure]
    | replied reply left =>
      cases herror : reply.error with
      | some text =>
        refine (Ends.of_step (.of_step (.of_fixed ?_ ?_ ?_))).mono (Nat.le_succ 2) <;>
          simp [step, Ledger.start, Ledger.ask, Ledger.hear, Stage.attempt, Interpreter.run,
            Interpreter.startWorker, he, herror, slot, Interpreter.failure]
      | none =>
        let compiled : Ledger :=
          ⟨L.slot, L.starts ++ [.ok p], L.log ++ [(L.starts.length, .compile source)]⟩
        have hask : Ends i source t 2 (compiled.ask ⟨L.starts.length, left⟩ (.run t.bindings))
            (i.runOn left t.bindings) := ends_ask (L := compiled) slot _
        have hstep : step source t (L.start source (.ok p)) =
            compiled.ask ⟨L.starts.length, left⟩ (.run t.bindings) := by
          simp [compiled, step, Ledger.start, Ledger.ask, Ledger.hear, he, herror]
        have hrun : Interpreter.run { i with launch := .ok p } source none t.bindings =
            i.runOn left t.bindings := by
          simp only [Interpreter.run, Interpreter.startWorker, he, herror]
          rfl
        rw [hrun]
        refine .of_step ?_
        rw [hstep]
        exact hask

/-- **A run that is not given up is a run of the interpreter**: it leaves the same worker in the
slot, and it ends in the same way. -/
theorem turn_eq_run (i : Interpreter) (source : String) (L : Ledger) (patient : 3 ≤ t.patience) :
    (L.turn source t).1.slot.map Held.process =
        ((t.interpreter i).run source (t.finds L) t.bindings).slot ∧
      (L.turn source t).2.attempt i =
        ((t.interpreter i).run source (t.finds L) t.bindings).attempt := by
  have ends : Ends i source t 4 (L, .admitted)
      ((t.interpreter i).run source (t.finds L) t.bindings) := by
    refine .of_step ?_
    unfold Turn.finds
    cases hslot : L.slot with
    | some w =>
      have hstep : step source t (L, .admitted) = Ledger.ask { L with slot := none }
          ⟨w.number, t.idle w.process⟩ (.run t.bindings) := by
        simp [step, hslot]
      have hask : Ends i source t 2 (step source t (L, .admitted))
          (i.runOn (t.idle w.process) t.bindings) := by
        rw [hstep]
        exact ends_ask (L := { L with slot := none }) rfl ⟨w.number, t.idle w.process⟩
      exact hask.mono (Nat.le_succ 2)
    | none =>
      have hstep : step source t (L, .admitted) = L.start source t.launch := by
        simp [step, hslot]
      rw [hstep]
      exact ends_start hslot
  exact ends (t.patience + 1) (Nat.succ_le_succ patient)

end Run

/-! ## What runs leave behind -/

/-- The stage is the end of a run with a reply to its bindings. -/
def Stage.Answered (s : Stage) : Prop :=
  ∃ reply, s = .answered reply

section Turn

variable {source : String} {t : Turn} {L L' : Ledger} {w w' : Held} {reply : Reply}

/-- Only one worker gets the bindings. -/
lemma Serves.unique (h : Serves source t L w) (h' : Serves source t L w') : w = w' := by
  cases h with
  | kept slot =>
    cases h' with
    | kept slot' => rw [Option.some.inj (slot.symm.trans slot')]
    | fresh slot' => exact nomatch slot.symm.trans slot'
  | fresh slot launch compiled =>
    cases h' with
    | kept slot' => exact nomatch slot.symm.trans slot'
    | fresh slot' launch' compiled' =>
      obtain rfl := Except.ok.inj (launch.symm.trans launch')
      rw [(compiled.unique compiled').2]

namespace Progress

variable {s : Ledger × Stage}

/-- A run without a reply has left nothing in the slot. -/
lemma unanswered {q : Request} {stage : Stage} (slot : L.slot = none)
    (h : stage.Unanswered w q) : L.slot = some w' ↔ ∃ worker reply left,
      stage = .answered reply ∧ Serves source t L' worker ∧
        Answers worker.process (.run t.bindings) reply left ∧ w' = ⟨worker.number, left⟩ := by
  rcases h with rfl | ⟨fault, rfl | rfl⟩ <;> simp [slot]

/-- **The slot after a run** holds the worker that answered, and nothing if none did. -/
lemma slot_iff (h : Progress source t L s) (w : Held) :
    s.1.slot = some w ↔
      ∃ worker reply left, s.2 = .answered reply ∧ Serves source t L worker ∧
        Answers worker.process (.run t.bindings) reply left ∧ w = ⟨worker.number, left⟩ := by
  cases h with
  | notStarted slot launch => simp [slot]
  | compiling slot launch stage => exact unanswered (L.ready_slot source t) stage
  | running serves stage => exact unanswered (L.served_slot source t _) stage
  | @answered worker reply left serves answers =>
    constructor
    · intro hw
      exact ⟨worker, reply, left, rfl, serves, answers, (Option.some.inj hw).symm⟩
    · rintro ⟨worker', reply', left', -, serves', answers', rfl⟩
      obtain rfl := serves.unique serves'
      rw [(answers.unique answers').2]

/-- A run that has a reply has it from the worker that got its bindings. -/
lemma of_answered (h : Progress source t L s) (hs : s.2 = .answered reply) :
    ∃ worker left, Serves source t L worker ∧
      Answers worker.process (.run t.bindings) reply left := by
  cases h with
  | notStarted slot launch => exact nomatch hs
  | compiling slot launch stage => rcases stage with rfl | ⟨fault, rfl | rfl⟩ <;> exact nomatch hs
  | running serves stage => rcases stage with rfl | ⟨fault, rfl | rfl⟩ <;> exact nomatch hs
  | answered serves answers =>
    injection hs with hs
    exact ⟨_, _, serves, hs ▸ answers⟩

/-- The slot is filled just by a reply to the bindings. -/
lemma isSome_slot_iff (h : Progress source t L s) : s.1.slot.isSome ↔ s.2.Answered := by
  constructor
  · intro hs
    obtain ⟨w, hw⟩ := Option.isSome_iff_exists.1 hs
    obtain ⟨-, reply, -, hreply, -⟩ := (h.slot_iff w).1 hw
    exact ⟨reply, hreply⟩
  · rintro ⟨reply, hreply⟩
    obtain ⟨worker, left, serves, answers⟩ := h.of_answered hreply
    rw [(h.slot_iff _).2 ⟨worker, reply, left, hreply, serves, answers, rfl⟩]
    rfl

/-- **A run starts a worker** just if it finds none in the slot. -/
lemma starts_eq (h : Progress source t L s) :
    s.1.starts = if L.slot.isSome then L.starts else L.starts ++ [t.launch] := by
  have hready : (L.ready source t).starts =
      if L.slot.isSome then L.starts else L.starts ++ [t.launch] := by
    cases hslot : L.slot <;> simp [Ledger.ready, hslot]
  cases h with
  | notStarted slot launch => simp [slot]
  | compiling slot launch stage => exact hready
  | running serves stage => exact hready
  | answered serves answers => exact hready

end Progress

end Turn

/-- One run more. -/
lemma history_append (source : String) (ts : List Turn) (t : Turn) :
    history source (ts ++ [t]) =
      (((history source ts).1.turn source t).1, some ((history source ts).1.turn source t).2) := by
  rw [history, List.foldl_append]
  rfl

/-- The records are kept, and the slot tells how the last run ended. -/
lemma history_spec (source : String) (ts : List Turn) :
    Recorded source (history source ts).1 ∧
      ((history source ts).1.slot.isSome ↔ ∃ s, (history source ts).2 = some s ∧ s.Answered) := by
  induction ts using List.reverseRecOn with
  | nil => exact ⟨.empty source, by simp [history, Ledger.empty]⟩
  | append_singleton ts t ih =>
    rw [history_append]
    refine ⟨ih.1.turn t, ?_⟩
    rw [(Progress.turn source t _).isSome_slot_iff]
    simp

/-- A worker that serves and answers is left in the slot by the interpreter. -/
lemma run_slot (i : Interpreter) {source : String} {t : Turn} {L : Ledger} {worker : Held}
    {reply : Reply} {left : Process} (serves : Serves source t L worker)
    (answers : Answers worker.process (.run t.bindings) reply left) :
    ((t.interpreter i).run source (t.finds L) t.bindings).slot = some left := by
  have hrun : ((t.interpreter i).runOn worker.process t.bindings).slot = some left := by
    simp only [Interpreter.runOn, exchange_eq_replied.2 answers]
  cases serves with
  | kept slot => simpa [Turn.finds, slot, Interpreter.run] using hrun
  | @fresh p p' compileReply slot launch compiled accepted =>
    have hstart : (t.interpreter i).startWorker source =
        .replied ⟨compileReply.result, none⟩ p' := by
      simp only [Interpreter.startWorker, Turn.interpreter, launch,
        exchange_eq_replied.2 compiled, accepted]
    simpa [Turn.finds, slot, Interpreter.run, hstart] using hrun

/-- A run that is not given up has a reply just if the worker that gets its bindings answers. -/
lemma answered_iff (source : String) {t : Turn} (L : Ledger) (patient : 3 ≤ t.patience)
    (reply : Reply) : (L.turn source t).2 = .answered reply ↔
      ∃ worker left, Serves source t L worker ∧
        Answers worker.process (.run t.bindings) reply left := by
  have hp := Progress.turn source t L
  constructor
  · exact hp.of_answered
  · rintro ⟨worker, left, serves, answers⟩
    have hslot := (turn_eq_run ⟨"", "", t.launch⟩ source L patient).1
    rw [run_slot _ serves answers] at hslot
    obtain ⟨w, hw, -⟩ := Option.map_eq_some_iff.1 hslot
    obtain ⟨worker', reply', left', hreply, serves', answers', -⟩ := (hp.slot_iff w).1 hw
    obtain rfl := serves.unique serves'
    rw [(answers.unique answers').1, hreply]

/-- A run of the script of an interpreter, which starts a worker always in the same way. -/
def Turn.ofPast (i : Interpreter) (p : Past) : Turn :=
  ⟨i.launch, id, p.bindings, if p.completed then 3 else 0⟩

/-- The script of an interpreter keeps the worker in the slot. -/
lemma slot_history (i : Interpreter) (source : String) (past : List Past) :
    past.foldl (fun slot p => if p.completed then (i.run source slot p.bindings).slot else none)
        none =
      (history source (past.map (Turn.ofPast i))).1.slot.map Held.process := by
  induction past using List.reverseRecOn with
  | nil => rfl
  | append_singleton past p ih =>
    rw [List.foldl_append, ih, List.map_append, List.map_singleton, history_append]
    generalize (history source (past.map (Turn.ofPast i))).1 = L
    have hfinds : (Turn.ofPast i p).finds L = L.slot.map Held.process := rfl
    have hinterpreter : (Turn.ofPast i p).interpreter i = i := rfl
    cases hp : p.completed with
    | true =>
      have patient : 3 ≤ (Turn.ofPast i p).patience := by simp [Turn.ofPast, hp]
      rw [(turn_eq_run i source L patient).1, hfinds, hinterpreter]
      simp [hp, Turn.ofPast]
    | false =>
      have hslot : (L.turn source (Turn.ofPast i p)).1.slot = none := by
        have hone : L.turn source (Turn.ofPast i p) =
            step source (Turn.ofPast i p) (L, .admitted) := by
          simp [Ledger.turn, Turn.ofPast, hp]
        rw [hone, step]
        cases hslot : L.slot with
        | some w => rfl
        | none =>
          simp only [Ledger.start]
          split
          · exact hslot
          · exact hslot
      rw [hslot]
      simp [hp]

/-- **What the script of an interpreter answers** is how the run ends, after runs of which some were
left to end and the others were given up as soon as they waited. -/
theorem respond_eq_attempt (i : Interpreter) (source : String) (past : List Past) (b : Bindings) :
    (i.script source).respond past b =
      ((history source (past.map (Turn.ofPast i))).1.turn source
        (Turn.ofPast i ⟨b, true⟩)).2.attempt i := by
  have patient : 3 ≤ (Turn.ofPast i ⟨b, true⟩).patience := Nat.le_refl 3
  rw [(turn_eq_run i source _ patient).2]
  simp only [Interpreter.script, Script.ofMachine, slot_history]
  rfl

/-- **What runs leave behind.** After any runs of a script, take one more, which is left to end or
given up wherever it waits.

* There is a worker in the slot just if that run has got a well-formed reply to its bindings, and it
  is then the worker that gave this reply.
* A run that is not given up gets such a reply just if the worker that serves it answers; it is then
  a run of the interpreter, in what it leaves in the slot and in how it ends.
* The run starts a worker just if it is the first one or the run before it has got no such reply.
* An error of the script is such a reply, so that the next run starts nothing.
* After any other ending, as that of a script that does not compile, the next run starts a worker
  and has it compile the script, if it can be started.
* Each worker that was started was sent the script once, before all else, and then only bindings. -/
theorem slot_after_runs (i : Interpreter) (source : String) (ts : List Turn) (t : Turn)
    {before now : Ledger} {last : Option Stage} {stage : Stage}
    (hbefore : history source ts = (before, last)) (hnow : before.turn source t = (now, stage)) :
    (now.slot.isSome ↔ stage.Answered) ∧
    (∀ reply, stage = .answered reply → ∃ worker left, Serves source t before worker ∧
      Answers worker.process (.run t.bindings) reply left ∧
      now.slot = some ⟨worker.number, left⟩) ∧
    (3 ≤ t.patience →
      (∀ reply, stage = .answered reply ↔ ∃ worker left, Serves source t before worker ∧
        Answers worker.process (.run t.bindings) reply left) ∧
      now.slot.map Held.process =
        ((t.interpreter i).run source (t.finds before) t.bindings).slot ∧
      stage.attempt i = ((t.interpreter i).run source (t.finds before) t.bindings).attempt) ∧
    ((∃ s, last = some s ∧ s.Answered) → now.starts = before.starts) ∧
    ((∀ s, last = some s → ¬ s.Answered) → now.starts = before.starts ++ [t.launch]) ∧
    (∀ reply text, stage = .answered reply → reply.error = some text →
      stage.attempt i = .now (.error (.script text)) ∧
      ∀ next, (now.turn source next).1.starts = now.starts) ∧
    (¬ stage.Answered → ∀ next, (now.turn source next).1.starts = now.starts ++ [next.launch] ∧
      ∀ p, next.launch = .ok p → ∃ bs : List Bindings,
        (now.turn source next).1.asked now.starts.length = .compile source :: bs.map .run) ∧
    Recorded source now := by
  obtain ⟨recorded, hlast⟩ := history_spec source ts
  have hp := Progress.turn source t before
  have heach := answered_iff (t := t) source before
  have hrun := turn_eq_run (t := t) i source before
  rw [hbefore] at recorded hlast
  have kept : Recorded source now := by
    have h := recorded.turn t
    rwa [hnow] at h
  rw [hnow] at hp heach hrun
  have hslot := hp.isSome_slot_iff
  have hnext := fun next => (Progress.turn source next now).starts_eq
  refine ⟨hslot, fun reply hreply => ?_, fun patient => ⟨heach patient, hrun patient⟩,
    fun h => ?_, fun h => ?_, fun reply text hreply htext => ⟨?_, fun next => ?_⟩,
    fun h next => ⟨?_, fun p hlaunch => ?_⟩, kept⟩
  · obtain ⟨worker, left, serves, answers⟩ := hp.of_answered hreply
    exact ⟨worker, left, serves, answers,
      (hp.slot_iff _).2 ⟨worker, reply, left, hreply, serves, answers, rfl⟩⟩
  · have h := hp.starts_eq
    rwa [if_pos (hlast.2 ‹_›)] at h
  · have hnone : ¬ before.slot.isSome := fun hs => by
      obtain ⟨s, hs, hanswered⟩ := hlast.1 hs
      exact h s hs hanswered
    have h := hp.starts_eq
    rwa [if_neg hnone] at h
  · rw [hreply, Stage.attempt, Interpreter.resultOf, htext]
  · rw [hnext next, if_pos (hslot.2 ⟨reply, hreply⟩)]
  · rw [hnext next, if_neg (h ∘ hslot.1)]
  · refine (kept.turn next).asked _ ⟨p, ?_⟩
    rw [hnext next, if_neg (h ∘ hslot.1), hlaunch]
    simp

/-- A worker that replies to everything with an empty object. -/
def obliging : Process :=
  .start fun _ => { output := [123, 125, 10] }

/-- A run with this worker is followed by one that is given up while it waits for the reply. -/
theorem slot_after_runs_given_up :
    ∃ before now w reply,
      history "x" [⟨.ok obliging, id, .empty, 3⟩] = (before, some (.answered reply)) ∧
      before.slot.isSome = true ∧
      before.turn "x" ⟨.ok obliging, id, .empty, 0⟩ = (now, .asking w (.run .empty)) ∧
      now.slot.isSome = false ∧ now.starts = before.starts ∧
      now.asked 0 = [.compile "x", .run .empty, .run .empty] ∧
      ∀ next, (now.turn "x" next).1.starts = now.starts ++ [next.launch] := by
  have hbefore : ∃ before, history "x" [⟨.ok obliging, id, .empty, 3⟩] =
      (before, some (.answered ⟨.null, none⟩)) ∧ before.slot.isSome = true ∧
      ∃ now w, before.turn "x" ⟨.ok obliging, id, .empty, 0⟩ = (now, .asking w (.run .empty)) ∧
        now.asked 0 = [.compile "x", .run .empty, .run .empty] :=
    ⟨_, rfl, rfl, _, _, rfl, rfl⟩
  obtain ⟨before, hbefore, hslot, now, w, hnow, hasked⟩ := hbefore
  have hdropped : ¬ (Stage.asking w (.run .empty)).Answered := fun ⟨_, h⟩ => nomatch h
  obtain ⟨hempty, -, -, hkept, -, -, hnext, -⟩ :=
    slot_after_runs ⟨"", "", .ok obliging⟩ "x" _ _ hbefore hnow
  exact ⟨before, now, w, _, hbefore, hslot, hnow, Bool.eq_false_iff.2 (hdropped ∘ hempty.1),
    hkept ⟨_, rfl, _, rfl⟩, hasked, fun next => (hnext hdropped next).1⟩

end Lifecycle

end ScriptStage.Worker
