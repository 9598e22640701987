import ScriptStage.Engine.Python
import ScriptStage.Proofs.Worker.Answers

/-!
# Interpreters keep in step

Requests and replies are matched by their order alone: an interpreter that wrote two lines for one
request, or none, would shift the answers to all later ones. This file shows that an interpreter
writes one line for each request, whatever the operations do that it consists of, and that each line
is one that the reader of replies accepts.

The operations are arbitrary: they return or raise something, and what they return and raise may
depend on all that happened before. What a value is serialized as is JSON text on one line, as
writers of JSON have it. What is raised need not have a text: an interpreter that cannot tell what
was raised ends, and the request at which it does so and all later ones get no line at all.

## Main definitions

* `ScriptStage.Worker.Engine.WritesJson` — what is asked of the operations.
* `ScriptStage.Worker.Engine.Tells`, `TellsAll` — an interpreter can tell what goes wrong upon a
  line, and upon each of some lines.
* `ScriptStage.Worker.Process.Serves` — what a process writes upon each of some lines.
* `ScriptStage.Worker.Process.Hosts` — a process in which an interpreter has come so far.

## Main results

* `ScriptStage.Worker.Engine.tells_iff` — a line is answered if and only if the interpreter can tell
  what goes wrong upon it.
* `ScriptStage.Worker.Process.Hosts.send_ready` — one request, and one reply to it.
* `ScriptStage.Worker.Process.Hosts.serves_ready` — a run, by induction on the requests.
* `ScriptStage.Python.writesJson_engine` — the interpreter of Python is of this kind.
* `ScriptStage.Worker.Engine.keeps_in_step` — all of a run in which everything can be told.
* `ScriptStage.Worker.Engine.falls_silent` — all of a run up to the first line upon which something
  cannot be told.
* `ScriptStage.Worker.huge_integer_unanswered` — a script that makes the interpreter of Python fall
  silent.
* `ScriptStage.Worker.greatest_double_refused` — numbers that are not beyond the doubles can be
  beyond the reader.
-/

set_option autoImplicit false

namespace ScriptStage

open Json

namespace Worker

/-! ## Operations -/

section Operations

variable {ε σ α β : Type} {x : EStateM ε σ α} {s s' : σ} {a : α} {r : ε}

lemma bind_of_ok (h : x s = .ok a s') (f : α → EStateM ε σ β) : (x >>= f) s = f a s' := by
  simp only [bind, EStateM.bind, h]

lemma bind_pure_of_ok (h : x s = .ok a s') (f : α → β) :
    (x >>= fun a => pure (f a)) s = .ok (f a) s' :=
  bind_of_ok h _

lemma bind_of_error (h : x s = .error r s') (f : α → EStateM ε σ β) :
    (x >>= f) s = .error r s' := by
  simp only [bind, EStateM.bind, h]

lemma tryCatch_of_ok (h : x s = .ok a s') (handler : ε → EStateM ε σ α) :
    tryCatch x handler s = .ok a s' := by
  simp only [tryCatch, tryCatchThe, MonadExceptOf.tryCatch, EStateM.tryCatch, h]

/-- What has changed by the time something is raised stays changed. -/
lemma tryCatch_of_error (h : x s = .error r s') (handler : ε → EStateM ε σ α) :
    tryCatch x handler s = handler r s' := by
  simp only [tryCatch, tryCatchThe, MonadExceptOf.tryCatch, EStateM.tryCatch, h]
  rfl

end Operations

/-- **What was raised has a text.** -/
def Raised.IsShown (r : Raised) : Prop :=
  ∃ kind text, r = .shown kind text

/-- **The outcome of a run**: a result or an error. -/
def Answer.IsOutcome : Answer → Prop
  | ready => False
  | _ => True

namespace Engine

variable {σ π ν : Type}

/-- **Values are serialized as JSON text on one line.** -/
def WritesJson (e : Engine σ π ν) : Prop :=
  ∀ v s t s', e.serialize v s = .ok t s' → IsValue t ∧ OneLine t

/-- **The interpreter can tell what goes wrong upon a line.** What is raised while a script is
prepared or run has a text. What is raised while a value is serialized has one, or what asking for
it raises has one: that is told like what a run raises. -/
def Tells (e : Engine σ π ν) : Stage σ π → List Char → Prop
  | .awaiting s, line => ∀ r s', e.prepare line s = .error r s' → r.IsShown
  | .ready p s, line =>
    (∀ r s', e.run p line s = .error r s' → r.IsShown) ∧
    ∀ v s' r s'', e.run p line s = .ok v s' → e.serialize v s' = .error r s'' →
      r.IsShown ∨ ∃ other, r = .silent other ∧ other.IsShown
  | .ended _, _ => True

/-- **It can tell what goes wrong upon each of some lines.** -/
def TellsAll (e : Engine σ π ν) : Stage σ π → List (List Char) → Prop
  | _, [] => True
  | stage, line :: lines => e.Tells stage line ∧ e.TellsAll (e.step stage line).2 lines

variable {e : Engine σ π ν}

/-- **The first request**: the script is prepared, or what went wrong is told, or the interpreter
ends. -/
lemma step_awaiting (e : Engine σ π ν) (line : List Char) (s : σ) :
    (∃ p s', e.prepare line s = .ok p s' ∧ e.Tells (.awaiting s) line ∧
      e.step (.awaiting s) line = (some .ready, .ready p s')) ∨
    (∃ r s' text, e.prepare line s = .error r s' ∧ e.Tells (.awaiting s) line ∧
      e.step (.awaiting s) line = (some (.error text), .ended (.exited failureCode))) ∨
    (¬ e.Tells (.awaiting s) line ∧
      ∃ r, e.step (.awaiting s) line = (none, .ended (e.leave r))) := by
  cases h : e.prepare line s with
  | ok p s' =>
    have hbegin : e.begin line s = .ok (some p, .ready) s' :=
      tryCatch_of_ok (bind_pure_of_ok h _) _
    have tells : e.Tells (.awaiting s) line := fun r s'' hr => nomatch h.symm.trans hr
    exact .inl ⟨p, s', rfl, tells, by simp only [step, hbegin]⟩
  | error r s' =>
    cases r with
    | shown kind text =>
      have hbegin : e.begin line s = .ok (none, .error (kind ++ Text.units ": " ++ text)) s' :=
        tryCatch_of_error (bind_of_error h _) _
      refine .inr (.inl ⟨_, s', kind ++ Text.units ": " ++ text, rfl, fun r s'' hr => ?_, by
        simp only [step, hbegin]⟩)
      obtain ⟨rfl, -⟩ := EStateM.Result.error.inj (h.symm.trans hr)
      exact ⟨kind, text, rfl⟩
    | silent other =>
      have hbegin : e.begin line s = .error other s' := tryCatch_of_error (bind_of_error h _) _
      refine .inr (.inr ⟨fun tells => ?_, other, by simp only [step, hbegin]⟩)
      obtain ⟨_, _, hr⟩ := tells _ _ h
      exact nomatch hr

/-- A value is reported, as a result or with the reason why it has no JSON text, unless that has no
text. -/
lemma report_cases (e : Engine σ π ν) (v : ν) (s : σ) :
    (∃ a s', e.report v s = .ok a s' ∧ a.IsOutcome ∧ (e.WritesJson → a.Formed) ∧
      ∀ r s', e.serialize v s = .error r s' → r.IsShown) ∨
    ∃ other s', e.report v s = .error other s' ∧ e.serialize v s = .error (.silent other) s' := by
  cases h : e.serialize v s with
  | ok t s' =>
    exact .inl ⟨.result t, s', tryCatch_of_ok (bind_pure_of_ok h _) _, trivial,
      fun writes => writes v s t s' h, fun r s'' hr => nomatch hr⟩
  | error r s' =>
    cases r with
    | shown kind text =>
      refine .inl ⟨_, s', tryCatch_of_error (bind_of_error h _) _, trivial, fun _ => trivial,
        fun r s'' hr => ?_⟩
      obtain ⟨rfl, -⟩ := EStateM.Result.error.inj hr
      exact ⟨kind, text, rfl⟩
    | silent other => exact .inr ⟨other, s', tryCatch_of_error (bind_of_error h _) _, rfl⟩

/-- What is told at the end of a request is told if it has a text; if not, the interpreter ends. -/
lemma step_ready_of_tell {p : π} {line : List Char} {s s' : σ} {r : Raised}
    (hanswer : e.answer p line s = tell r s') :
    (r.IsShown ∧ ∃ text, e.step (.ready p s) line = (some (.error text), .ready p s')) ∨
      (¬ r.IsShown ∧ ∃ other, e.step (.ready p s) line = (none, .ended (e.leave other))) := by
  cases r with
  | shown kind text => exact .inl ⟨⟨kind, text, rfl⟩, _, by rw [step, hanswer]; rfl⟩
  | silent other =>
    exact .inr ⟨fun ⟨_, _, h⟩ => (nomatch h), other, by rw [step, hanswer]; rfl⟩

/-- **A further request**: there is a result, or what went wrong is told, or the interpreter
ends. -/
lemma step_ready (e : Engine σ π ν) (p : π) (line : List Char) (s : σ) :
    (∃ a s', e.Tells (.ready p s) line ∧ e.step (.ready p s) line = (some a, .ready p s') ∧
      a.IsOutcome ∧ (e.WritesJson → a.Formed)) ∨
    (¬ e.Tells (.ready p s) line ∧
      ∃ r, e.step (.ready p s) line = (none, .ended (e.leave r))) := by
  cases hrun : e.run p line s with
  | error r s' =>
    have hanswer : e.answer p line s = tell r s' := tryCatch_of_error (bind_of_error hrun _) _
    rcases step_ready_of_tell hanswer with ⟨shown, text, hstep⟩ | ⟨unshown, other, hstep⟩
    · refine .inl ⟨.error text, s', ⟨fun r' s'' hr => ?_,
        fun v s'' _ _ hv => nomatch hrun.symm.trans hv⟩, hstep, trivial, fun _ => trivial⟩
      obtain ⟨rfl, -⟩ := EStateM.Result.error.inj (hrun.symm.trans hr)
      exact shown
    · exact .inr ⟨fun tells => unshown (tells.1 r s' hrun), other, hstep⟩
  | ok v s' =>
    have runs : ∀ r s'', e.run p line s = .error r s'' → r.IsShown :=
      fun r s'' hr => nomatch hrun.symm.trans hr
    rcases e.report_cases v s' with ⟨a, s'', hreport, outcome, formed, shown⟩ |
      ⟨other, s'', hreport, hwrite⟩
    · have hanswer : e.answer p line s = .ok a s'' :=
        tryCatch_of_ok ((bind_of_ok hrun _).trans hreport) _
      refine .inl ⟨a, s'', ⟨runs, fun v' s₁ r s₂ hv hr => ?_⟩, by rw [step, hanswer], outcome,
        formed⟩
      obtain ⟨rfl, rfl⟩ := EStateM.Result.ok.inj (hrun.symm.trans hv)
      exact .inl (shown r s₂ hr)
    -- what asking for the reason raised is told, if it can be, like what a run raises
    · have hanswer : e.answer p line s = tell other s'' :=
        tryCatch_of_error ((bind_of_ok hrun _).trans hreport) _
      rcases step_ready_of_tell hanswer with ⟨shown, text, hstep⟩ | ⟨unshown, more, hstep⟩
      · refine .inl ⟨.error text, s'', ⟨runs, fun v' s₁ r s₂ hv hr => ?_⟩, hstep, trivial,
          fun _ => trivial⟩
        obtain ⟨rfl, rfl⟩ := EStateM.Result.ok.inj (hrun.symm.trans hv)
        obtain ⟨rfl, -⟩ := EStateM.Result.error.inj (hwrite.symm.trans hr)
        exact .inr ⟨other, rfl, shown⟩
      · refine .inr ⟨fun tells => ?_, more, hstep⟩
        rcases tells.2 _ _ _ _ hrun hwrite with ⟨_, _, hr⟩ | ⟨_, hr, hother⟩
        · exact nomatch hr
        · exact unshown (Raised.silent.inj hr ▸ hother)

/-- A line upon which everything can be told is answered; upon any other one the interpreter ends
without an answer. -/
lemma step_cases (e : Engine σ π ν) {stage : Stage σ π} (h : ∀ status, stage ≠ .ended status)
    (line : List Char) : (e.Tells stage line ∧ (e.step stage line).1.isSome = true) ∨
      (¬ e.Tells stage line ∧ ∃ r, e.step stage line = (none, .ended (e.leave r))) := by
  cases stage with
  | awaiting s =>
    rcases e.step_awaiting line s with ⟨p, s', -, tells, hstep⟩ | ⟨r, s', text, -, tells, hstep⟩ |
      silent
    · exact .inl ⟨tells, by rw [hstep]; rfl⟩
    · exact .inl ⟨tells, by rw [hstep]; rfl⟩
    · exact .inr silent
  | ready p s =>
    rcases e.step_ready p line s with ⟨a, s', tells, hstep, -⟩ | silent
    · exact .inl ⟨tells, by rw [hstep]; rfl⟩
    · exact .inr silent
  | ended status => exact absurd rfl (h status)

/-- An interpreter that has ended stays so. -/
lemma foldl_ended (e : Engine σ π ν) (status : ExitStatus) (lines : List (List Char)) :
    lines.foldl (fun s line => (e.step s line).2) (.ended status) = .ended status := by
  induction lines with
  | nil => rfl
  | cons line lines ih => exact ih

/-- **A line is answered** if and only if the interpreter can tell what goes wrong upon it, unless
it has ended. -/
theorem tells_iff (e : Engine σ π ν) (stage : Stage σ π) (line : List Char) :
    e.Tells stage line ↔
      (∃ status, stage = .ended status) ∨ (e.step stage line).1.isSome = true := by
  by_cases h : ∃ status, stage = .ended status
  · obtain ⟨status, rfl⟩ := h
    exact iff_of_true trivial (.inl ⟨status, rfl⟩)
  · rcases e.step_cases (not_exists.1 h) line with ⟨tells, answered⟩ | ⟨untold, r, hstep⟩
    · exact iff_of_true tells (.inr answered)
    · exact iff_of_false untold fun hor => hor.elim h (by rw [hstep]; nofun)

/-- What the interpreter writes upon each of some lines. -/
def answers (e : Engine σ π ν) : Stage σ π → List (List Char) → List (Option Answer)
  | _, [] => []
  | stage, line :: lines => (e.step stage line).1 :: e.answers (e.step stage line).2 lines

lemma tellsAll_of_answers {stage : Stage σ π} {lines : List (List Char)}
    (h : ∀ a ∈ e.answers stage lines, a.isSome = true) : e.TellsAll stage lines := by
  induction lines generalizing stage with
  | nil => trivial
  | cons line lines ih =>
    rw [answers, List.forall_mem_cons] at h
    exact ⟨(e.tells_iff stage line).2 (.inr h.1), ih h.2⟩

end Engine

/-! ## Requests -/

namespace Process

/-- **What a process writes upon each of some lines**, and what becomes of it. -/
inductive Serves : Process → List (List Char) → List (List UInt8) → Process → Prop
  | nil (p : Process) : Serves p [] [] p
  | cons {p q last : Process} {line : List Char} {lines : List (List Char)} {out : List UInt8}
      {outs : List (List UInt8)} (sent : p.send line = some q) (wrote : q.unread = p.unread ++ out)
      (more : Serves q lines outs last) : Serves p (line :: lines) (out :: outs) last

/-- Nothing happens upon lines that are sent to a process that has ended. -/
lemma serves_ended {p : Process} (hinput : p.inputOpen = true) (hstatus : p.status.isSome = true)
    (lines : List (List Char)) : Serves p lines (lines.map fun _ => []) p := by
  induction lines with
  | nil => exact .nil p
  | cons line lines ih =>
    have hsend : p.send line = some p := by
      simp only [send, hinput, hstatus, Bool.not_true, Bool.false_eq_true, if_false, if_true]
    exact .cons hsend (List.append_nil _).symm ih

variable {σ π ν : Type} {e : Engine σ π ν} {stage : Stage σ π} {p : Process}

/-- **A process in which an interpreter has come so far.** -/
structure Hosts (e : Engine σ π ν) (stage : Stage σ π) (p : Process) : Prop where
  behaviour : p.behaviour = e.behaviour
  received : e.stage p.received = stage
  inputOpen : p.inputOpen = true
  outputOpen : p.outputOpen = true
  running : p.status = none

lemma hosts_start (e : Engine σ π ν) : Hosts e (.awaiting e.start) (.start e.behaviour) :=
  ⟨rfl, rfl, rfl, rfl, rfl⟩

lemma stage_concat (e : Engine σ π ν) (lines : List (List Char)) (line : List Char) :
    e.stage (lines ++ [line]) = (e.step (e.stage lines) line).2 := by
  simp only [Engine.stage, List.foldl_append, List.foldl_cons, List.foldl_nil]

namespace Hosts

/-- What the process does upon a line is what the interpreter does. -/
lemma behaviour_concat (h : Hosts e stage p) (line : List Char) :
    p.behaviour (p.received ++ [line]) = e.react stage line := by
  simp only [h.behaviour, Engine.behaviour, List.getLast?_concat, List.dropLast_concat, h.received]

/-- **A request is answered by one line**, and the interpreter goes on. -/
lemma send_ready (h : Hosts e stage p) {line : List Char} {a : Answer} {prepared : π} {s : σ}
    (hstep : e.step stage line = (some a, .ready prepared s)) :
    ∃ q, p.send line = some q ∧ q.unread = p.unread ++ Text.encode a.line ∧
      Hosts e (.ready prepared s) q := by
  have hreact : e.react stage line = { output := Text.encode a.line } := by
    rw [Engine.react, hstep]
  refine ⟨{ p with
    received := p.received ++ [line]
    unread := p.unread ++ Text.encode a.line }, ?_, rfl, h.behaviour, ?_, h.inputOpen,
    h.outputOpen, h.running⟩
  · simp only [send, h.inputOpen, h.outputOpen, h.running, h.behaviour_concat, hreact]
    rfl
  · rw [stage_concat, h.received, hstep]

/-- **An interpreter that ends upon a line** answers it by one line or by none. -/
lemma send_ended (h : Hosts e stage p) {line : List Char} {a : Option Answer}
    {status : ExitStatus} (hstep : e.step stage line = (a, .ended status)) :
    ∃ q, p.send line = some q ∧
      q.unread = p.unread ++ a.elim [] (fun a => Text.encode a.line) ∧
      q.inputOpen = true ∧ q.status = some status := by
  have hreact : e.react stage line =
      { output := a.elim [] fun a => Text.encode a.line
        ends := some status } := by
    rw [Engine.react, hstep]
    cases a <;> rfl
  refine ⟨{ p with
    received := p.received ++ [line]
    unread := p.unread ++ a.elim [] fun a => Text.encode a.line
    outputOpen := false
    status := some status }, ?_, rfl, h.inputOpen, rfl⟩
  simp only [send, h.inputOpen, h.outputOpen, h.running, h.behaviour_concat, hreact]
  rfl

/-- **Requests with bindings are answered by one line each**, and the interpreter never ends, as
long as it can tell what goes wrong.

**Proof sketch.** Induction on the requests: the interpreter is ready again after each of them,
whether its answer is a result or an error. -/
lemma serves_ready (writes : e.WritesJson) {prepared : π} {s : σ}
    (h : Hosts e (.ready prepared s) p) {lines : List (List Char)}
    (tells : e.TellsAll (.ready prepared s) lines) :
    ∃ outs last, Serves p lines outs last ∧ last.status = none ∧
      ∀ out ∈ outs, IsReplyLine "result" out ∨ IsReplyLine "error" out := by
  induction lines generalizing p s with
  | nil => exact ⟨[], p, .nil p, h.running, List.forall_mem_nil _⟩
  | cons line lines ih =>
    obtain ⟨hline, hlines⟩ := tells
    rcases e.step_ready prepared line s with ⟨a, s', -, hstep, outcome, formed⟩ | ⟨hnot, -⟩
    · rw [hstep] at hlines
      obtain ⟨q, hsend, hunread, hq⟩ := h.send_ready hstep
      obtain ⟨outs, last, hserves, hstatus, houts⟩ := ih hq hlines
      refine ⟨_ :: outs, last, .cons hsend hunread hserves, hstatus,
        List.forall_mem_cons.2 ⟨?_, houts⟩⟩
      cases a with
      | ready => exact outcome.elim
      | result text => exact .inl (formed writes).isReplyLine
      | error text => exact .inr (formed writes).isReplyLine
    · exact absurd hline hnot

/-- **A line upon which something cannot be told** is not answered, and neither is any after it. -/
lemma serves_silent (h : Hosts e stage p) {line : List Char} (untold : ¬ e.Tells stage line)
    (after : List (List Char)) :
    ∃ r last, Serves p (line :: after) ([] :: after.map fun _ => []) last ∧
      last.status = some (e.leave r) := by
  have hstage : ∀ status, stage ≠ .ended status := by
    rintro status rfl
    exact untold trivial
  obtain ⟨-, r, hstep⟩ := (e.step_cases hstage line).resolve_left fun told => untold told.1
  obtain ⟨q, hsend, hunread, hinput, hstatus⟩ := h.send_ended hstep
  exact ⟨r, q, .cons hsend hunread (serves_ended hinput (by rw [hstatus]; rfl) after), hstatus⟩

/-- **Lines up to one upon which something cannot be told** are answered by one line each.

**Proof sketch.** Induction on the lines in front of it. The interpreter is ready after each of
them: had it ended, it would have nothing to tell any more. -/
lemma serves_until (writes : e.WritesJson) (h : Hosts e stage p) {before : List (List Char)}
    {line : List Char} (tells : e.TellsAll stage before)
    (untold : ¬ e.Tells (before.foldl (fun s l => (e.step s l).2) stage) line)
    (after : List (List Char)) :
    ∃ outs r last,
      Serves p (before ++ line :: after) (outs ++ [] :: after.map fun _ => []) last ∧
      outs.length = before.length ∧ (∀ out ∈ outs, ∃ key ∈ Answer.keys, IsReplyLine key out) ∧
      last.status = some (e.leave r) := by
  induction before generalizing stage p with
  | nil =>
    obtain ⟨r, last, serves, hstatus⟩ := h.serves_silent untold after
    exact ⟨[], r, last, serves, rfl, List.forall_mem_nil _, hstatus⟩
  | cons l before ih =>
    obtain ⟨hl, hbefore⟩ := tells
    have ready : ∃ a prepared s, e.step stage l = (some a, .ready prepared s) ∧ a.Formed := by
      cases stage with
      | awaiting s =>
        rcases e.step_awaiting l s with ⟨prepared, s', -, -, hstep⟩ | ⟨r, s', text, -, -, hstep⟩ |
          ⟨hnot, -⟩
        · exact ⟨_, _, _, hstep, trivial⟩
        · rw [List.foldl_cons, hstep, e.foldl_ended] at untold
          exact absurd trivial untold
        · exact absurd hl hnot
      | ready prepared s =>
        rcases e.step_ready prepared l s with ⟨a, s', -, hstep, -, formed⟩ | ⟨hnot, -⟩
        · exact ⟨_, _, _, hstep, formed writes⟩
        · exact absurd hl hnot
      | ended status =>
        rw [List.foldl_cons, Engine.step, e.foldl_ended] at untold
        exact absurd trivial untold
    obtain ⟨a, prepared, s, hstep, formed⟩ := ready
    rw [List.foldl_cons, hstep] at untold
    rw [hstep] at hbefore
    obtain ⟨q, hsend, hunread, hq⟩ := h.send_ready hstep
    obtain ⟨outs, r, last, serves, hlength, houts, hstatus⟩ := ih hq hbefore untold
    exact ⟨_ :: outs, r, last, .cons hsend hunread serves, congrArg (· + 1) hlength,
      List.forall_mem_cons.2 ⟨⟨_, a.key_mem, formed.isReplyLine⟩, houts⟩, hstatus⟩

end Hosts

/-- The process is ready after a script that can be prepared. -/
lemma exists_hosts_ready {first : List Char} {prepared : π} {s : σ}
    (hprepare : e.prepare first e.start = .ok prepared s) :
    ∃ q, (Process.start e.behaviour).send first = some q ∧
      q.unread = Text.encode Answer.ready.line ∧ Hosts e (.ready prepared s) q ∧
      e.stage [first] = .ready prepared s := by
  rcases e.step_awaiting first e.start with ⟨p', s', hp, -, hstep⟩ | ⟨r, s', _, hr, -⟩ |
    ⟨hnot, -⟩
  · obtain ⟨rfl, rfl⟩ := EStateM.Result.ok.inj (hprepare.symm.trans hp)
    obtain ⟨q, hsend, hunread, hq⟩ := (hosts_start e).send_ready hstep
    exact ⟨q, hsend, hunread, hq, congrArg Prod.snd hstep⟩
  · exact nomatch hprepare.symm.trans hr
  · exact absurd (fun r s' hr => nomatch hprepare.symm.trans hr) hnot

end Process

end Worker

/-! ## The interpreter of Python -/

namespace Python

open Worker (Document)

lemma prepared_of_toBool {line : List Char} (h : (prepare line).toBool = true) :
    ∃ p s, engine.prepare line engine.start = .ok p s := by
  have hengine : engine.prepare line engine.start =
      (MonadExcept.ofExcept (prepare line) : EStateM Worker.Raised Unit Prepared) () := rfl
  cases hp : prepare line with
  | ok p =>
    rw [hp] at hengine
    exact ⟨p, (), hengine⟩
  | error r =>
    rw [hp] at h
    exact nomatch h

/-- **Values are serialized as JSON text on one line.** -/
lemma writesJson_engine : engine.WritesJson := by
  intro v s t s' h
  cases hd : toDocument v.1 v.2 with
  | ok d =>
    have ht : d.write = t := by
      simp only [engine, hd, Except.map] at h
      exact (EStateM.Result.ok.inj h).1
    exact ht ▸ ⟨Document.isValue_write d, Document.oneLine_write d⟩
  | error r =>
    simp only [engine, hd, Except.map] at h
    exact nomatch h

end Python

namespace Worker

/-! ## All requests -/

/-- **An interpreter keeps in step.** Upon the first line it writes one line. If the script could be
prepared, that is the one which says that it is ready, and the interpreter writes one line for each
further line, in order, and never ends. If it could not be prepared, that is an error, the
interpreter ends with the code of failure, and nothing more is written. Each line is that of an
object with one member, a result or an error apart from the line which says that the interpreter is
ready, and is accepted by the reader of replies if it is within its bounds.

The lines that are read are arbitrary, and so are the operations, as long as values are serialized
as JSON text on one line and what goes wrong upon these lines can be told. -/
theorem Engine.keeps_in_step {σ π ν : Type} (e : Engine σ π ν) (writes : e.WritesJson)
    (first : List Char) (rest : List (List Char))
    (tells : e.TellsAll (.awaiting e.start) (first :: rest)) :
    ∃ opening outs last,
      Process.Serves (.start e.behaviour) (first :: rest) (opening :: outs) last ∧
      ((∃ p s, e.prepare first e.start = .ok p s) ∧ IsReplyLine "ready" opening ∧
          last.status = none ∧ (∀ out ∈ outs, IsReplyLine "result" out ∨ IsReplyLine "error" out) ∨
        (∃ r s, e.prepare first e.start = .error r s) ∧ IsReplyLine "error" opening ∧
          last.status = some (.exited failureCode) ∧ ∀ out ∈ outs, out = []) := by
  have hstart := Process.hosts_start e
  obtain ⟨hfirst, hrest⟩ := tells
  rcases e.step_awaiting first e.start with ⟨p, s, hprepare, -, hstep⟩ |
    ⟨r, s, text, hprepare, -, hstep⟩ | ⟨hnot, -⟩
  · rw [hstep] at hrest
    obtain ⟨q, hsend, hunread, hq⟩ := hstart.send_ready hstep
    obtain ⟨outs, last, hserves, hstatus, houts⟩ := hq.serves_ready writes hrest
    have formed : Answer.ready.Formed := trivial
    exact ⟨_, outs, last, .cons hsend hunread hserves,
      .inl ⟨⟨p, s, hprepare⟩, formed.isReplyLine, hstatus, houts⟩⟩
  · obtain ⟨q, hsend, hunread, hinput, hstatus⟩ := hstart.send_ended hstep
    have hserves := Process.serves_ended hinput (by rw [hstatus]; rfl) rest
    have formed : (Answer.error text).Formed := trivial
    refine ⟨_, _, q, .cons hsend hunread hserves,
      .inr ⟨⟨r, s, hprepare⟩, formed.isReplyLine, hstatus, ?_⟩⟩
    exact List.forall_mem_map.2 fun _ _ => rfl
  · exact absurd hfirst hnot

/-- A script that is ready is run on no bindings, and then a line comes that is no request. -/
theorem Engine.keeps_in_step_python :
    Python.engine.WritesJson ∧
    Python.engine.TellsAll (.awaiting Python.engine.start)
      [(Request.compile "1 + 1").line, (Request.run .empty).line, ['?', '\n']] ∧
    ∃ opening outs last, Process.Serves (.start Python.engine.behaviour)
        [(Request.compile "1 + 1").line, (Request.run .empty).line, ['?', '\n']] (opening :: outs)
        last ∧
      IsReplyLine "ready" opening ∧ last.status = none ∧
      ∀ out ∈ outs, IsReplyLine "result" out ∨ IsReplyLine "error" out := by
  obtain ⟨p, s, hp⟩ : ∃ p s, Python.engine.prepare (Request.compile "1 + 1").line
      Python.engine.start = .ok p s := Python.prepared_of_toBool (by decide +kernel)
  have tells : Python.engine.TellsAll (.awaiting Python.engine.start)
      [(Request.compile "1 + 1").line, (Request.run .empty).line, ['?', '\n']] :=
    Engine.tellsAll_of_answers (by decide +kernel)
  obtain ⟨opening, outs, last, serves, ⟨-, ready⟩ | ⟨⟨r, s', hr⟩, -⟩⟩ :=
    Engine.keeps_in_step Python.engine Python.writesJson_engine (Request.compile "1 + 1").line
      [(Request.run .empty).line, ['?', '\n']] tells
  · exact ⟨Python.writesJson_engine, tells, opening, outs, last, serves, ready⟩
  · cases hp.symm.trans hr

/-- **An interpreter falls silent** at the first line upon which something cannot be told. It has
written one line for each line before; for that line and all after it writes nothing, and it has
ended with something unhandled. -/
theorem Engine.falls_silent {σ π ν : Type} (e : Engine σ π ν) (writes : e.WritesJson)
    {before : List (List Char)} {line : List Char}
    (tells : e.TellsAll (.awaiting e.start) before) (untold : ¬ e.Tells (e.stage before) line)
    (after : List (List Char)) :
    ∃ outs r last,
      Process.Serves (.start e.behaviour) (before ++ line :: after)
        (outs ++ [] :: after.map fun _ => []) last ∧
      outs.length = before.length ∧ (∀ out ∈ outs, ∃ key ∈ Answer.keys, IsReplyLine key out) ∧
      last.status = some (e.leave r) :=
  (Process.hosts_start e).serves_until writes tells untold after

/-- **A script that makes Python fall silent**: it raises an exception with an integer that has more
digits than Python writes. The script is ready, and then neither of two runs is answered. -/
theorem huge_integer_unanswered :
    ∃ last, Process.Serves (.start Python.engine.behaviour)
        [(Request.compile "raise Exception(10**5000)").line, (Request.run .empty).line,
          (Request.run .empty).line]
        [Text.encode Answer.ready.line, [], []] last ∧
      last.status = some (.exited 1) := by
  obtain ⟨p, s, hp⟩ : ∃ p s, Python.engine.prepare
      (Request.compile "raise Exception(10**5000)").line Python.engine.start = .ok p s :=
    Python.prepared_of_toBool (by decide +kernel)
  obtain ⟨q, hsend, hunread, hq, hstage⟩ := Process.exists_hosts_ready hp
  have silent : (Python.engine.step (Python.engine.stage
      [(Request.compile "raise Exception(10**5000)").line]) (Request.run .empty).line).1.isSome =
        false := by
    decide +kernel
  rw [hstage] at silent
  have untold : ¬ Python.engine.Tells (.ready p s) (Request.run .empty).line := by
    rw [Engine.tells_iff, silent]
    rintro (⟨status, h⟩ | h) <;> cases h
  obtain ⟨r, last, serves, hstatus⟩ := hq.serves_silent untold [(Request.run .empty).line]
  exact ⟨last, .cons hsend hunread serves, hstatus⟩

/-- The greatest double. -/
def greatestDouble : ℕ :=
  (2 ^ 53 - 1) * 2 ^ 971

/-- **The greatest double is refused** if it is written as an integer. The line is on one level, has
no strings but its key, and its number is not beyond the doubles. -/
theorem greatest_double_refused :
    ∃ opening refused last,
      Process.Serves (.start Python.engine.behaviour)
        [(Request.compile "2**1024 - 2**971").line, (Request.run .empty).line] [opening, refused]
        last ∧
      opening = Text.encode Answer.ready.line ∧
      (∃ text, refused = Text.encode (text ++ ['\n']) ∧
        IsBounded (fun t => magnitude t ≤ greatestDouble) depthLimit text) ∧
      ∀ status r, readReply status refused ≠ .ok r := by
  obtain ⟨p, s, hp⟩ : ∃ p s, Python.engine.prepare (Request.compile "2**1024 - 2**971").line
      Python.engine.start = .ok p s := Python.prepared_of_toBool (by decide +kernel)
  obtain ⟨q, hsend, hunread, hq, hstage⟩ := Process.exists_hosts_ready hp
  have answers : ((Python.engine.step (Python.engine.stage
      [(Request.compile "2**1024 - 2**971").line]) (Request.run .empty).line).1.map Answer.line) =
        some (Answer.result (Decimal.Notation.digitsOf greatestDouble)).line := by
    decide +kernel
  have refuses : (Reply.parse
      (Answer.result (Decimal.Notation.digitsOf greatestDouble)).line).toBool = false := by
    decide +kernel
  rw [hstage] at answers
  rcases Python.engine.step_ready p (Request.run .empty).line s with ⟨a, s', -, hstep, -⟩ |
    ⟨-, r, hstep⟩
  · rw [hstep] at answers
    have hline := Option.some.inj answers
    obtain ⟨last, hsend', hunread', -⟩ := hq.send_ready hstep
    refine ⟨_, _, last, .cons hsend hunread (.cons hsend' hunread' (.nil last)), rfl,
      ⟨_, congrArg Text.encode hline, ?_⟩, fun status r hr => ?_⟩
    · exact Answer.isBounded_result greatestDouble le_rfl
    · rw [hline, readReply, Text.decode_encode] at hr
      cases hparse : Reply.parse
        (Answer.result (Decimal.Notation.digitsOf greatestDouble)).line with
      | ok r =>
        rw [hparse] at refuses
        cases refuses
      | error f =>
        simp only [hparse] at hr
        cases hr
  · rw [hstep] at answers
    cases answers

end Worker

end ScriptStage
