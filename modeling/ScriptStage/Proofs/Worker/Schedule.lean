import Mathlib.Logic.Relation
import ScriptStage.Proofs.Worker.Delivery

/-!
# Runs one after another, and all schedules

The interpreters of this library run a script once at a time: `ScriptStage.Worker.exchange` sends a
request and takes the reply in one go, and what a run leaves in the slot is handed to the next one.
This file shows that these runs are among the schedules of `ScriptStage.Worker.Sharing.Step`, so
that what holds of all schedules holds of them, and says what that is.

A worker writes at most one line for a request here, as it is assumed of workers there.

## Main definitions

* `ScriptStage.Worker.Process.Terse` — a process that writes at most one line for each request.
* `ScriptStage.Worker.Sharing.Alone` — steps of one run, while the others stay where they are.

## Main results

* `ScriptStage.Worker.Sharing.Reachable.exchange` — an exchange is a schedule.
* `ScriptStage.Worker.Sharing.Reachable.run` — a run is a schedule.
* `ScriptStage.Worker.Sharing.respond_reachable` — any number of runs are a schedule, whether they
  are left to end or not.
* `ScriptStage.Worker.Sharing.replies_reach_their_runs` — what holds of all schedules.
-/

set_option autoImplicit false

namespace ScriptStage.Worker

/-- **A process that answers requests**: it writes nothing or one line for each. -/
def Process.Terse (p : Process) : Prop :=
  ∀ received, (p.behaviour received).output = [] ∨ Sharing.IsLine (p.behaviour received).output

/-- Waiting for a line does not change what a process does upon one. -/
lemma Process.behaviour_receive (p : Process) : p.receive.2.behaviour = p.behaviour := by
  unfold receive
  split
  · rfl
  · split
    · rfl
    · split <;> rfl

/-- Sending a line does not change what a process does upon one. -/
lemma Process.behaviour_of_send {p later : Process} {line : List Char}
    (h : p.send line = some later) : later.behaviour = p.behaviour := by
  unfold send at h
  split at h
  · exact nomatch h
  · split at h
    · rw [Option.some.inj h]
    · rw [← Option.some.inj h]

namespace Sharing

variable {ι : Type} [DecidableEq ι] {source : String} {bindings : ι → Bindings}
variable {S S' S'' : Situation ι} {r : ι} {w : ℕ} {q : Request}

/-! ## Steps of one run -/

/-- **Steps of one run**, or of workers, while all other runs stay where they are. -/
structure Alone (source : String) (bindings : ι → Bindings) (r : ι) (S S' : Situation ι) :
    Prop where
  steps : Relation.ReflTransGen (Step source bindings) S S'
  others : ∀ r' ≠ r, S'.phase r' = S.phase r'

lemma Alone.refl (S : Situation ι) : Alone source bindings r S S :=
  ⟨.refl, fun _ _ => rfl⟩

lemma Alone.trans (h : Alone source bindings r S S') (h' : Alone source bindings r S' S'') :
    Alone source bindings r S S'' :=
  ⟨h.steps.trans h'.steps, fun r' hr => (h'.others r' hr).trans (h.others r' hr)⟩

/-- A step after which the phases of all runs but one are as before. -/
lemma Alone.single {φ : Phase} (h : Step source bindings S S')
    (phase : S'.phase = Function.update S.phase r φ) : Alone source bindings r S S' :=
  ⟨.single h, fun r' hr => by rw [phase, Function.update_of_ne hr]⟩

/-- A step of a worker. -/
lemma Alone.worker (h : Step source bindings S S') (phase : S'.phase = S.phase) :
    Alone source bindings r S S' :=
  ⟨.single h, fun r' _ => by rw [phase]⟩

lemma Reachable.steps (h : Reachable source bindings S)
    (hs : Relation.ReflTransGen (Step source bindings) S S') : Reachable source bindings S' := by
  induction hs with
  | refl => exact h
  | tail _ hs ih => exact ih.step hs

/-! ## One exchange -/

/-- A worker whose last request is not answered yet may write nothing or one line. -/
lemma Alone.write (source : String) (bindings : ι → Bindings) (r : ι)
    {past : List (ι × Request)} {e : ι × Request}
    (log : (S.station w).log = past ++ [e])
    (placed : ∀ e ∈ (S.station w).written, e.1 < past.length) {bytes : List UInt8}
    (line : bytes = [] ∨ IsLine bytes) :
    ∃ S', Alone source bindings r S S' ∧ S'.phase = S.phase ∧
      (S'.station w).process =
        { (S.station w).process with unread := (S.station w).process.unread ++ bytes } := by
  rcases line with rfl | line
  · exact ⟨S, .refl S, rfl, by rw [List.append_nil]⟩
  · have after : past.length < (S.station w).log.length := by rw [log]; simp
    exact ⟨_, .worker (.write w past.length after placed line) rfl, rfl,
      by simp [Situation.changes, Station.writes]⟩

/-- **Sending a request** is a step or two of the run and the worker, which leave the worker as
`Process.send` does. -/
lemma Reachable.send (h : Reachable source bindings S) (phase : S.phase r = .sending w q)
    (terse : (S.station w).process.Terse) {later : Process}
    (sent : (S.station w).process.send q.line = some later) :
    ∃ S', Alone source bindings r S S' ∧ S'.phase r = .awaiting w q ∧
      (S'.station w).process = later := by
  unfold Process.send at sent
  split at sent
  · exact nomatch sent
  next hopen =>
  have hopen : (S.station w).process.inputOpen = true := by simpa using hopen
  split at sent
  · -- the worker has ended before, so that the request is lost
    refine ⟨_, .single (.lose phase) rfl, by simp [Situation.moves], ?_⟩
    exact Option.some.inj sent
  next hstatus =>
  have hstatus : (S.station w).process.status = none := by simpa using hstatus
  obtain rfl := Option.some.inj sent
  set p := (S.station w).process with hp
  set reaction := p.behaviour (p.received ++ [q.line]) with hreaction
  have asked : Alone source bindings r S
      ((S.moves r (.awaiting w q)).changes w ((S.station w).receives r q)) :=
    .single (.send phase) rfl
  have told : (((S.moves r (.awaiting w q)).changes w ((S.station w).receives r q)).station w) =
      (S.station w).receives r q := by
    simp [Situation.changes]
  have line : (if p.outputOpen then reaction.output else []) = [] ∨
      IsLine (if p.outputOpen then reaction.output else []) := by
    split
    · exact terse _
    · exact .inl rfl
  obtain ⟨S₁, wrote, phase₁, process₁⟩ := Alone.write source bindings r (by rw [told]; rfl)
    (by rw [told]; exact (h.invariant.coherent w).placed) line
  refine ⟨_, (asked.trans wrote).trans (.worker (.falter (w := w) reaction.closesInput
    (reaction.closesOutput || reaction.ends.isSome) reaction.ends) rfl), ?_, ?_⟩
  · simp [Situation.changes, phase₁, Situation.moves]
  · simp only [Situation.changes, Function.update_self, Station.falters, process₁,
      Station.receives, ← hp, hopen, hstatus]
    cases p.outputOpen <;> simp

/-- **An exchange is a schedule**: whatever `exchange` comes to, steps of the run and of its worker
lead there. -/
theorem Reachable.exchange (h : Reachable source bindings S) (phase : S.phase r = .sending w q)
    (terse : (S.station w).process.Terse) :
    ∃ S', Alone source bindings r S S' ∧
      match Worker.exchange (S.station w).process q with
      | .replied reply p =>
        S'.phase r = .afterReply (bindings r) w reply q ∧ (S'.station w).process = p ∧ p.Terse
      | .broken fault => S'.phase r = .stopping w fault
      | .stuck => S'.phase r = .awaiting w q ∧
        (S'.station w).process.receive.1 = .nothing := by
  unfold Worker.exchange
  cases sent : (S.station w).process.send q.line with
  | none =>
    exact ⟨_, .single (.unsent (S.station w).process.status phase) rfl, by simp [Situation.moves]⟩
  | some later =>
    obtain ⟨S₁, asked, phase₁, rfl⟩ := h.send phase terse sent
    have terse₁ : (S₁.station w).process.Terse := by
      intro received
      rw [Process.behaviour_of_send sent]
      exact terse received
    dsimp only
    generalize (if (S.station w).process.outputOpen = true then
      (S₁.station w).process.status else (S.station w).process.status) = status
    rcases received : (S₁.station w).process.receive with ⟨bytes | _ | _, p⟩
    · dsimp only
      have terse₂ : p.Terse := by
        intro lines
        have same := (S₁.station w).process.behaviour_receive
        rw [received] at same
        rw [same]
        exact terse₁ lines
      cases read : readReply status bytes with
      | error fault =>
        exact ⟨_, asked.trans (.single (.garbage phase₁ received read) rfl),
          by simp [Situation.moves, Situation.changes]⟩
      | ok reply =>
        exact ⟨_, asked.trans (.single (.reply phase₁ received read) rfl),
          by simp [Situation.moves, Situation.changes],
          by simp [Situation.changes, Station.read], terse₂⟩
    · exact ⟨_, asked.trans (.single (.closed status phase₁ received) rfl),
        by simp [Situation.moves]⟩
    · exact ⟨S₁, asked, phase₁, by rw [received]⟩

/-! ## One run -/

/-- The worker in the slot, as a process. -/
def Situation.resting (S : Situation ι) : Option Process :=
  S.slot.map fun w => (S.station w).process

/-- **A run has come to what its attempt says**: it is over with a certain result and the turn is
free, or it waits for a line that never comes. -/
def Ends (i : Interpreter) (S : Situation ι) (r : ι) : Attempt → Prop
  | .finished _ result =>
    S.turn = none ∧ ∃ ending, S.phase r = .ended ending ∧ ending.result i = result
  | .pending => ∃ w q, S.phase r = .awaiting w q ∧ (S.station w).process.receive.1 = .nothing

/-- **Steps that do what a run does**: they lead to its end and leave the same worker in the
slot. -/
structure Does (source : String) (bindings : ι → Bindings) (i : Interpreter) (r : ι)
    (S S' : Situation ι) (e : RunEnd) : Prop where
  alone : Alone source bindings r S S'
  ends : Ends i S' r e.attempt
  resting : S'.resting = e.slot
  terse : ∀ p, e.slot = some p → p.Terse

/-- A run that stops its worker is over with the fault, and the slot stays empty. -/
lemma Reachable.stop (h : Reachable source bindings S) {fault : Fault} (i : Interpreter)
    (phase : S.phase r = .stopping w fault) (notices : List Notice) :
    ∃ S', Does source bindings i r S S' ⟨none, notices, .now (.error (i.failure fault))⟩ := by
  have hand := h.invariant.hand_eq phase
  have turn := h.invariant.turn_eq phase trivial
  refine ⟨_, .single (.stopped phase) rfl, ⟨?_, .failed fault, ?_, rfl⟩, ?_, fun _ h => nomatch h⟩
  · simp [Situation.leaves, turn]
  · simp [Situation.leaves]
  · simp [Situation.resting, Situation.leaves, hand.1]

/-- A run whose worker never answers waits, and the slot stays empty. -/
lemma Reachable.wait (h : Reachable source bindings S) (i : Interpreter)
    (phase : S.phase r = .awaiting w q) (silent : (S.station w).process.receive.1 = .nothing)
    (notices : List Notice) : Does source bindings i r S S ⟨none, notices, .pending⟩ := by
  have hand := h.invariant.hand_eq phase
  exact ⟨.refl S, ⟨w, q, phase, silent⟩, by simp [Situation.resting, hand.1],
    fun _ h => nomatch h⟩

lemma Does.after {i : Interpreter} {e : RunEnd} (h : Does source bindings i r S' S'' e)
    (before : Alone source bindings r S S') : Does source bindings i r S S'' e :=
  ⟨before.trans h.alone, h.ends, h.resting, h.terse⟩

/-- **A run on a worker that has compiled the script** is a schedule. -/
lemma Reachable.runOn (h : Reachable source bindings S) (i : Interpreter)
    (phase : S.phase r = .sending w (.run (bindings r))) (terse : (S.station w).process.Terse) :
    ∃ S', Does source bindings i r S S' (i.runOn (S.station w).process (bindings r)) := by
  obtain ⟨S₁, exchanged, come⟩ := h.exchange phase terse
  have h₁ := h.steps exchanged.steps
  unfold Interpreter.runOn
  cases result : Worker.exchange (S.station w).process (.run (bindings r)) with
  | stuck =>
    rw [result] at come
    exact ⟨S₁, (h₁.wait i come.1 come.2 []).after exchanged⟩
  | broken fault =>
    rw [result] at come
    obtain ⟨S₂, stopped⟩ := h₁.stop i come _
    exact ⟨S₂, stopped.after exchanged⟩
  | replied reply p =>
    rw [result] at come
    obtain ⟨phase₁, rfl, terse₁⟩ := come
    have turn := h₁.invariant.turn_eq phase₁ trivial
    refine ⟨_, exchanged.trans (.single (.putBack phase₁) rfl), ⟨?_, .answered reply, ?_, rfl⟩,
      rfl, ?_⟩
    · simp [Situation.leaves, turn]
    · simp [Situation.leaves]
    · rintro p hp
      rwa [← Option.some.inj hp]

/-- **An interpreter whose workers answer requests.** -/
def Terse (i : Interpreter) : Prop :=
  ∀ p, i.launch = .ok p → p.Terse ∧ p = .start p.behaviour

/-- **A run with a new worker** is a schedule, from the moment when it has its turn. -/
lemma Reachable.runAfresh (h : Reachable source bindings S) {i : Interpreter} (terse : Terse i)
    (phase : S.phase r = .admitted) (empty : S.slot = none) :
    ∃ S', Does source bindings i r S S' (i.run source none (bindings r)) := by
  have turn := h.invariant.turn_eq phase trivial
  unfold Interpreter.run Interpreter.startWorker
  cases launched : i.launch with
  | error why =>
    refine ⟨_, .single (.launchFails why phase empty) rfl, ⟨?_, .failed (.notStarted why), ?_, rfl⟩,
      ?_, fun _ h => nomatch h⟩
    · simp [Situation.leaves, turn]
    · simp [Situation.leaves]
    · simp [Situation.resting, Situation.leaves, empty]
  | ok p =>
    obtain ⟨hp, new⟩ := terse p launched
    have launch : Step source bindings S _ := .launch p.behaviour phase empty
    have h₁ := h.step launch
    have alone : Alone source bindings r S _ := .single launch rfl
    generalize hS₁ : ({ (S.moves r (.sending S.started (.compile source))).changes S.started
      (.fresh p.behaviour) with started := S.started + 1 } : Situation ι) = S₁ at h₁ alone
    have phase₁ : S₁.phase r = .sending S.started (.compile source) := by
      simp [← hS₁, Situation.changes, Situation.moves]
    have process₁ : (S₁.station S.started).process = p := by
      rw [new]
      simp [← hS₁, Situation.changes, Station.fresh]
    obtain ⟨S₂, exchanged, come⟩ := h₁.exchange phase₁ (process₁.symm ▸ hp)
    rw [process₁] at come
    have alone₂ := alone.trans exchanged
    have h₂ := h.steps alone₂.steps
    cases result : Worker.exchange p (.compile source) with
    | stuck =>
      simp only [result] at come ⊢
      exact ⟨S₂, (h₂.wait i come.1 come.2 []).after alone₂⟩
    | broken fault =>
      simp only [result] at come ⊢
      obtain ⟨S₃, stopped⟩ := h₂.stop i come []
      exact ⟨S₃, stopped.after alone₂⟩
    | replied reply p' =>
      obtain ⟨value, error⟩ := reply
      simp only [result] at come ⊢
      obtain ⟨phase₂, rfl, terse₂⟩ := come
      cases error with
      | some text =>
        obtain ⟨S₃, stopped⟩ := h₂.stop i phase₂ []
        exact ⟨S₃, stopped.after alone₂⟩
      | none =>
        obtain ⟨S₃, does⟩ := h₂.runOn i phase₂ terse₂
        exact ⟨S₃, does.after alone₂⟩

/-- **A run with the worker in the slot** is a schedule, from the moment when it has its turn. -/
lemma Reachable.runRested (h : Reachable source bindings S) (i : Interpreter)
    (phase : S.phase r = .admitted) (slot : S.slot = some w)
    (terse : (S.station w).process.Terse) :
    ∃ S', Does source bindings i r S S' (i.runOn (S.station w).process (bindings r)) := by
  have take : Step source bindings S _ := .take phase slot
  obtain ⟨S', does⟩ := (h.step take).runOn i (Function.update_self ..) terse
  exact ⟨S', does.after (.single take rfl)⟩

/-- **A run is a schedule**: whatever `Interpreter.run` comes to, steps of the run and of workers
lead there. -/
theorem Reachable.run (h : Reachable source bindings S) {i : Interpreter} (terse : Terse i)
    (free : S.turn = none) (phase : S.phase r = .queued)
    (resting : ∀ p, S.resting = some p → p.Terse) :
    ∃ S', Does source bindings i r S S' (i.run source S.resting (bindings r)) := by
  have enter : Step source bindings S _ := .enter phase free
  have h₁ := h.step enter
  cases slot : S.slot with
  | none =>
    have empty : S.resting = none := by simp [Situation.resting, slot]
    obtain ⟨S', does⟩ := h₁.runAfresh terse (Function.update_self ..) slot
    exact ⟨S', empty ▸ does.after (.single enter rfl)⟩
  | some w =>
    have rests : S.resting = some (S.station w).process := by simp [Situation.resting, slot]
    obtain ⟨S', does⟩ := h₁.runRested i (Function.update_self ..) slot (resting _ rests)
    exact ⟨S', rests ▸ does.after (.single enter rfl)⟩

/-! ## Runs one after another -/

/-- A run that is given up with a worker in its hands leaves the slot empty. -/
lemma Reachable.giveUp (h : Reachable source bindings S) {φ : Phase} (phase : S.phase r = φ)
    (hand : φ.worker? = some w) (waits : φ.Waits) :
    ∃ S', Alone source bindings r S S' ∧ S'.turn = none ∧ S'.resting = none := by
  obtain ⟨turn, slot⟩ := h.invariant.inHand phase hand
  refine ⟨_, .single (.drop (phase ▸ waits)) rfl, ?_, ?_⟩
  · simp [Situation.leaves, turn]
  · simp [Situation.resting, Situation.leaves, slot]

/-- Once a run has its turn, a step gives it a worker. -/
lemma Alone.reach (source : String) (bindings : ι → Bindings) (phase : S.phase r = .admitted) :
    ∃ S' w q, Alone source bindings r S S' ∧ S'.phase r = .sending w q := by
  cases slot : S.slot with
  | none =>
    refine ⟨_, S.started, .compile source, .single (.launch (fun _ => {}) phase slot) rfl, ?_⟩
    simp [Situation.changes, Situation.moves]
  | some w =>
    refine ⟨_, w, .run (bindings r), .single (.take phase slot) rfl, ?_⟩
    simp [Situation.moves]

/-- **An earlier run leaves its worker in the slot**, or nothing if it was given up. -/
lemma Reachable.earlier (h : Reachable source bindings S) {i : Interpreter} (terse : Terse i)
    (free : S.turn = none) (phase : S.phase r = .queued)
    (resting : ∀ p, S.resting = some p → p.Terse) (completed : Bool) :
    ∃ S', Alone source bindings r S S' ∧ S'.turn = none ∧
      S'.resting = (if completed then (i.run source S.resting (bindings r)).slot else none) ∧
      ∀ p, S'.resting = some p → p.Terse := by
  cases completed with
  | false =>
    have enter : Step source bindings S _ := .enter phase free
    have entered : Alone source bindings r S _ := .single enter rfl
    obtain ⟨S₁, w, q, reached, phase₁⟩ := Alone.reach source bindings
      (S := { S.moves r .admitted with turn := some r }) (Function.update_self r _ _)
    have before := entered.trans reached
    obtain ⟨S₂, given, turn, rest⟩ := (h.steps before.steps).giveUp phase₁ rfl trivial
    exact ⟨S₂, before.trans given, turn, rest, fun p hp => nomatch rest.symm.trans hp⟩
  | true =>
    obtain ⟨S₁, does⟩ := h.run terse free phase resting
    have ends := does.ends
    cases attempt : (i.run source S.resting (bindings r)).attempt with
    | finished after result =>
      rw [attempt] at ends
      exact ⟨S₁, does.alone, ends.1, does.resting, fun p hp => does.terse p (does.resting ▸ hp)⟩
    | pending =>
      rw [attempt] at ends
      obtain ⟨w, q, phase₁, -⟩ := ends
      have h₁ := h.steps does.alone.steps
      obtain ⟨S₂, given, turn, rest⟩ := h₁.giveUp phase₁ rfl trivial
      have idle : S₁.slot = none := (h₁.invariant.inHand phase₁ rfl).2
      refine ⟨S₂, does.alone.trans given, turn, ?_, fun p hp => nomatch rest.symm.trans hp⟩
      rw [rest, if_pos rfl, ← does.resting, Situation.resting, idle]
      rfl

/-- What a script that was run before has kept: the worker in its slot. -/
def kept (i : Interpreter) (source : String) (slot : Option Process) (past : List Past) :
    Option Process :=
  past.foldl (fun s p => if p.completed then (i.run source s p.bindings).slot else none) slot

/-- **Earlier runs, one after another,** lead to a situation with a free turn and the worker in the
slot that they leave there.

**Proof sketch.** Induction on the runs; each is `Reachable.earlier`. -/
theorem Reachable.past (h : Reachable source bindings S) {i : Interpreter} (terse : Terse i)
    (free : S.turn = none) (resting : ∀ p, S.resting = some p → p.Terse) {runs : List (ι × Bool)}
    (distinct : (runs.map Prod.fst).Nodup) (queued : ∀ r ∈ runs.map Prod.fst, S.phase r = .queued) :
    ∃ S', Reachable source bindings S' ∧ S'.turn = none ∧
      S'.resting = kept i source S.resting (runs.map fun e => ⟨bindings e.1, e.2⟩) ∧
      (∀ p, S'.resting = some p → p.Terse) ∧
      ∀ r ∉ runs.map Prod.fst, S'.phase r = S.phase r := by
  induction runs generalizing S with
  | nil => exact ⟨S, h, free, rfl, resting, fun _ _ => rfl⟩
  | cons e runs ih =>
    obtain ⟨r, completed⟩ := e
    obtain ⟨hr, distinct⟩ := List.nodup_cons.1 distinct
    obtain ⟨S₁, alone, free₁, rest₁, resting₁⟩ :=
      h.earlier terse free (queued r (.head _)) resting completed
    have queued₁ : ∀ r' ∈ runs.map Prod.fst, S₁.phase r' = .queued := fun r' hr' => by
      rw [alone.others r' fun he => hr (he ▸ hr')]
      exact queued r' (.tail _ hr')
    obtain ⟨S', h', free', rest', resting', others⟩ :=
      ih (h.steps alone.steps) free₁ resting₁ distinct queued₁
    refine ⟨S', h', free', ?_, resting', fun r' hr' => ?_⟩
    · rw [rest', rest₁]
      rfl
    · obtain ⟨hne, hr'⟩ := not_or.1 (List.mem_cons.not.1 hr')
      exact (others r' hr').trans (alone.others r' hne)

/-- **What a script answers is the end of a run in some schedule.** However often the script of an
interpreter was run before, and whether or not those runs were left to end, the attempt that it
answers with is the one that the next run comes to.

**Proof sketch.** Lead the earlier runs to their ends (`Reachable.past`), then the last one
(`Reachable.run`). -/
theorem respond_reachable {i : Interpreter} (terse : Terse i) {runs : List (ι × Bool)} {r : ι}
    (distinct : (r :: runs.map Prod.fst).Nodup) :
    ∃ S, Reachable source bindings S ∧
      Ends i S r
        ((i.script source).respond (runs.map fun e => ⟨bindings e.1, e.2⟩) (bindings r)) := by
  obtain ⟨hr, distinct⟩ := List.nodup_cons.1 distinct
  obtain ⟨S, h, free, rest, resting, others⟩ :=
    (Reachable.start : Reachable source bindings .start).past terse rfl
      (fun _ hp => nomatch hp) distinct fun _ _ => rfl
  obtain ⟨S', does⟩ := h.run terse free (others r hr) resting
  refine ⟨S', h.steps does.alone.steps, ?_⟩
  have ends := does.ends
  rwa [rest] at ends

/-! ## All schedules -/

/-- **Each reply goes to the run that it answers.** However the runs of a script and its workers
interleave, and wherever runs are given up:

* a run that has got a reply was handed it as the reply to its own bindings;
* whatever reply was handed over is what some line of the worker says, and that line answers the
  request line of just the run that was handed the reply;
* no line was handed over twice;
* no worker is in the hands of two runs, or in the hands of a run and in the slot;
* a worker receives the script once, before all else, and then only bindings.

What the script of an interpreter answers is the end of a run in one of these schedules, if its
workers write at most one line for each request.

**Proof sketch.** All of it is part of the invariant (`Reachable.invariant`) or follows from what
the log of a worker looks like; the last part is `respond_reachable`. -/
theorem replies_reach_their_runs (source : String) (bindings : ι → Bindings) :
    (∀ S, Reachable source bindings S →
      (∀ r reply, (S.phase r).reply? = some reply →
        ∃ d ∈ S.deliveries, d.run = r ∧ d.request = .run (bindings r) ∧ d.reply = reply) ∧
      (∀ d ∈ S.deliveries, ∃ place bytes status,
        (S.station d.worker).written[d.index]? = some (place, bytes) ∧
        readReply status bytes = .ok d.reply ∧
        (S.station d.worker).log[place]? = some (d.run, d.request) ∧
        (S.station d.worker).process.received[place]? = some d.request.line) ∧
      (S.deliveries.Pairwise fun d e => ¬ (d.worker = e.worker ∧ d.index = e.index)) ∧
      (∀ r w, (S.phase r).worker? = some w →
        S.slot ≠ some w ∧ ∀ r', (S.phase r').worker? = some w → r' = r) ∧
      (∀ w, ((S.station w).process.received = [] ∨ ∃ runs : List ι,
          (S.station w).process.received =
            (Request.compile source).line :: runs.map fun r => (Request.run (bindings r)).line) ∧
        ∀ place script,
          (S.station w).process.received[place]? = some (Request.compile script).line →
            place = 0)) ∧
    (∀ i : Interpreter, Terse i → ∀ (runs : List (ι × Bool)) (r : ι),
      (r :: runs.map Prod.fst).Nodup →
      ∃ S, Reachable source bindings S ∧ Ends i S r
        ((i.script source).respond (runs.map fun e => ⟨bindings e.1, e.2⟩) (bindings r))) := by
  refine ⟨fun S h => ⟨fun r reply hr => h.invariant.answered rfl hr, fun d hd => h.delivered hd,
    h.invariant.distinct, fun r w hr => h.unshared hr, fun w => ⟨h.invariant.received w, ?_⟩⟩,
    fun i terse runs r distinct => respond_reachable terse distinct⟩
  exact fun place script hp => h.place_of_compile hp

/-- The first of two runs is given up while its reply is under way; the second one is handed the
reply of a worker of its own. -/
theorem replies_reach_their_runs_after_drop :
    ∃ S : Situation Bool,
      Reachable "payload" (fun r => Dict.empty.insert "payload" (.bool r)) S ∧
      S.phase false = .dropped ∧
      (S.station 0).process.unread = [123, 125, 10] ∧
      S.phase true = .ended (.answered ⟨.null, none⟩) ∧
      ∃ d ∈ S.deliveries, d.run = true ∧
        d.request = .run (Dict.empty.insert "payload" (.bool true)) ∧ d.reply = ⟨.null, none⟩ := by
  have line : IsLine [123, 125, 10] := ⟨by decide, by decide⟩
  have empty : readReply none [123, 125, 10] = .ok ⟨.null, none⟩ := rfl
  have first : Reachable "payload" (fun r : Bool => Dict.empty.insert "payload" (.bool r)) .start :=
    .start
  have given := first
    |>.step (.enter (r := false) rfl rfl)
    |>.step (.launch (r := false) (fun _ => {}) rfl rfl)
    |>.step (.send (r := false) rfl)
    |>.step (.write 0 0 (by decide) (by decide) line)
    |>.step (.reply (r := false) rfl rfl empty)
    |>.step (.send (r := false) rfl)
    |>.step (.drop (r := false) trivial)
    |>.step (.write 0 1 (by decide) (by decide) line)
  have served := given
    |>.step (.enter (r := true) rfl rfl)
    |>.step (.launch (r := true) (fun _ => {}) rfl rfl)
    |>.step (.send (r := true) rfl)
    |>.step (.write 1 0 (by decide) (by decide) line)
    |>.step (.reply (r := true) rfl rfl empty)
    |>.step (.send (r := true) rfl)
    |>.step (.write 1 1 (by decide) (by decide) line)
    |>.step (.reply (r := true) rfl rfl empty)
    |>.step (.putBack (r := true) rfl)
  exact ⟨_, served, rfl, rfl, rfl, ((replies_reach_their_runs _ _).1 _ served).1 true _ rfl⟩

end Sharing

end ScriptStage.Worker
