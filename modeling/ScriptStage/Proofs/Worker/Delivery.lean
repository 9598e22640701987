import ScriptStage.Proofs.Worker.Sharing

/-!
# Replies reach the runs that they answer

A run that gives up leaves a line behind that nobody has read, and a run that then used the same
worker would take that line for its own reply. This file shows that no schedule of concurrent runs
comes to that: a worker that goes back into the slot has been asked nothing that it has not
answered, and every line that it has written was read.

## Main definitions

* `ScriptStage.Worker.Sharing.Station.Quiet` — nothing is under way to or from a worker.
* `ScriptStage.Worker.Sharing.Station.InFlight` — at most the answer to one request is under way.
* `ScriptStage.Worker.Sharing.Invariant` — what holds in every situation.

## Main results

* `ScriptStage.Worker.Sharing.Invariant.step`, `Reachable.invariant` — the invariant is kept.
* `ScriptStage.Worker.Sharing.Reachable.delivered` — each reply goes to the run that sent the
  request which it answers, and to no other.
-/

set_option autoImplicit false

namespace ScriptStage.Worker

/-! ## Lines -/

/-- The line of a script is never a line of bindings: their first keys differ. -/
lemma Request.line_compile_ne (script : String) (b : Bindings) :
    (compile script).line ≠ (run b).line := by
  intro h
  have hs : (compile script).line[2]? = some 's' := by
    simp [line, write, Json.writeObject, Json.commaSeparated, Json.writeField, Json.writeString,
      Json.escape]
  have hb : (run b).line[2]? = some 'b' := by
    simp [line, write, Json.writeObject, Json.commaSeparated, Json.writeField, Json.writeString,
      Json.escape]
  rw [h, hb] at hs
  exact absurd hs (by decide)

/-- If at most the last of some bytes is a line feed, a line cut off their start is all of them. -/
lemma Process.cutLine_eq {bytes line rest : List UInt8} (h : 10 ∉ bytes.dropLast)
    (hc : cutLine bytes = some (line, rest)) : line = bytes ∧ rest = [] := by
  induction bytes generalizing line with
  | nil => exact nomatch hc
  | cons b bs ih =>
    unfold cutLine at hc
    split at hc
    · next hb =>
      subst hb
      obtain ⟨rfl, rfl⟩ := Prod.mk.inj (Option.some.inj hc)
      cases bs with
      | nil => exact ⟨rfl, rfl⟩
      | cons b' bs => simp at h
    · obtain ⟨⟨l, r⟩, hr, he⟩ := Option.map_eq_some_iff.1 hc
      obtain ⟨rfl, rfl⟩ := Prod.mk.inj he
      have hbs : 10 ∉ bs.dropLast := by
        cases bs with
        | nil => simp
        | cons b' bs => exact fun hm => h (by simp [hm])
      obtain ⟨rfl, rfl⟩ := ih hbs hr
      exact ⟨rfl, rfl⟩

/-- If at most the last unread byte is a line feed, whoever reads a line reads all of them, and
they were some. -/
lemma Process.receive_eq {p p' : Process} {bytes : List UInt8} (h : 10 ∉ p.unread.dropLast)
    (hr : p.receive = (.line bytes, p')) :
    bytes = p.unread ∧ p.unread ≠ [] ∧ p' = { p with unread := [] } := by
  unfold receive at hr
  split at hr
  · next line rest hc =>
    obtain ⟨rfl, rfl⟩ := cutLine_eq h hc
    obtain ⟨hl, rfl⟩ := Prod.mk.inj hr
    injection hl with hl
    refine ⟨hl.symm, fun hn => ?_, rfl⟩
    rw [hn] at hc
    exact nomatch hc
  · split at hr
    · exact nomatch (Prod.mk.inj hr).1
    · split at hr
      · exact nomatch (Prod.mk.inj hr).1
      · next hne =>
        obtain ⟨hl, rfl⟩ := Prod.mk.inj hr
        injection hl with hl
        exact ⟨hl.symm, by simpa using hne, rfl⟩

/-- Reading a line does not change what a process has received. -/
lemma Process.received_of_receive {p p' : Process} {bytes : List UInt8}
    (hr : p.receive = (.line bytes, p')) : p'.received = p.received := by
  unfold receive at hr
  split at hr
  · obtain ⟨-, rfl⟩ := Prod.mk.inj hr
    rfl
  · split at hr
    · exact nomatch (Prod.mk.inj hr).1
    · split at hr
      · exact nomatch (Prod.mk.inj hr).1
      · obtain ⟨-, rfl⟩ := Prod.mk.inj hr
        rfl

namespace Sharing

variable {ι : Type}

/-! ## One worker -/

namespace Station

/-- **Nothing is under way**: every line was read, and no request waits for its answer. -/
structure Quiet (s : Station ι) : Prop where
  unread : s.process.unread = []
  taken : s.taken = s.written.length
  settled : ∀ place < s.log.length, ∃ e ∈ s.written, place ≤ e.1

/-- **At most one answer is under way**: nothing is, or the last request, sent by a certain run, is
not answered, or its answer is all that was not read. -/
inductive InFlight (s : Station ι) (r : ι) (q : Request) : Prop
  | quiet (h : s.Quiet)
  | asked (past : List (ι × Request)) (log : s.log = past ++ [(r, q)])
      (unread : s.process.unread = []) (taken : s.taken = s.written.length)
      (settled : ∀ place < past.length, ∃ e ∈ s.written, place ≤ e.1)
  | answered (past : List (ι × Request)) (lines : List (ℕ × List UInt8))
      (log : s.log = past ++ [(r, q)])
      (written : s.written = lines ++ [(past.length, s.process.unread)])
      (taken : s.taken = lines.length) (line : IsLine s.process.unread)

/-- **What a worker has received** is its log: first the script, then bindings, each sent by the
run that they belong to. What it has written answers what it has received. -/
structure Coherent (source : String) (bindings : ι → Bindings) (s : Station ι) : Prop where
  received : s.process.received = s.log.map fun e => e.2.line
  first : ∀ e rest, s.log = e :: rest → e.2 = .compile source
  later : ∀ e rest, s.log = e :: rest → ∀ f ∈ rest, f.2 = .run (bindings f.1)
  placed : ∀ e ∈ s.written, e.1 < s.log.length

/-- A later state of a worker: what it has received and written stays in its place. -/
structure Extends (s s' : Station ι) : Prop where
  log : ∀ {place : ℕ} {e : ι × Request}, s.log[place]? = some e → s'.log[place]? = some e
  written : ∀ {index : ℕ} {e : ℕ × List UInt8},
    s.written[index]? = some e → s'.written[index]? = some e
  taken : s.taken ≤ s'.taken

lemma Extends.refl (s : Station ι) : s.Extends s :=
  ⟨id, id, Nat.le_refl _⟩

lemma Extends.receives (s : Station ι) (r : ι) (q : Request) : s.Extends (s.receives r q) :=
  ⟨fun h => (List.getElem?_append_left (List.getElem?_eq_some_iff.1 h).1).trans h, id,
    Nat.le_refl _⟩

lemma Extends.writes (s : Station ι) (place : ℕ) (bytes : List UInt8) :
    s.Extends (s.writes place bytes) :=
  ⟨id, fun h => (List.getElem?_append_left (List.getElem?_eq_some_iff.1 h).1).trans h,
    Nat.le_refl _⟩

lemma Extends.read (s : Station ι) (p : Process) : s.Extends (s.read p) :=
  ⟨id, id, Nat.le_succ _⟩

variable {s : Station ι} {r : ι} {q : Request}

/-- A worker with nothing under way has no request left that it may answer. -/
lemma Quiet.not_answerable (h : s.Quiet) {place : ℕ} (after : place < s.log.length)
    (order : ∀ e ∈ s.written, e.1 < place) : False := by
  obtain ⟨e, he, hle⟩ := h.settled place after
  exact absurd (order e he) (by omega)

/-- Once a worker with nothing under way has received a request, at most its answer is. -/
lemma Quiet.receives (h : s.Quiet) (r : ι) (q : Request) : (s.receives r q).InFlight r q :=
  .asked s.log rfl h.unread h.taken h.settled

/-- Whatever line the worker writes answers the one request that is not answered. -/
lemma InFlight.writes (h : s.InFlight r q) {place : ℕ} {bytes : List UInt8}
    (after : place < s.log.length) (order : ∀ e ∈ s.written, e.1 < place)
    (line : IsLine bytes) : (s.writes place bytes).InFlight r q := by
  cases h with
  | quiet h => exact (h.not_answerable after order).elim
  | asked past log unread taken settled =>
    -- all requests but the last one have been answered, so that the line answers the last one
    have hle : past.length ≤ place := by
      by_contra hlt
      obtain ⟨e, he, hle⟩ := settled place (by omega)
      exact absurd (order e he) (by omega)
    have hlen : s.log.length = past.length + 1 := by rw [log]; simp
    obtain rfl : place = past.length := by omega
    have hu : (s.writes past.length bytes).process.unread = bytes := by
      simp [Station.writes, unread]
    refine .answered past s.written log ?_ taken ?_
    · rw [hu]; rfl
    · rwa [hu]
  | answered past lines log written taken _ =>
    have hlen : s.log.length = past.length + 1 := by rw [log]; simp
    have hlast : past.length < place := order (past.length, s.process.unread) (by simp [written])
    omega

/-- A line that is read is the answer to the request under way, and nothing is under way
afterwards. -/
lemma InFlight.read (h : s.InFlight r q) {bytes : List UInt8} {p : Process}
    (line : s.process.receive = (.line bytes, p)) :
    (∃ place, s.written[s.taken]? = some (place, bytes) ∧ s.log[place]? = some (r, q)) ∧
      (s.read p).Quiet ∧ s.log ≠ [] := by
  have hnone : s.process.unread = [] → False := fun hu =>
    (Process.receive_eq (by simp [hu]) line).2.1 hu
  cases h with
  | quiet h => exact (hnone h.unread).elim
  | asked _ _ unread => exact (hnone unread).elim
  | answered past lines log written taken isLine =>
    obtain ⟨rfl, -, rfl⟩ := Process.receive_eq isLine.2 line
    refine ⟨⟨past.length, ?_, ?_⟩, ⟨rfl, ?_, fun place hplace => ?_⟩, by simp [log]⟩
    · rw [written, taken]; simp
    · rw [log]; simp
    · show s.taken + 1 = s.written.length
      rw [written, taken]; simp
    · have hlen : s.log.length = past.length + 1 := by rw [log]; simp
      have hplace : place < s.log.length := hplace
      exact ⟨(past.length, s.process.unread), by simp [Station.read, written], by omega⟩

/-- Closing streams changes nothing that is under way. -/
lemma InFlight.falters (h : s.InFlight r q) (closesInput closesOutput : Bool)
    (ends : Option ExitStatus) : (s.falters closesInput closesOutput ends).InFlight r q := by
  cases h with
  | quiet h => exact .quiet ⟨h.unread, h.taken, h.settled⟩
  | asked past log unread taken settled => exact .asked past log unread taken settled
  | answered past lines log written taken line => exact .answered past lines log written taken line

variable {source : String} {bindings : ι → Bindings}

lemma Quiet.fresh (behaviour : Behaviour) : (fresh behaviour : Station ι).Quiet :=
  ⟨rfl, rfl, fun _ h => absurd h (Nat.not_lt_zero _)⟩

lemma Coherent.fresh (behaviour : Behaviour) :
    (fresh behaviour : Station ι).Coherent source bindings :=
  ⟨rfl, fun _ _ h => (List.cons_ne_nil _ _ h.symm).elim,
    fun _ _ h => (List.cons_ne_nil _ _ h.symm).elim, fun _ h => nomatch h⟩

/-- Reading a line does not change what a worker has received. -/
lemma Coherent.read (h : s.Coherent source bindings) {bytes : List UInt8} {p : Process}
    (line : s.process.receive = (.line bytes, p)) : (s.read p).Coherent source bindings :=
  ⟨(Process.received_of_receive line).trans h.received, h.first, h.later, h.placed⟩

lemma Coherent.writes (h : s.Coherent source bindings) {place : ℕ} {bytes : List UInt8}
    (after : place < s.log.length) : (s.writes place bytes).Coherent source bindings where
  received := h.received
  first := h.first
  later := h.later
  placed e he := by
    rcases List.mem_append.1 he with he | he
    · exact h.placed e he
    · obtain rfl := List.mem_singleton.1 he
      exact after

/-- What was received before is still there when one request more is received. -/
lemma Coherent.placed_receives (h : s.Coherent source bindings) (r : ι) (q : Request) :
    ∀ e ∈ (s.receives r q).written, e.1 < (s.receives r q).log.length := by
  intro e he
  have := h.placed e he
  simp only [Station.receives, List.length_append, List.length_singleton]
  omega

/-- The first request may be the script. -/
lemma Coherent.receives_script (h : s.Coherent source bindings) (hl : s.log = []) (r : ι) :
    (s.receives r (.compile source)).Coherent source bindings where
  received := by simp [Station.receives, h.received, hl]
  first e rest he := by
    obtain ⟨rfl, -⟩ := List.cons.inj (show [(r, Request.compile source)] = e :: rest by
      simpa [Station.receives, hl] using he)
    rfl
  later e rest he := by
    obtain ⟨-, rfl⟩ := List.cons.inj (show [(r, Request.compile source)] = e :: rest by
      simpa [Station.receives, hl] using he)
    simp
  placed := h.placed_receives r _

/-- Every further request may be the bindings of the run that sends it. -/
lemma Coherent.receives_bindings (h : s.Coherent source bindings) (hl : s.log ≠ []) (r : ι) :
    (s.receives r (.run (bindings r))).Coherent source bindings := by
  obtain ⟨e, rest, he⟩ := List.exists_cons_of_ne_nil hl
  have hlog : (s.receives r (.run (bindings r))).log = e :: (rest ++ [(r, .run (bindings r))]) := by
    simp [Station.receives, he]
  refine ⟨by simp [Station.receives, h.received], fun e' rest' he' => ?_, fun e' rest' he' => ?_,
    h.placed_receives r _⟩
  · obtain ⟨rfl, rfl⟩ := List.cons.inj (hlog.symm.trans he')
    exact h.first e rest he
  · obtain ⟨rfl, rfl⟩ := List.cons.inj (hlog.symm.trans he')
    intro f hf
    rcases List.mem_append.1 hf with hf | hf
    · exact h.later e rest he f hf
    · obtain rfl := List.mem_singleton.1 hf
      rfl

end Station

/-! ## All runs -/

/-- **A reply is where it belongs**: it is what its line says, and that line answers the request of
the run that got it. -/
def Delivery.Proper (d : Delivery ι) (s : Station ι) : Prop :=
  ∃ place bytes status, s.written[d.index]? = some (place, bytes) ∧
    s.log[place]? = some (d.run, d.request) ∧ readReply status bytes = .ok d.reply

/-- A reply stays where it belongs. -/
lemma Delivery.Proper.mono {d : Delivery ι} {s s' : Station ι} (h : d.Proper s)
    (he : s.Extends s') : d.Proper s' := by
  obtain ⟨place, bytes, status, hw, hl, hr⟩ := h
  exact ⟨place, bytes, status, he.written hw, he.log hl, hr⟩

/-- A run was handed the reply to its own bindings. -/
def Answered (bindings : ι → Bindings) (S : Situation ι) (r : ι) (reply : Reply) : Prop :=
  ∃ d ∈ S.deliveries, d.run = r ∧ d.request = .run (bindings r) ∧ d.reply = reply

/-- The request that a worker may be sent next: the script before all others. -/
def Due (source : String) (bindings : ι → Bindings) (s : Station ι) (r : ι) (q : Request) : Prop :=
  q = .compile source ∧ s.log = [] ∨ q = .run (bindings r) ∧ s.log ≠ []

/-- **What holds of a run**, by how far it has come. -/
def Hand (source : String) (bindings : ι → Bindings) (S : Situation ι) (r : ι) : Phase → Prop
  | .sending w q =>
    S.slot = none ∧ w < S.started ∧ (S.station w).Quiet ∧ Due source bindings (S.station w) r q
  | .awaiting w q =>
    S.slot = none ∧ w < S.started ∧ (S.station w).InFlight r q ∧
      (q = .compile source ∨ q = .run (bindings r))
  | .replied w reply =>
    S.slot = none ∧ w < S.started ∧ (S.station w).Quiet ∧ (S.station w).log ≠ [] ∧
      Answered bindings S r reply
  | .stopping w _ => S.slot = none ∧ w < S.started
  | .ended (.answered reply) => Answered bindings S r reply
  | .queued | .admitted | .ended (.failed _) | .dropped => True

/-- **The invariant.** Only the run whose turn it is has anything in its hands; a worker in the slot
has nothing under way; each reply is where it belongs, and none was handed over twice. -/
structure Invariant (source : String) (bindings : ι → Bindings) (S : Situation ι) : Prop where
  coherent : ∀ w, (S.station w).Coherent source bindings
  lock : ∀ r, (S.phase r).Active → S.turn = some r
  slot : ∀ w, S.slot = some w → w < S.started ∧ (S.station w).Quiet ∧ (S.station w).log ≠ []
  hand : ∀ r, Hand source bindings S r (S.phase r)
  proper : ∀ d ∈ S.deliveries, d.worker < S.started ∧
    d.index < (S.station d.worker).taken ∧ d.Proper (S.station d.worker)
  distinct : S.deliveries.Pairwise fun d e => ¬ (d.worker = e.worker ∧ d.index = e.index)

variable {source : String} {bindings : ι → Bindings} {S S' : Situation ι}

/-- What holds of a run still holds after a step that leaves alone what the run has in its hands. -/
lemma Hand.mono {r : ι} {φ : Phase} (h : Hand source bindings S r φ)
    (same : φ.Active → S'.slot = S.slot ∧ S'.started = S.started ∧ S'.station = S.station)
    (more : ∀ d ∈ S.deliveries, d ∈ S'.deliveries) : Hand source bindings S' r φ := by
  have answered : ∀ {reply : Reply}, Answered bindings S r reply → Answered bindings S' r reply :=
    fun ⟨d, hd, he⟩ => ⟨d, more d hd, he⟩
  cases φ with
  | queued | admitted | dropped => trivial
  | sending w q | awaiting w q | stopping w f =>
    obtain ⟨h₁, h₂, h₃⟩ := same trivial
    simpa only [Hand, h₁, h₂, h₃] using h
  | replied w reply =>
    obtain ⟨h₁, h₂, h₃⟩ := same trivial
    obtain ⟨hs, hw, hq, hl, ha⟩ := h
    exact ⟨h₁ ▸ hs, h₂ ▸ hw, h₃ ▸ hq, h₃ ▸ hl, answered ha⟩
  | ended ending =>
    cases ending with
    | answered reply => exact answered h
    | failed fault => trivial

/-- What holds of a run that has just got a well-formed reply, and of its worker. -/
lemma Hand.afterReply {r : ι} {w : ℕ} {q : Request} {reply : Reply} (slot : S.slot = none)
    (hw : w < S.started) (quiet : (S.station w).Quiet) (log : (S.station w).log ≠ [])
    (kind : q = .compile source ∨ q = .run (bindings r))
    (answered : q = .run (bindings r) → Answered bindings S r reply) :
    Hand source bindings S r (.afterReply (bindings r) w reply q) := by
  rcases kind with rfl | rfl
  · cases he : reply.error with
    | some text =>
      simp only [Phase.afterReply, he]
      exact ⟨slot, hw⟩
    | none =>
      simp only [Phase.afterReply, he]
      exact ⟨slot, hw, quiet, .inr ⟨rfl, log⟩⟩
  · exact ⟨slot, hw, quiet, log, answered rfl⟩

/-- A run with something in its hands has its turn. -/
lemma Invariant.turn_eq (h : Invariant source bindings S) {r : ι} {φ : Phase}
    (phase : S.phase r = φ) (active : φ.Active) : S.turn = some r :=
  h.lock r (phase ▸ active)

/-- What holds of a run that has come to a certain phase. -/
lemma Invariant.hand_eq (h : Invariant source bindings S) {r : ι} {φ : Phase}
    (phase : S.phase r = φ) : Hand source bindings S r φ :=
  phase ▸ h.hand r

/-- Nobody but the run whose turn it is has come further than to wait for it. -/
lemma Invariant.not_active (h : Invariant source bindings S) {r : ι} (hr : S.turn = some r) :
    ∀ r' ≠ r, ¬ (S.phase r').Active := by
  intro r' hne ha
  have := h.lock r' ha
  rw [hr] at this
  exact hne (Option.some.inj this).symm

/-- **A step of one run** keeps the invariant if it keeps what it says of this run, of the slot and
of the workers.

**Proof sketch.** Another run has nothing in its hands unless the step leaves turn, slot and
workers alone, so what holds of it is kept (`Hand.mono`). The replies handed over before stay
where they are because workers only go further; a new one differs from them because more lines of
its worker have been read. -/
lemma Invariant.advance (h : Invariant source bindings S) (r : ι)
    (others : ∀ r' ≠ r, S'.phase r' = S.phase r')
    (apart : ∀ r' ≠ r, (S.phase r').Active → S'.turn = S.turn ∧ S'.slot = S.slot ∧
      S'.started = S.started ∧ S'.station = S.station)
    (coherent : ∀ w, (S'.station w).Coherent source bindings)
    (further : ∀ w < S.started, (S.station w).Extends (S'.station w))
    (started : S.started ≤ S'.started)
    (lock : (S'.phase r).Active → S'.turn = some r)
    (slot : ∀ w, S'.slot = some w →
      w < S'.started ∧ (S'.station w).Quiet ∧ (S'.station w).log ≠ [])
    (hand : Hand source bindings S' r (S'.phase r))
    (news : S'.deliveries = S.deliveries ∨ ∃ d, S'.deliveries = S.deliveries ++ [d] ∧
      d.worker < S.started ∧ d.index = (S.station d.worker).taken ∧
      d.index < (S'.station d.worker).taken ∧ d.Proper (S'.station d.worker)) :
    Invariant source bindings S' := by
  have old : ∀ d ∈ S.deliveries, d.worker < S'.started ∧
      d.index < (S'.station d.worker).taken ∧ d.Proper (S'.station d.worker) := by
    intro d hd
    obtain ⟨hw, hi, hp⟩ := h.proper d hd
    have he := further d.worker hw
    exact ⟨by omega, by have := he.taken; omega, hp.mono he⟩
  have more : ∀ d ∈ S.deliveries, d ∈ S'.deliveries := by
    intro d hd
    rcases news with he | ⟨e, he, -⟩ <;> simp [he, hd]
  refine ⟨coherent, fun r' ha => ?_, slot, fun r' => ?_, fun d hd => ?_, ?_⟩
  · by_cases hr : r' = r
    · subst hr
      exact lock ha
    · rw [others r' hr] at ha
      rw [(apart r' hr ha).1]
      exact h.lock r' ha
  · by_cases hr : r' = r
    · subst hr
      exact hand
    · rw [others r' hr]
      exact (h.hand r').mono (fun ha => (apart r' hr ha).2) more
  · rcases news with he | ⟨e, he, hw, -, hi, hp⟩
    · exact old d (he ▸ hd)
    · rw [he, List.mem_append, List.mem_singleton] at hd
      rcases hd with hd | rfl
      · exact old d hd
      · exact ⟨by omega, hi, hp⟩
  · rcases news with he | ⟨e, he, -, hi, -⟩
    · rw [he]
      exact h.distinct
    · rw [he, List.pairwise_append]
      refine ⟨h.distinct, by simp, fun d hd e' he' => ?_⟩
      obtain rfl := List.mem_singleton.1 he'
      rintro ⟨hw, hx⟩
      have hlt := (h.proper d hd).2.1
      rw [hw] at hlt
      omega

variable [DecidableEq ι]

/-- A step in which a run moves on, without a change of the turn, the workers or the replies. -/
lemma Invariant.moves (h : Invariant source bindings S) {r : ι} {φ : Phase} (turn : S.turn = some r)
    (hand : Hand source bindings (S.moves r φ) r φ) : Invariant source bindings (S.moves r φ) := by
  refine h.advance r (fun r' hr => Function.update_of_ne hr _ _)
    (fun _ _ _ => ⟨rfl, rfl, rfl, rfl⟩) h.coherent (fun w _ => .refl _) (Nat.le_refl _)
    (fun _ => turn) h.slot ?_ (.inl rfl)
  simpa [Situation.moves] using hand

/-- A step in which a run ends. -/
lemma Invariant.leaves (h : Invariant source bindings S) {r : ι} {φ : Phase} (done : ¬ φ.Active)
    (hand : Hand source bindings S r φ) : Invariant source bindings (S.leaves r φ) := by
  refine h.advance r (fun r' hr => Function.update_of_ne hr _ _) (fun r' hr ha => ?_)
    h.coherent (fun w _ => .refl _) (Nat.le_refl _) (fun ha => ?_) h.slot ?_ (.inl rfl)
  · have hne : S.turn ≠ some r := fun ht => h.not_active ht r' hr ha
    exact ⟨if_neg hne, rfl, rfl, rfl⟩
  · exact absurd (by simpa [Situation.leaves] using ha) done
  · have hand' : Hand source bindings (S.leaves r φ) r φ :=
      hand.mono (fun _ => ⟨rfl, rfl, rfl⟩) fun _ hd => hd
    simpa [Situation.leaves] using hand'

omit [DecidableEq ι] in
/-- **A step of one worker** keeps the invariant if the worker stays quiet, and if no more than the
one answer under way is. -/
lemma Invariant.changes (h : Invariant source bindings S) {w : ℕ} {s : Station ι}
    (log : s.log = (S.station w).log) (taken : s.taken = (S.station w).taken)
    (coherent : s.Coherent source bindings)
    (further : (S.station w).Extends s) (quiet : (S.station w).Quiet → s.Quiet)
    (inFlight : ∀ r q, (S.station w).InFlight r q → s.InFlight r q) :
    Invariant source bindings (S.changes w s) := by
  have eq_or : ∀ w', (S.changes w s).station w' = S.station w' ∨
      w' = w ∧ (S.changes w s).station w' = s := by
    intro w'
    by_cases hw : w' = w
    · exact .inr ⟨hw, by simp [Situation.changes, hw]⟩
    · exact .inl (Function.update_of_ne hw _ _)
  have logs : ∀ w', ((S.changes w s).station w').log = (S.station w').log := by
    intro w'
    rcases eq_or w' with he | ⟨rfl, he⟩ <;> rw [he]
    exact log
  have quiets : ∀ w', (S.station w').Quiet → ((S.changes w s).station w').Quiet := by
    intro w' hq
    rcases eq_or w' with he | ⟨rfl, he⟩ <;> rw [he]
    · exact hq
    · exact quiet hq
  have flights : ∀ w' r q, (S.station w').InFlight r q →
      ((S.changes w s).station w').InFlight r q := by
    intro w' r q hq
    rcases eq_or w' with he | ⟨rfl, he⟩ <;> rw [he]
    · exact hq
    · exact inFlight r q hq
  refine ⟨fun w' => ?_, h.lock, fun w' hw => ?_, fun r => ?_, fun d hd => ?_, h.distinct⟩
  · rcases eq_or w' with he | ⟨rfl, he⟩ <;> rw [he]
    · exact h.coherent w'
    · exact coherent
  · obtain ⟨hlt, hq, hl⟩ := h.slot w' hw
    exact ⟨hlt, quiets w' hq, by rwa [logs]⟩
  · show Hand source bindings (S.changes w s) r (S.phase r)
    cases phase : S.phase r with
    | queued | admitted | dropped => trivial
    | sending w' q =>
      obtain ⟨hs, hw, hq, hd⟩ := h.hand_eq phase
      refine ⟨hs, hw, quiets w' hq, ?_⟩
      rwa [Due, logs]
    | awaiting w' q =>
      obtain ⟨hs, hw, hf, hk⟩ := h.hand_eq phase
      exact ⟨hs, hw, flights w' r q hf, hk⟩
    | replied w' reply =>
      obtain ⟨hs, hw, hq, hl, ha⟩ := h.hand_eq phase
      exact ⟨hs, hw, quiets w' hq, by rwa [logs], ha⟩
    | stopping w' f => exact h.hand_eq phase
    | ended ending =>
      cases ending with
      | answered reply => exact h.hand_eq phase
      | failed fault => trivial
  · obtain ⟨hw, hi, hp⟩ := h.proper d hd
    refine ⟨hw, ?_, ?_⟩
    · rcases eq_or d.worker with he | ⟨hd, he⟩ <;> rw [he]
      · exact hi
      · rw [taken, ← hd]
        exact hi
    · rcases eq_or d.worker with he | ⟨hd, he⟩ <;> rw [he]
      · exact hp
      · exact hp.mono (hd ▸ further)

/-- A step in which the run whose turn it is moves on, and in which its worker changes. -/
lemma Invariant.movesWith (h : Invariant source bindings S) {r : ι} {φ : Phase} {w : ℕ}
    {s : Station ι} (news : List (Delivery ι)) (own : S.turn = some r)
    (idle : S.slot = none) (hw : w < S.started) (coherent : s.Coherent source bindings)
    (further : (S.station w).Extends s)
    (fresh : news = [] ∨ ∃ d, news = [d] ∧ d.worker = w ∧ d.index = (S.station w).taken ∧
      d.index < s.taken ∧ d.Proper s)
    (phase : S'.phase = Function.update S.phase r φ) (turn : S'.turn = S.turn)
    (slot : S'.slot = S.slot) (started : S'.started = S.started)
    (station : S'.station = Function.update S.station w s)
    (deliveries : S'.deliveries = S.deliveries ++ news)
    (hand : Hand source bindings S' r φ) : Invariant source bindings S' := by
  have apart : ∀ r' ≠ r, ¬ (S.phase r').Active := h.not_active own
  have mine : S'.station w = s := by rw [station, Function.update_self]
  have other : ∀ w' ≠ w, S'.station w' = S.station w' := by
    intro w' hne
    rw [station, Function.update_of_ne hne]
  refine h.advance r (fun r' hr => by rw [phase, Function.update_of_ne hr])
    (fun r' hr ha => absurd ha (apart r' hr)) (fun w' => ?_) (fun w' _ => ?_)
    (Nat.le_of_eq started.symm) (fun _ => turn.trans own) (fun w' hw' => ?_) ?_ ?_
  · by_cases hne : w' = w
    · rwa [hne, mine]
    · rw [other w' hne]
      exact h.coherent w'
  · by_cases hne : w' = w
    · rwa [hne, mine]
    · rw [other w' hne]
      exact .refl _
  · rw [slot, idle] at hw'
    exact nomatch hw'
  · rwa [phase, Function.update_self]
  · rcases fresh with rfl | ⟨d, rfl, rfl, hi, hlt, hp⟩
    · exact .inl (deliveries.trans (List.append_nil _))
    · exact .inr ⟨d, deliveries, hw, hi, mine.symm ▸ hlt, mine.symm ▸ hp⟩

/-- **Every step keeps the invariant.** -/
theorem Invariant.step (h : Invariant source bindings S) (hs : Step source bindings S S') :
    Invariant source bindings S' := by
  cases hs with
  | @enter r phase free =>
    have idle : ∀ r', ¬ (S.phase r').Active := fun r' ha => nomatch free.symm.trans (h.lock r' ha)
    refine h.advance r (fun r' hr => Function.update_of_ne hr _ _)
      (fun r' _ ha => absurd ha (idle r')) h.coherent (fun w _ => .refl _) (Nat.le_refl _)
      (fun _ => rfl) h.slot ?_ (.inl rfl)
    simp [Situation.moves, Hand]
  | @take r w phase slot =>
    have turn := h.turn_eq phase trivial
    obtain ⟨hw, hq, hl⟩ := h.slot w slot
    refine h.advance r (fun r' hr => Function.update_of_ne hr _ _)
      (fun r' hr ha => absurd ha (h.not_active turn r' hr)) h.coherent (fun w _ => .refl _)
      (Nat.le_refl _) (fun _ => turn) (fun _ hw => nomatch hw) ?_ (.inl rfl)
    simp only [Situation.moves, Function.update_self]
    exact ⟨rfl, hw, hq, .inr ⟨rfl, hl⟩⟩
  | @launch r behaviour phase slot =>
    have turn := h.turn_eq phase trivial
    refine h.advance r (fun r' hr => Function.update_of_ne hr _ _)
      (fun r' hr ha => absurd ha (h.not_active turn r' hr)) (fun w => ?_) (fun w hw => ?_)
      (Nat.le_succ _) (fun _ => turn) (fun _ hw => nomatch slot.symm.trans hw) ?_ (.inl rfl)
    · by_cases hw : w = S.started
      · simpa [Situation.changes, hw] using Station.Coherent.fresh behaviour
      · simpa [Situation.changes, Situation.moves, hw] using h.coherent w
    · simpa [Situation.changes, Situation.moves, Nat.ne_of_lt hw] using .refl _
    · simp only [Situation.changes, Situation.moves, Function.update_self]
      exact ⟨slot, Nat.lt_succ_self _, by simpa using Station.Quiet.fresh behaviour,
        .inl ⟨rfl, by simp [Station.fresh]⟩⟩
  | launchFails why phase slot => exact h.leaves id trivial
  | @send r w q phase =>
    obtain ⟨hs, hw, hq, hd⟩ := h.hand_eq phase
    refine h.movesWith [] (h.turn_eq phase trivial) hs hw ?_ (.receives ..) (.inl rfl)
      rfl rfl rfl rfl rfl (List.append_nil _).symm ⟨hs, hw, ?_, hd.imp And.left And.left⟩
    · rcases hd with ⟨rfl, hl⟩ | ⟨rfl, hl⟩
      · exact (h.coherent w).receives_script hl r
      · exact (h.coherent w).receives_bindings hl r
    · simpa [Situation.changes] using hq.receives r q
  | @lose r w q phase =>
    obtain ⟨hs, hw, hq, hd⟩ := h.hand_eq phase
    refine h.moves (h.turn_eq phase trivial) ⟨hs, hw, .quiet hq, ?_⟩
    exact hd.imp And.left And.left
  | @unsent r w q status phase =>
    have hr := h.hand_eq phase
    exact h.moves (h.turn_eq phase trivial) ⟨hr.1, hr.2.1⟩
  | @reply r w q bytes p status reply phase line wellFormed =>
    obtain ⟨hs, hw, hf, hk⟩ := h.hand_eq phase
    obtain ⟨⟨place, hplace, hlog⟩, hq, hl⟩ := hf.read line
    have proper : (⟨r, w, (S.station w).taken, q, reply⟩ : Delivery ι).Proper
        ((S.station w).read p) := ⟨place, bytes, status, hplace, hlog, wellFormed⟩
    -- the reply is new: it is the first line of this worker that was not read before
    refine h.movesWith [_] (h.turn_eq phase trivial) hs hw ((h.coherent w).read line) (.read ..)
      (.inr ⟨_, rfl, rfl, rfl, Nat.lt_succ_self _, proper⟩) rfl rfl rfl rfl rfl rfl ?_
    refine .afterReply hs hw ?_ ?_ hk fun he => ⟨_, List.mem_append_right _ (.head _), rfl, he, rfl⟩
    · show (Function.update S.station w ((S.station w).read p) w).Quiet
      rwa [Function.update_self]
    · show (Function.update S.station w ((S.station w).read p) w).log ≠ []
      rwa [Function.update_self]
  | @garbage r w q bytes p status fault phase line illFormed =>
    obtain ⟨hs, hw, -⟩ := h.hand_eq phase
    exact h.movesWith [] (h.turn_eq phase trivial) hs hw ((h.coherent w).read line)
      (.read ..) (.inl rfl) rfl rfl rfl rfl rfl (List.append_nil _).symm ⟨hs, hw⟩
  | @closed r w q p status phase line =>
    have hr := h.hand_eq phase
    exact h.moves (h.turn_eq phase trivial) ⟨hr.1, hr.2.1⟩
  | @putBack r w reply phase =>
    have turn := h.turn_eq phase trivial
    obtain ⟨-, hw, hq, hl, ha⟩ := h.hand_eq phase
    refine h.advance r (fun r' hr => Function.update_of_ne hr _ _)
      (fun r' hr ha => absurd ha (h.not_active turn r' hr)) h.coherent (fun w _ => .refl _)
      (Nat.le_refl _) (fun ha => ?_) (fun w' hw' => ?_) ?_ (.inl rfl)
    · simp [Situation.leaves, Phase.Active] at ha
    · obtain rfl := Option.some.inj hw'
      exact ⟨hw, hq, hl⟩
    · simp only [Situation.leaves, Function.update_self]
      exact ha
  | stopped phase => exact h.leaves id trivial
  | drop waits => exact h.leaves id trivial
  | write w place after order line =>
    exact h.changes rfl rfl ((h.coherent w).writes after) (.writes ..)
      (fun hq => (hq.not_answerable after order).elim) fun r q hf => hf.writes after order line
  | @falter w closesInput closesOutput ends =>
    have hc := h.coherent w
    exact h.changes rfl rfl ⟨hc.received, hc.first, hc.later, hc.placed⟩ ⟨id, id, Nat.le_refl _⟩
      (fun hq => ⟨hq.unread, hq.taken, hq.settled⟩) fun r q hf => hf.falters _ _ _

omit [DecidableEq ι] in
/-- Before the first step there is nothing to say. -/
lemma Invariant.start : Invariant source bindings (.start : Situation ι) where
  coherent _ := .fresh _
  lock _ ha := ha.elim
  slot _ hw := nomatch hw
  hand _ := trivial
  proper _ hd := nomatch hd
  distinct := .nil

/-- **The invariant holds in every situation.** -/
theorem Reachable.invariant (h : Reachable source bindings S) : Invariant source bindings S := by
  induction h with
  | start => exact .start
  | step _ hs ih => exact ih.step hs

/-! ## What the invariant says -/

omit [DecidableEq ι] in
/-- A run that has got a reply was handed it as the reply to its bindings. -/
lemma Invariant.answered (h : Invariant source bindings S) {r : ι} {φ : Phase} {reply : Reply}
    (phase : S.phase r = φ) (hr : φ.reply? = some reply) : Answered bindings S r reply := by
  have hand := h.hand_eq phase
  cases φ with
  | queued | admitted | sending | awaiting | stopping | dropped => exact nomatch hr
  | replied w reply' =>
    obtain rfl := Option.some.inj hr
    exact hand.2.2.2.2
  | ended ending =>
    cases ending with
    | failed fault => exact nomatch hr
    | answered reply' =>
      obtain rfl := Option.some.inj hr
      exact hand

omit [DecidableEq ι] in
/-- The worker in the hands of a run is not in the slot, and the run has its turn. -/
lemma Invariant.inHand (h : Invariant source bindings S) {r : ι} {φ : Phase} {w : ℕ}
    (phase : S.phase r = φ) (hr : φ.worker? = some w) : S.turn = some r ∧ S.slot = none := by
  have hand := h.hand_eq phase
  cases φ with
  | queued | admitted | ended | dropped => exact nomatch hr
  | sending | awaiting | replied | stopping => exact ⟨h.turn_eq phase trivial, hand.1⟩

omit [DecidableEq ι] in
/-- A worker has received nothing, or the script and then bindings. -/
lemma Invariant.received (h : Invariant source bindings S) (w : ℕ) :
    (S.station w).process.received = [] ∨ ∃ runs : List ι,
      (S.station w).process.received =
        (Request.compile source).line :: runs.map fun r => (Request.run (bindings r)).line := by
  have hc := h.coherent w
  rw [hc.received]
  cases hlog : (S.station w).log with
  | nil => exact .inl rfl
  | cons e rest =>
    refine .inr ⟨rest.map (·.1), ?_⟩
    rw [List.map_cons, hc.first e rest hlog, List.map_map]
    congr 1
    exact List.map_congr_left fun f hf => by
      rw [hc.later e rest hlog f hf]
      rfl

/-- **Each reply that is handed over answers the request of the run that gets it.** -/
theorem Reachable.delivered (h : Reachable source bindings S) {d : Delivery ι}
    (hd : d ∈ S.deliveries) : ∃ place bytes status,
      (S.station d.worker).written[d.index]? = some (place, bytes) ∧
      readReply status bytes = .ok d.reply ∧
      (S.station d.worker).log[place]? = some (d.run, d.request) ∧
      (S.station d.worker).process.received[place]? = some d.request.line := by
  obtain ⟨-, -, place, bytes, status, hw, hl, hr⟩ := h.invariant.proper d hd
  refine ⟨place, bytes, status, hw, hr, hl, ?_⟩
  rw [(h.invariant.coherent d.worker).received, List.getElem?_map, hl]
  rfl

/-- **No worker is in the hands of two runs**, or in the hands of a run and in the slot. -/
theorem Reachable.unshared (h : Reachable source bindings S) {r : ι} {w : ℕ}
    (hr : (S.phase r).worker? = some w) :
    S.slot ≠ some w ∧ ∀ r', (S.phase r').worker? = some w → r' = r := by
  obtain ⟨ht, hs⟩ := h.invariant.inHand rfl hr
  refine ⟨fun he => (nomatch hs.symm.trans he), fun r' hr' => ?_⟩
  exact Option.some.inj ((h.invariant.inHand rfl hr').1.symm.trans ht)

/-- **A script is received before all else**, and never again. -/
theorem Reachable.place_of_compile (h : Reachable source bindings S) {w place : ℕ}
    {script : String}
    (hp : (S.station w).process.received[place]? = some (Request.compile script).line) :
    place = 0 := by
  rcases h.invariant.received w with he | ⟨runs, he⟩
  · simp [he] at hp
  · cases place with
    | zero => rfl
    | succ n =>
      rw [he, List.getElem?_cons_succ, List.getElem?_map] at hp
      obtain ⟨r, -, hr⟩ := Option.map_eq_some_iff.1 hp
      exact absurd hr.symm (Request.line_compile_ne _ _)

end Sharing

end ScriptStage.Worker
