import Mathlib.Data.List.Forall2
import Mathlib.Tactic.Common
import ScriptStage.Transformer

/-!
# Histories of a message

A message goes through any number of transformers. Each call of one of them succeeds, fails, or is
given up by its caller while the script still runs. This file says what the message is like after a
history of such calls, and that a history without the calls that failed or were given up comes to
the same payload.

## Main definitions

* `ScriptStage.Call` — a call of a transformer; `Call.apply` is the message after it.
* `ScriptStage.Message.after` — a message after a history of calls.
* `ScriptStage.Message.seen` — the calls of a history, each with the message that it saw.
* `ScriptStage.Message.kept` — the calls of a history that succeed.
* `ScriptStage.Transformer.Pure` — a transformer that keeps nothing between its calls.

## Main results

* `ScriptStage.Call.apply_cases` — what one call does to a message.
* `ScriptStage.Message.after_frame`, `after_payload`, `after_errors` — what a history does to it.
* `ScriptStage.Message.after_kept` — the calls that do not succeed can be left out.
* `ScriptStage.Message.after_history` — all of this.
-/

set_option autoImplicit false

namespace ScriptStage

/-! ## One call -/

/-- One call of a transformer on a message. -/
structure Call where
  /-- The transformer. -/
  transformer : Transformer
  /-- The earlier runs of its script, on whatever messages. -/
  past : List Past
  /-- When a failure would be reported. -/
  now : String
  /-- Whether the call is given up before its run has ended. The message is changed only after the
  run, so that it does not matter when. -/
  dropped : Bool

namespace Call

/-- How the run of a call ends, if the call lasts so long. -/
def outcome? (c : Call) (m : Message) : Option (Except Failure Json) :=
  if c.dropped then none else c.transformer.outcome? c.past m

/-- The message after a call. -/
def apply (c : Call) (m : Message) : Message :=
  if c.dropped then m else ((c.transformer.process c.past m c.now).map Prod.fst).getD m

/-- What a call returns, if it returns. -/
def returned? (c : Call) (m : Message) : Option (Except Failure Unit) :=
  if c.dropped then none else (c.transformer.process c.past m c.now).map Prod.snd

/-- The result of a call that succeeds. -/
def result? (c : Call) (m : Message) : Option Json :=
  match c.outcome? m with
  | some (.ok v) => some v
  | _ => none

/-- The failure that a call returns. -/
def failure? (c : Call) (m : Message) : Option Failure :=
  match c.returned? m with
  | some (.error f) => some f
  | _ => none

/-- A call that differs at most in the earlier runs of its script and in its time. -/
def Same (c c' : Call) : Prop :=
  c.transformer = c'.transformer ∧ c.dropped = c'.dropped

variable (c : Call) (m : Message)

lemma apply_eq : c.apply m = match c.outcome? m with
    | some r => c.transformer.settle m c.now r
    | none => m := by
  unfold apply outcome? Transformer.process
  cases c.dropped with
  | true => rfl
  | false => cases c.transformer.outcome? c.past m <;> rfl

lemma returned?_eq : c.returned? m = (c.outcome? m).map fun r => r.map fun _ => () := by
  unfold returned? outcome? Transformer.process
  cases c.dropped with
  | true => rfl
  | false => cases c.transformer.outcome? c.past m <;> rfl

/-- **What one call does to a message**: nothing, or it succeeds and replaces the payload, or it
fails and adds a report of the failure that it returns. -/
lemma apply_cases :
    (c.result? m = none ∧ c.failure? m = none ∧ c.apply m = m) ∨
    (∃ v, c.result? m = some v ∧ c.failure? m = none ∧ c.apply m = m.withPayload v) ∨
    (∃ f, c.result? m = none ∧ c.failure? m = some f ∧
      c.apply m = m.addReport (c.transformer.report m f c.now)) := by
  have happly := c.apply_eq m
  have hreturned := c.returned?_eq m
  unfold result? failure?
  cases h : c.outcome? m with
  | none =>
    rw [h] at happly hreturned
    exact .inl ⟨rfl, by rw [hreturned]; rfl, happly⟩
  | some r =>
    rw [h] at happly hreturned
    cases r with
    | ok v => exact .inr (.inl ⟨v, rfl, by rw [hreturned]; rfl, happly⟩)
    | error f => exact .inr (.inr ⟨f, rfl, by rw [hreturned]; rfl, happly⟩)

/-- A call that is given up does nothing. -/
lemma apply_of_dropped (h : c.dropped) : c.apply m = m :=
  if_pos h

/-- No call changes the id or the headers. -/
lemma apply_frame : (c.apply m).id = m.id ∧ (c.apply m).headers = m.headers := by
  rcases c.apply_cases m with ⟨-, -, h⟩ | ⟨v, -, -, h⟩ | ⟨f, -, -, h⟩ <;> rw [h] <;>
    exact ⟨rfl, rfl⟩

/-- The report that a call leaves on a message with a certain id. -/
def report? (c : Call) (m : Message) (id : String) : Option Report :=
  (c.failure? m).map fun f =>
    ⟨f.code, f.message, some id, some c.transformer.language, some c.now, f.retryable⟩

end Call

/-! ## Histories -/

namespace Message

/-- The message after some calls, one after another. -/
def after (m : Message) (calls : List Call) : Message :=
  calls.foldl (fun m c => c.apply m) m

/-- Some calls, each with the message that it sees. -/
def seen : Message → List Call → List (Call × Message)
  | _, [] => []
  | m, c :: calls => (c, m) :: seen (c.apply m) calls

/-- The results of the calls that succeed. -/
def results (m : Message) (calls : List Call) : List Json :=
  (m.seen calls).filterMap fun e => e.1.result? e.2

/-- The reports of the calls that fail. -/
def reports (m : Message) (calls : List Call) : List Report :=
  (m.seen calls).filterMap fun e => e.1.report? e.2 m.id

/-- The calls that succeed. -/
def kept (m : Message) (calls : List Call) : List Call :=
  ((m.seen calls).filter fun e => (e.1.result? e.2).isSome).map Prod.fst

variable (m : Message) (c : Call) (calls : List Call)

@[simp]
lemma after_cons : m.after (c :: calls) = (c.apply m).after calls := rfl

@[simp]
lemma seen_cons : m.seen (c :: calls) = (c, m) :: (c.apply m).seen calls := rfl

lemma after_append (calls' : List Call) :
    m.after (calls ++ calls') = (m.after calls).after calls' :=
  List.foldl_append

/-- No history changes the id or the headers. -/
lemma after_frame : (m.after calls).id = m.id ∧ (m.after calls).headers = m.headers := by
  induction calls generalizing m with
  | nil => exact ⟨rfl, rfl⟩
  | cons c calls ih =>
    obtain ⟨hid, hheaders⟩ := c.apply_frame m
    obtain ⟨ihid, ihheaders⟩ := ih (c.apply m)
    exact ⟨ihid.trans hid, ihheaders.trans hheaders⟩

lemma results_cons :
    m.results (c :: calls) = (c.result? m).toList ++ (c.apply m).results calls := by
  unfold results
  cases h : c.result? m <;> simp [h]

lemma reports_cons :
    m.reports (c :: calls) = (c.report? m m.id).toList ++ (c.apply m).reports calls := by
  unfold reports
  rw [(c.apply_frame m).1]
  cases h : c.report? m m.id <;> simp [h]

/-- The payload is the last result. -/
lemma after_payload : (m.after calls).payload = (m.results calls).getLast?.getD m.payload := by
  induction calls generalizing m with
  | nil => rfl
  | cons c calls ih =>
    rw [after_cons, ih, results_cons]
    rcases c.apply_cases m with ⟨hr, -, ha⟩ | ⟨v, hr, -, ha⟩ | ⟨f, hr, -, ha⟩
    · rw [hr, ha]
      rfl
    · rw [hr, ha, Option.toList_some, List.singleton_append, List.getLast?_cons]
      rfl
    · rw [hr, ha]
      rfl

/-- The errors grow by one report for each failure. -/
lemma after_errors : (m.after calls).errors = m.errors ++ m.reports calls := by
  induction calls generalizing m with
  | nil => exact (List.append_nil _).symm
  | cons c calls ih =>
    rw [after_cons, ih, reports_cons, ← List.append_assoc]
    congr 1
    rcases c.apply_cases m with ⟨-, hf, ha⟩ | ⟨v, -, hf, ha⟩ | ⟨f, -, hf, ha⟩
    · simp [Call.report?, hf, ha]
    · simp [Call.report?, hf, ha, withPayload]
    · simp [Call.report?, hf, ha, addReport, Transformer.report, Report.ofFailure, Report.new]

/-- A call that is given up can be left out. -/
lemma after_dropped (before later : List Call) (h : c.dropped) :
    m.after (before ++ c :: later) = m.after (before ++ later) := by
  rw [after_append, after_append, after_cons, c.apply_of_dropped _ h]

/-! ## Histories without the calls that do not succeed -/

/-- Two messages that differ at most in their errors. -/
structure Alike (m m' : Message) : Prop where
  id : m.id = m'.id
  payload : m.payload = m'.payload
  headers : m.headers = m'.headers

end Message

/-- **A transformer that keeps nothing between its calls**: what it generates depends on no errors,
and what its script answers depends on its bindings only. -/
structure Transformer.Pure (t : Transformer) : Prop where
  generator : ∀ {m m' : Message}, m.Alike m' → t.generator m = t.generator m'
  script : ∀ past past' b, t.script.respond past b = t.script.respond past' b

/-- A pure transformer answers alike messages alike. -/
lemma Transformer.Pure.outcome?_eq {t : Transformer} (h : t.Pure) {m m' : Message}
    (alike : m.Alike m') (past past' : List Past) : t.outcome? past m = t.outcome? past' m' := by
  have hfailed : t.failed m = t.failed m' := by
    funext f
    rw [Transformer.failed, Transformer.failed, alike.id]
  have hbindings : t.bindingsFor m = t.bindingsFor m' := by
    rw [Transformer.bindingsFor, Transformer.bindingsFor, h.generator alike, alike.payload,
      alike.headers]
  have htransform : t.transform past m = t.transform past' m' := by
    rw [Transformer.transform, Transformer.transform, hfailed, hbindings, h.script past past']
  rw [Transformer.outcome?, Transformer.outcome?, htransform, hfailed]

/-- The same call of a pure transformer has the same result on a message that is alike. -/
lemma Call.Same.result?_eq {c c' : Call} (same : c.Same c') (h : c.transformer.Pure)
    {m m' : Message} (alike : m.Alike m') : c'.result? m' = c.result? m := by
  have ends : c'.outcome? m' = c.outcome? m := by
    rw [outcome?, outcome?, ← same.1, ← same.2, h.outcome?_eq alike c.past c'.past]
  rw [result?, result?, ends]

namespace Message

variable {m m' : Message} {calls calls' : List Call}

lemma kept_cons (m : Message) (c : Call) (calls : List Call) :
    m.kept (c :: calls) =
      if (c.result? m).isSome then c :: (c.apply m).kept calls else (c.apply m).kept calls := by
  unfold kept
  cases h : c.result? m <;> simp [h]

/-- **The calls that do not succeed can be left out**, if the transformers keep nothing: all others
succeed with the same results.

**Proof sketch.** Induction on the history. A call that does not succeed leaves a message that is
like the one that it saw; one that succeeds gives both messages the same payload. -/
theorem after_kept (pure : ∀ c ∈ calls, c.transformer.Pure) (alike : m.Alike m')
    (same : List.Forall₂ Call.Same (m.kept calls) calls') :
    (m.after calls).Alike (m'.after calls') ∧ (m'.after calls').errors = m'.errors ∧
      (m'.seen calls').map (fun e => e.1.result? e.2) = (m.results calls).map some := by
  induction calls generalizing m m' calls' with
  | nil =>
    cases same
    exact ⟨alike, rfl, rfl⟩
  | cons c calls ih =>
    have pure' : ∀ c ∈ calls, c.transformer.Pure := fun c hc => pure c (.tail _ hc)
    rw [kept_cons] at same
    rw [after_cons, results_cons]
    rcases c.apply_cases m with ⟨hr, -, ha⟩ | ⟨v, hr, -, ha⟩ | ⟨f, hr, -, ha⟩
    · rw [hr, ha] at same
      rw [hr, ha]
      exact ih pure' alike same
    · -- the call is kept, so that the other history starts with the same call
      rw [hr] at same
      obtain ⟨c', later, hc, hlater, rfl⟩ := List.forall₂_cons_left_iff.1 same
      have hr' : c'.result? m' = some v := (hc.result?_eq (pure c (.head _)) alike).trans hr
      have ha' : c'.apply m' = m'.withPayload v := by
        rcases c'.apply_cases m' with ⟨h, -⟩ | ⟨v', h, -, ha'⟩ | ⟨f, h, -⟩
        · exact nomatch hr'.symm.trans h
        · rw [ha', Option.some.inj (hr'.symm.trans h)]
        · exact nomatch hr'.symm.trans h
      have alike' : (c.apply m).Alike (c'.apply m') := by
        rw [ha, ha']
        exact ⟨alike.id, rfl, alike.headers⟩
      obtain ⟨h₁, h₂, h₃⟩ := ih pure' alike' hlater
      refine ⟨h₁, ?_, ?_⟩
      · rw [after_cons, h₂, ha']
        rfl
      · rw [seen_cons, List.map_cons, h₃, hr', hr]
        rfl
    · rw [hr] at same
      rw [hr]
      refine ih pure' ?_ same
      rw [ha]
      exact ⟨alike.id, alike.payload, alike.headers⟩

/-! ## What a history does -/

/-- **What a history does to a message.** Whatever transformers handle the message, and however
each call ends:

* the id and the headers stay;
* the payload is the last result, or the first payload if no call succeeds;
* the errors grow, in order, by one report for each failure, with the code, the text and the
  retryability of the failure that the call returns, the id of the message and the language of the
  transformer;
* a call that is given up can be left out;
* the script of each call is run on the generated variables, overridden by the payload as it is at
  that moment and by the headers;
* if the transformers keep nothing between their calls, the calls that do not succeed can all be
  left out: the others have the same results, and there are no new errors.

**Proof sketch.** One call does one of three things (`Call.apply_cases`); the rest are inductions on
the history. -/
theorem after_history (m : Message) (calls : List Call) :
    (m.after calls).id = m.id ∧
    (m.after calls).headers = m.headers ∧
    (m.after calls).payload =
      ((m.seen calls).filterMap fun e => e.1.result? e.2).getLast?.getD m.payload ∧
    (m.after calls).errors = m.errors ++ (m.seen calls).filterMap (fun e =>
      (e.1.failure? e.2).map fun f =>
        ⟨f.code, f.message, some m.id, some e.1.transformer.language, some e.1.now,
          f.retryable⟩) ∧
    (∀ before c later, calls = before ++ c :: later → c.dropped = true →
      m.after calls = m.after (before ++ later)) ∧
    (∀ before c later, calls = before ++ c :: later →
      ∃ b : Bindings,
        c.transformer.transform c.past (m.after before) =
          (c.transformer.script.respond c.past b).mapFailure
            (c.transformer.failed (m.after before)) ∧
        ∀ name, b.get? name =
          if name = "headers" then some (.ofDict m.headers)
          else if name = "payload" then some (m.after before).payload
          else (c.transformer.generator (m.after before)).get? name) ∧
    ((∀ c ∈ calls, c.transformer.Pure) → ∀ calls', List.Forall₂ Call.Same (m.kept calls) calls' →
      (m.after calls').id = m.id ∧
      (m.after calls').headers = m.headers ∧
      (m.after calls').payload = (m.after calls).payload ∧
      (m.after calls').errors = m.errors ∧
      (m.seen calls').map (fun e => e.1.result? e.2) =
        ((m.seen calls).filterMap fun e => e.1.result? e.2).map some) := by
  obtain ⟨hid, hheaders⟩ := m.after_frame calls
  refine ⟨hid, hheaders, m.after_payload calls, m.after_errors calls, ?_, ?_, ?_⟩
  · rintro before c later rfl dropped
    exact m.after_dropped c before later dropped
  · rintro before c later rfl
    refine ⟨c.transformer.bindingsFor (m.after before), rfl, fun name => ?_⟩
    rw [Transformer.bindingsFor, Dict.get?_insert, Dict.get?_insert, (m.after_frame before).2]
    simp only [eq_comm]
  · intro pure calls' same
    obtain ⟨hid', hheaders'⟩ := m.after_frame calls'
    obtain ⟨alike, herrors, hresults⟩ := after_kept pure ⟨rfl, rfl, rfl⟩ same
    exact ⟨hid', hheaders', alike.payload.symm, herrors, hresults⟩

/-- A call succeeds, the next one fails, and a third one is given up; the first one alone comes to
the same payload. -/
theorem after_history_mixed :
    ∃ (m : Message) (first second third : Call),
      (∀ c ∈ [first, second, third], c.transformer.Pure) ∧ third.dropped = true ∧
      (m.after [first, second, third]).payload = .bool true ∧
      (m.after [first, second, third]).errors =
        [⟨"EXECUTION_ERROR", "Script execution error: python script failed for message 1",
          some "1", some "python", some "now", false⟩] ∧
      (m.after [first]).payload = .bool true ∧ (m.after [first]).errors = [] := by
  let t (r : Except Failure Json) : Transformer :=
    ⟨⟨"python", "", .inline⟩, .ofFunction fun _ => r, fun _ => .empty, none⟩
  let m : Message := .new "1" .null
  let first : Call := ⟨t (.ok (.bool true)), [], "now", false⟩
  let second : Call := ⟨t (.error (.script "no")), [], "now", false⟩
  let third : Call := ⟨t (.ok (.bool false)), [], "now", true⟩
  have pure : ∀ c ∈ [first, second, third], c.transformer.Pure := by
    simp only [List.forall_mem_cons]
    exact ⟨⟨fun _ => rfl, fun _ _ _ => rfl⟩, ⟨fun _ => rfl, fun _ _ _ => rfl⟩,
      ⟨fun _ => rfl, fun _ _ _ => rfl⟩, fun _ h => nomatch h⟩
  obtain ⟨-, -, payload, errors, -, -, kept⟩ := after_history m [first, second, third]
  have same : List.Forall₂ Call.Same (m.kept [first, second, third]) [first] :=
    .cons ⟨rfl, rfl⟩ .nil
  obtain ⟨-, -, payload', errors', -⟩ := kept pure [first] same
  exact ⟨m, first, second, third, pure, rfl, payload.trans rfl, errors.trans rfl,
    payload'.trans (payload.trans rfl), errors'.trans rfl⟩

end Message

end ScriptStage
