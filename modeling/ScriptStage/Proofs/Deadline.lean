import ScriptStage.Builtins
import ScriptStage.Proofs.Embedded
import ScriptStage.Proofs.History

/-!
# Deadlines

A transformer may limit the time that each run takes. This file says that such a limit does nothing
to runs that are not late, what it does to late ones, and that for the executors of this library a
failure is worth another attempt just if it comes from a missed deadline.

## Main definitions

* `ScriptStage.Attempt.InTime` — a run that ends within a limit.
* `ScriptStage.Transformer.withoutLimit` — a transformer that waits as long as it takes.
* `ScriptStage.Transformer.Late` — the run of a transformer on a message misses its deadline.
* `ScriptStage.Executor.BuiltIn` — the executors of this library.
* `ScriptStage.Script.Retimed` — a script whose runs may take another time.

## Main results

* `ScriptStage.Transformer.process_of_not_late`, `process_of_late` — the two kinds of runs.
* `ScriptStage.Executor.BuiltIn.onlyScript` — how runs of the executors of this library fail.
* `ScriptStage.Registry.builtIn_builtins` — the registry of this library has only these.
* `ScriptStage.Transformer.retryable_iff_late` — what is worth another attempt.
* `ScriptStage.Transformer.process_with_deadline` — all of this for one call.
* `ScriptStage.Message.after_withoutLimit` — a history without late runs.
-/

set_option autoImplicit false

namespace ScriptStage

/-! ## Runs in time -/

/-- **A run that ends within a limit.** One that ends exactly at the limit does. -/
def Attempt.InTime (a : Attempt) (limit : Duration) : Prop :=
  ∃ d r, a = .finished d r ∧ d ≤ limit

namespace Attempt

variable {a : Attempt} {limit d : Duration} {r : Except Failure Json}

lemma within_of_le (h : d ≤ limit) : (finished d r).within limit = some r :=
  if_pos h

lemma within_of_not_inTime (h : ¬ a.InTime limit) : a.within limit = none := by
  cases a with
  | finished d r => exact if_neg fun hd => h ⟨d, r, rfl, hd⟩
  | pending => rfl

/-- Another failure takes no other time. -/
lemma inTime_mapFailure (f : Failure → Failure) :
    (a.mapFailure f).InTime limit ↔ a.InTime limit := by
  cases a with
  | finished d r =>
    constructor
    · rintro ⟨d, -, ⟨⟩, hd⟩
      exact ⟨_, _, rfl, hd⟩
    · rintro ⟨d, -, ⟨⟩, hd⟩
      exact ⟨_, _, rfl, hd⟩
  | pending => exact ⟨fun ⟨_, _, h, _⟩ => (nomatch h), fun ⟨_, _, h, _⟩ => nomatch h⟩

end Attempt

namespace Transformer

/-- The transformer that waits as long as a run takes. -/
def withoutLimit (t : Transformer) : Transformer :=
  { t with limit := none }

/-- The run of the script on a message, as the script answers it. -/
def run (t : Transformer) (past : List Past) (m : Message) : Attempt :=
  t.script.respond past (t.bindingsFor m)

/-- **The run on a message misses its deadline.** -/
def Late (t : Transformer) (past : List Past) (m : Message) : Prop :=
  ∃ limit, t.limit = some limit ∧ ¬ (t.run past m).InTime limit

variable {t : Transformer} {past : List Past} {m : Message} {limit : Duration}

/-- A run that is not late ends as it would without a limit. -/
lemma outcome?_of_not_late (h : ¬ t.Late past m) :
    t.outcome? past m = t.withoutLimit.outcome? past m ∧
      t.completes past m = t.withoutLimit.completes past m := by
  have htransform : t.withoutLimit.transform past m = t.transform past m := rfl
  have hnone : t.withoutLimit.limit = none := rfl
  unfold outcome? completes
  rw [htransform, hnone]
  cases hl : t.limit with
  | none => exact ⟨rfl, rfl⟩
  | some limit =>
    have hin : (t.transform past m).InTime limit :=
      (Attempt.inTime_mapFailure _).2 (not_not.1 fun hn => h ⟨limit, hl, hn⟩)
    obtain ⟨d, r, hd, hle⟩ := hin
    simp only [hd, Attempt.within_of_le hle, Attempt.outcome?, Option.getD_some,
      Option.isSome_some, and_self]

/-- **A run that is not late has the effect that it has without a limit.** -/
theorem process_of_not_late (h : ¬ t.Late past m) (now : String) :
    t.process past m now = t.withoutLimit.process past m now := by
  rw [process, process, (outcome?_of_not_late h).1]
  rfl

/-- The failure that a late run is reported with. -/
def lateFailure (t : Transformer) (m : Message) (limit : Duration) : Failure :=
  t.failed m (late limit)

/-- **A late run fails with its deadline as the cause**, and nothing but a report is added. -/
theorem process_of_late (hl : t.limit = some limit) (h : ¬ (t.run past m).InTime limit)
    (now : String) : t.process past m now =
      some (m.addReport (t.report m (t.lateFailure m limit) now),
        .error (t.lateFailure m limit)) := by
  have hlate : (t.transform past m).within limit = none :=
    Attempt.within_of_not_inTime fun hin => h ((Attempt.inTime_mapFailure _).1 hin)
  rw [process, outcome?, hl]
  simp only [hlate, Option.getD_none, Option.map_some]
  rfl

end Transformer

/-! ## Failures of scripts -/

/-- **The executors of this library**: those that run scripts in an engine inside of it, whatever
that engine does, and those that have an interpreter for it, whatever program that is. -/
inductive Executor.BuiltIn : Executor → Prop
  | javascript (h : JavaScript.Engine) : BuiltIn h.executor
  | rhai (h : Rhai.Engine) : BuiltIn h.executor
  | interpreted (i : Worker.Interpreter) : BuiltIn i.executor

/-- **A script that only fails with errors of its own.** -/
def Script.OnlyScript (s : Script) : Prop :=
  ∀ past b d f, s.respond past b = .finished d (.error f) → ∃ text, f = .script text

/-- **The runs of a script may take another time.** If they end, they end as before. -/
def Script.Retimed (s s' : Script) : Prop :=
  ∀ past b d r, s'.respond past b = .finished d r → ∃ d', s.respond past b = .finished d' r

lemma Script.OnlyScript.retimed {s s' : Script} (h : s.OnlyScript) (hs : s.Retimed s') :
    s'.OnlyScript := by
  intro past b d f hf
  obtain ⟨d', hd'⟩ := hs past b d _ hf
  exact h past b d' f hd'

/-- A run of an interpreter fails with what the script or the library says about it. -/
lemma Worker.Interpreter.run_failure {i : Worker.Interpreter} {text : String}
    {slot : Option Worker.Process} {b : Bindings} {d : Duration} {f : Failure}
    (h : (i.run text slot b).attempt = .finished d (.error f)) : ∃ text, f = .script text := by
  have answered : ∀ {d : Duration} {reply : Worker.Reply},
      Attempt.now (resultOf reply) = .finished d (.error f) → ∃ text, f = .script text := by
    intro d reply h
    injection h with hd hr
    unfold resultOf at hr
    split at hr
    · next text _ => exact ⟨text, (Except.error.inj hr).symm⟩
    · exact nomatch hr
  have broken : ∀ {d : Duration} {fault : Worker.Fault},
      Attempt.now (.error (i.failure fault)) = .finished d (.error f) →
        ∃ text, f = .script text := by
    intro d fault h
    injection h with hd hr
    exact ⟨_, (Except.error.inj hr).symm⟩
  have served : ∀ {d : Duration} {worker : Worker.Process},
      (i.runOn worker b).attempt = .finished d (.error f) → ∃ text, f = .script text := by
    intro d worker h
    unfold runOn at h
    split at h
    · exact answered h
    · exact broken h
    · exact nomatch h
  unfold run at h
  split at h
  · exact served h
  · split at h
    · exact served h
    · exact broken h
    · exact nomatch h

/-- **The scripts of the executors of this library** only fail with errors of their own. -/
theorem Executor.BuiltIn.onlyScript {e : Executor} (h : e.BuiltIn) {text : String} {s : Script}
    (compiled : e.compile text = .ok s) : s.OnlyScript := by
  intro past b d f hf
  cases h with
  | javascript h =>
    rcases JavaScript.Engine.respond_error compiled hf with ⟨-, -, -, why, -, -, rfl⟩ | ⟨why, rfl⟩
    · exact ⟨why, rfl⟩
    · exact ⟨_, rfl⟩
  | rhai h =>
    obtain ⟨p, -, htells | ⟨why, rfl⟩⟩ := Rhai.Engine.respond_error compiled hf
    · cases htells with
      | taking => exact ⟨_, rfl⟩
      | running => exact ⟨_, rfl⟩
      | giving => exact ⟨_, rfl⟩
    · exact ⟨_, rfl⟩
  | interpreted i =>
    obtain rfl := Except.ok.inj compiled
    exact Worker.Interpreter.run_failure hf

/-- The executor of each language is one of them. -/
lemma Language.builtIn_executor (l : Language) (fs : Files.Storage) : (l.executor fs).BuiltIn := by
  cases l with
  | javascript => exact .javascript _
  | rhai => exact .rhai _
  | python => exact .interpreted _
  | ruby => exact .interpreted _
  | groovy => exact .interpreted _

namespace Registry

/-- All executors of a registry are executors of this library. -/
def BuiltIn (r : Registry) : Prop :=
  ∀ name e, r.get? name = some e → e.BuiltIn

lemma BuiltIn.register {r : Registry} (h : r.BuiltIn) (names : List String) {e : Executor}
    (he : e.BuiltIn) : (r.register names e).BuiltIn := by
  unfold Registry.register
  induction names generalizing r with
  | nil => exact h
  | cons n names ih =>
    refine ih (r := ⟨r.executors.insert (lowerCase n) e⟩) fun name e' hget => ?_
    rw [get?, Dict.get?_insert] at hget
    split at hget
    · exact Option.some.inj hget ▸ he
    · exact h name e' hget

/-- **The registry of this library** has only executors of this library. -/
theorem builtIn_builtins (fs : Files.Storage) : (builtins fs).BuiltIn := by
  have hfold : ∀ (ls : List Language) (r : Registry), r.BuiltIn →
      (ls.foldl (fun r l => r.register l.aliases (l.executor fs)) r).BuiltIn := by
    intro ls
    induction ls with
    | nil => exact fun r h => h
    | cons l ls ih => exact fun r h => ih _ (h.register _ (l.builtIn_executor fs))
  exact hfold _ _ fun name e h => nomatch h

/-- It stays so when a program is set for a language. -/
lemma BuiltIn.withInterpreter {r : Registry} (h : r.BuiltIn) (fs : Files.Storage)
    (name program : String) : (r.withInterpreter fs name program).1.BuiltIn := by
  unfold Registry.withInterpreter
  split
  · exact h
  · split
    · exact h.register _ (.interpreted _)
    · exact h

end Registry

/-! ## Calls with a deadline -/

/-- Two messages that differ at most in the time of the last report. -/
def Message.SameUpToTime (w w' : Message) : Prop :=
  w = w' ∨ ∃ (m : Message) (r : Report) (time : Option String),
    w = m.addReport r ∧ w' = m.addReport { r with timestamp := time }

namespace Transformer

variable {t : Transformer} {past : List Past} {m : Message}

/-- A failure that a call returns is the one that it reports. -/
lemma process_eq_error {now : String} {w : Message} {f : Failure}
    (h : t.process past m now = some (w, .error f)) :
    t.outcome? past m = some (.error f) ∧ w = m.addReport (t.report m f now) := by
  obtain ⟨r, hr, he⟩ := Option.map_eq_some_iff.1 h
  obtain ⟨hw, hf⟩ := Prod.mk.inj he
  cases r with
  | ok v => exact nomatch hf
  | error f' =>
    obtain rfl := Except.error.inj hf
    exact ⟨hr, hw.symm⟩

/-- A run that is not late fails because its script does. -/
lemma exists_cause {f : Failure} (h : ¬ t.Late past m)
    (hf : t.outcome? past m = some (.error f)) :
    ∃ d cause, t.run past m = .finished d (.error cause) ∧ f = t.failed m cause := by
  have hrun : ((t.run past m).mapFailure (t.failed m)).outcome? = some (.error f) := by
    rw [(outcome?_of_not_late h).1] at hf
    exact hf
  cases ha : t.run past m with
  | pending =>
    rw [ha] at hrun
    exact nomatch hrun
  | finished d r =>
    rw [ha] at hrun
    cases r with
    | ok v => exact nomatch hrun
    | error cause => exact ⟨d, cause, rfl, (Except.error.inj (Option.some.inj hrun)).symm⟩

/-- **What is worth another attempt.** If the script only fails with errors of its own, it is just
what missed its deadline. -/
theorem retryable_iff_late (hs : t.script.OnlyScript) {now : String} {w : Message} {f : Failure}
    (h : t.process past m now = some (w, .error f)) : f.retryable = true ↔ t.Late past m := by
  by_cases hlate : t.Late past m
  · obtain ⟨limit, hl, hin⟩ := hlate
    rw [process_of_late hl hin] at h
    obtain rfl := Except.error.inj (Prod.mk.inj (Option.some.inj h)).2
    exact ⟨fun _ => ⟨limit, hl, hin⟩, fun _ => rfl⟩
  · obtain ⟨d, cause, hrun, rfl⟩ := exists_cause hlate (process_eq_error h).1
    obtain ⟨text, rfl⟩ := hs past (t.bindingsFor m) d cause hrun
    exact ⟨fun hr => (nomatch hr), fun hl => absurd hl hlate⟩

/-- **Deadlines change nothing but late runs.** Take a transformer, a message, a limit and two
readings of the clock.

* If the run ends within the limit, the transformer with this limit does to the message what it does
  without a limit, and it returns the same, but for the time in a report; either way the run is left
  to end.
* If not, only a report is added to the message. The failure that is returned and reported is one of
  execution, caused by a missed deadline, and it is worth another attempt.
* If the script is one of the executors of this library, whatever time its runs take, all its errors
  are errors of the script. Then a failure that is returned, and its report, are worth another
  attempt just if the run is late.

All executors in the registry of this library are such executors. -/
theorem process_with_deadline (t : Transformer) (past : List Past) (m : Message)
    (limit : Duration) (now now' : String) :
    ((t.run past m).InTime limit →
      (∃ w w' returned, (t.withLimit limit).process past m now = some (w, returned) ∧
        t.withoutLimit.process past m now' = some (w', returned) ∧ w.SameUpToTime w') ∧
      (t.withLimit limit).completes past m = true ∧ t.withoutLimit.completes past m = true) ∧
    (¬ (t.run past m).InTime limit →
      ∃ w f context text, (t.withLimit limit).process past m now = some (w, .error f) ∧
        f = .execution context (some (.timeout text)) ∧ f.retryable = true ∧
        w.id = m.id ∧ w.payload = m.payload ∧ w.headers = m.headers ∧
        ∃ r, w.errors = m.errors ++ [r] ∧ r.code = f.code ∧ r.message = f.message ∧
          r.retryable = true) ∧
    (∀ (e : Executor) (text : String) (s : Script), e.BuiltIn → e.compile text = .ok s →
      s.Retimed t.script →
      (∀ past b d f, t.script.respond past b = .finished d (.error f) →
        ∃ text, f = .script text) ∧
      ∀ w f, t.process past m now = some (w, .error f) →
        (f.retryable = true ↔ t.Late past m) ∧
        ∃ r, w.errors = m.errors ++ [r] ∧ r.retryable = f.retryable) ∧
    (∀ fs name e, (Registry.builtins fs).get? name = some e → e.BuiltIn) := by
  refine ⟨fun hin => ?_, fun hin => ?_, fun e text s he hc hs => ?_, Registry.builtIn_builtins⟩
  · have hlate : ¬ (t.withLimit limit).Late past m := by
      rintro ⟨limit', hl, hn⟩
      obtain rfl := Option.some.inj hl
      exact hn hin
    obtain ⟨d, r, hrun, hd⟩ := hin
    obtain ⟨result, hresult⟩ : ∃ result, t.withoutLimit.outcome? past m = some result := by
      refine ⟨r.mapError (t.failed m), ?_⟩
      have htransform : t.transform past m = .finished d (r.mapError (t.failed m)) :=
        congrArg (Attempt.mapFailure (t.failed m)) hrun
      exact congrArg Attempt.outcome? htransform
    have hcompletes : t.withoutLimit.completes past m = true := by
      have hsome : (t.withoutLimit.outcome? past m).isSome = true := by rw [hresult]; rfl
      exact hsome
    have hprocess : ∀ now, t.withoutLimit.process past m now =
        some (t.settle m now result, result.map fun _ => ()) := by
      intro now
      rw [process, hresult]
      rfl
    refine ⟨⟨_, _, _, (process_of_not_late hlate now).trans (hprocess now), hprocess now', ?_⟩,
      (outcome?_of_not_late hlate).2.trans hcompletes, hcompletes⟩
    cases result with
    | ok v => exact .inl rfl
    | error f => exact .inr ⟨m, t.report m f now, some now', rfl, rfl⟩
  · have hprocess := process_of_late (t := t.withLimit limit) rfl hin now
    exact ⟨_, _, _, _, hprocess, rfl, rfl, rfl, rfl, rfl,
      t.report m (t.lateFailure m limit) now, rfl, rfl, rfl, rfl⟩
  · have honly : t.script.OnlyScript := (he.onlyScript hc).retimed hs
    refine ⟨honly, fun w f h => ⟨retryable_iff_late honly h, t.report m f now, ?_, rfl⟩⟩
    rw [(process_eq_error h).2]
    rfl

/-- A worker that cannot be started fails in time, for good; one that never answers is late. -/
theorem process_with_deadline_worker :
    ∃ (i : Worker.Interpreter) (s : Script) (m : Message) (limit : Duration),
      i.executor.compile "x" = .ok s ∧
      (∃ w f, (withLimit ⟨⟨i.language, "x", .inline⟩, s, fun _ => .empty, none⟩ limit).process [] m
        "now" = some (w, .error f) ∧ f.retryable = false ∧ w.payload = m.payload) ∧
      ∃ s' : Script, s.Retimed s' ∧
        ∃ w f, (withLimit ⟨⟨i.language, "x", .inline⟩, s', fun _ => .empty, none⟩ limit).process []
          m "now" = some (w, .error f) ∧ f.retryable = true ∧ w.payload = m.payload := by
  let i : Worker.Interpreter := ⟨"python", "python3", .error .nulInProgram⟩
  let m : Message := .new "1" .null
  let limit : Duration := .ofMillis 1
  let t (s : Script) : Transformer := ⟨⟨i.language, "x", .inline⟩, s, fun _ => .empty, none⟩
  let never : Script := ⟨fun _ _ => .pending⟩
  have hnever : (i.script "x").Retimed never := fun _ _ _ _ h => nomatch h
  refine ⟨i, i.script "x", m, limit, rfl, ?_, never, hnever, ?_⟩
  · have hfails : ∃ w f, ((t (i.script "x")).withLimit limit).process [] m "now" =
        some (w, .error f) ∧ w.payload = m.payload := ⟨_, _, rfl, rfl⟩
    obtain ⟨w, f, h, hpayload⟩ := hfails
    refine ⟨w, f, h, ?_, hpayload⟩
    obtain ⟨-, -, hbuiltin, -⟩ :=
      process_with_deadline ((t (i.script "x")).withLimit limit) [] m limit "now" "now"
    have hretry := ((hbuiltin _ _ _ (.interpreted i) rfl fun _ _ d _ h => ⟨d, h⟩).2 w f h).1
    refine Bool.eq_false_iff.2 fun hf => ?_
    obtain ⟨limit', hl, hin⟩ := hretry.1 hf
    obtain rfl := Option.some.inj hl
    exact hin ⟨.zero, _, rfl, by decide⟩
  · have hpending : ¬ ((t never).run [] m).InTime limit := fun ⟨_, _, h, _⟩ => nomatch h
    obtain ⟨-, hlate, -⟩ := process_with_deadline (t never) [] m limit "now" "now"
    obtain ⟨w, f, -, -, h, -, hf, -, hpayload, -⟩ := hlate hpending
    exact ⟨w, f, h, hf, hpayload⟩

end Transformer

/-! ## Histories without late runs -/

/-- A call whose transformer waits as long as it takes. -/
def Call.withoutLimit (c : Call) : Call :=
  { c with transformer := c.transformer.withoutLimit }

/-- **A history without late runs** comes to the same message without any limits. -/
theorem Message.after_withoutLimit (m : Message) (calls : List Call)
    (h : ∀ e ∈ m.seen calls, ¬ e.1.transformer.Late e.1.past e.2) :
    m.after (calls.map Call.withoutLimit) = m.after calls := by
  induction calls generalizing m with
  | nil => rfl
  | cons c calls ih =>
    have hc : ¬ c.transformer.Late c.past m := h (c, m) List.mem_cons_self
    have happly : c.withoutLimit.apply m = c.apply m := by
      have hprocess := Transformer.process_of_not_late hc c.now
      rw [Call.apply, Call.apply, hprocess]
      rfl
    rw [List.map_cons, after_cons, happly, after_cons]
    exact ih _ fun e he => h e (List.mem_cons_of_mem _ he)

end ScriptStage
