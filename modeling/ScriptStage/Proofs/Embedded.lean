import Mathlib.Logic.Basic
import ScriptStage.Embedded.JavaScript
import ScriptStage.Embedded.Rhai

/-!
# Failures of scripts in engines

Scripts in JavaScript and Rhai run in engines inside of the library. This file says for every such
engine where the failure of a run comes from: from an error of one of the operations that the
library calls, told in its own way, or from a panic of the engine.

## Main definitions

* `ScriptStage.JavaScript.Engine.Fails` — one of the four operations fails.
* `ScriptStage.JavaScript.Engine.Tells`, `ScriptStage.Rhai.Engine.Tells` — failures that tell of an
  error of an operation.

## Main results

* `ScriptStage.Embedded.respond_eq_error` — a run fails with its computation, or by a panic.
* `ScriptStage.JavaScript.Engine.evaluate_error`, `ScriptStage.Rhai.Engine.evaluate_error` — where
  the failures of runs come from.
* `ScriptStage.JavaScript.Engine.respond_error`, `ScriptStage.Rhai.Engine.respond_error` — all
  failures of runs are failures of the script.
-/

set_option autoImplicit false

namespace ScriptStage

namespace Embedded

/-! ## Operations one after the other -/

/-- Two computations return if the first one does, and the second one behind it. -/
lemma Outcome.bind_eq_returned {α β : Type} {x : Outcome α} {f : α → Outcome β} {v : β}
    (h : x.bind f = .returned v) : ∃ a, x = .returned a ∧ f a = .returned v := by
  cases x with
  | returned a => exact ⟨a, rfl, h⟩
  | panicked text => exact nomatch h
  | stuck => exact nomatch h

namespace Operation

variable {σ ε α β : Type} {s s' : σ}

/-- Two operations return a value if the first one does, and the second one behind it. -/
lemma bind_eq_ok {x : Operation σ ε α} {f : α → Operation σ ε β} {v : β}
    (h : (x >>= f).run.run s = .returned (.ok v, s')) :
    ∃ a s₁, x.run.run s = .returned (.ok a, s₁) ∧
      (f a).run.run s₁ = .returned (.ok v, s') := by
  obtain ⟨⟨a | a, s₁⟩, hx, hf⟩ := Outcome.bind_eq_returned h
  · exact nomatch hf
  · exact ⟨a, s₁, hx, hf⟩

/-- Two operations return an error if the first one does, or the second one behind it. -/
lemma bind_eq_error {x : Operation σ ε α} {f : α → Operation σ ε β} {e : ε}
    (h : (x >>= f).run.run s = .returned (.error e, s')) :
    x.run.run s = .returned (.error e, s') ∨ ∃ a s₁, x.run.run s = .returned (.ok a, s₁) ∧
      (f a).run.run s₁ = .returned (.error e, s') := by
  obtain ⟨⟨a | a, s₁⟩, hx, hf⟩ := Outcome.bind_eq_returned h
  · cases hf
    exact .inl hx
  · exact .inr ⟨a, s₁, hx, hf⟩

/-- A failure that is told comes from an error, and has the text that is told of it. -/
lemma told_eq_error {x : Operation σ ε α} {tell : ε → StateT σ Outcome String} {f : Failure}
    (h : (x.told tell).run.run s = .returned (.error f, s')) :
    ∃ e s₁ text, x.run.run s = .returned (.error e, s₁) ∧
      (tell e).run s₁ = .returned (text, s') ∧ f = .script text := by
  obtain ⟨⟨e | a, s₁⟩, hx, hf⟩ := Outcome.bind_eq_returned h
  · obtain ⟨⟨text, s₂⟩, ht, hf⟩ := Outcome.bind_eq_returned hf
    cases hf
    exact ⟨e, s₁, text, hx, ht, rfl⟩
  · exact nomatch hf

/-- An error of an operation that leaves the state alone. -/
lemma ofOutcome_eq_error {x : Outcome (Except ε α)} {e : ε}
    (h : (ofOutcome x : Operation σ ε α).run.run s = .returned (.error e, s')) :
    x = .returned (.error e) := by
  cases x with
  | returned r =>
    cases h
    rfl
  | panicked text => exact nomatch h
  | stuck => exact nomatch h

end Operation

/-- **A run fails with its computation, or because that panics.** -/
theorem respond_eq_error {σ : Type} {lost : String} {start : σ}
    {run : Bindings → Operation σ Failure Json} {past : List Past} {b : Bindings} {d : Duration}
    {f : Failure} (h : (script lost start run).respond past b = .finished d (.error f)) :
    (∃ s, (run b).run.run start = .returned (.error f, s)) ∨
      ∃ text, (run b).run.run start = .panicked text ∧ f = .script (lost ++ text) := by
  change (run b).attempt lost start = _ at h
  unfold Operation.attempt at h
  split at h
  · next hrun =>
    cases h
    exact .inl ⟨_, hrun⟩
  · next hrun =>
    cases h
    exact .inr ⟨_, hrun, rfl⟩
  · exact nomatch h

end Embedded

open Embedded

/-! ## JavaScript -/

namespace JavaScript.Engine

variable {h : Engine} {text : String} {b : Bindings} {c c' : h.Context} {f : Failure}

/-- **An operation fails**: a value is not taken in, a variable is not defined, the script ends with
an error, or a result is not given out. The error leaves a context behind. -/
inductive Fails (h : Engine) (text : String) (e : h.Error) (c' : h.Context) : Prop
  | taking {v : Json} {c : h.Context}
      (fails : (h.fromJson v).run.run c = .returned (.error e, c')) : Fails h text e c'
  | defining {name : String} {x : h.Value} {c : h.Context}
      (fails : (h.define name x).run.run c = .returned (.error e, c')) : Fails h text e c'
  | running {c : h.Context}
      (fails : (h.eval text).run.run c = .returned (.error e, c')) : Fails h text e c'
  | giving {v : h.Value} {c : h.Context}
      (fails : (h.toJson v).run.run c = .returned (.error e, c')) : Fails h text e c'

/-- **A failure that tells of an error of an operation**, in the context that the error leaves. -/
def Tells (h : Engine) (text : String) (f : Failure) : Prop :=
  ∃ e c₁ c' why, h.Fails text e c₁ ∧ (h.errorText e).run c₁ = .returned (why, c') ∧
    f = .script why

lemma defineAll_error {es : List (String × Json)}
    (hf : (h.defineAll es).run.run c = .returned (.error f, c')) : h.Tells text f := by
  induction es generalizing c with
  | nil => exact nomatch hf
  | cons entry es ih =>
    rcases Operation.bind_eq_error hf with hf | ⟨x, c₁, -, hf⟩
    · obtain ⟨e, c₁, why, he, hwhy, rfl⟩ := Operation.told_eq_error hf
      exact ⟨e, c₁, c', why, .taking he, hwhy, rfl⟩
    · rcases Operation.bind_eq_error hf with hf | ⟨-, c₂, -, hf⟩
      · obtain ⟨e, c₂, why, he, hwhy, rfl⟩ := Operation.told_eq_error hf
        exact ⟨e, c₂, c', why, .defining he, hwhy, rfl⟩
      · exact ih hf

lemma resultOf_error {v : h.Value}
    (hf : (h.resultOf v).run.run c = .returned (.error f, c')) : h.Tells text f := by
  unfold resultOf at hf
  split at hf
  · exact nomatch hf
  · exact nomatch hf
  · exact nomatch hf
  · exact nomatch hf
  · rcases Operation.bind_eq_error hf with hf | ⟨j, c₁, -, hf⟩
    · obtain ⟨e, c₁, why, he, hwhy, rfl⟩ := Operation.told_eq_error hf
      exact ⟨e, c₁, c', why, .giving he, hwhy, rfl⟩
    · exact nomatch hf

/-- **Where the failure of a run comes from.** -/
theorem evaluate_error (hf : (h.evaluate text b).run.run c = .returned (.error f, c')) :
    h.Tells text f := by
  rcases Operation.bind_eq_error hf with hf | ⟨-, c₁, -, hf⟩
  · exact defineAll_error hf
  · rcases Operation.bind_eq_error hf with hf | ⟨v, c₂, -, hf⟩
    · obtain ⟨e, c₂, why, he, hwhy, rfl⟩ := Operation.told_eq_error hf
      exact ⟨e, c₂, c', why, .running he, hwhy, rfl⟩
    · exact resultOf_error hf

/-- **The failures of a script in JavaScript**, whatever the engine is. -/
theorem respond_error {s : Script} {past : List Past} {d : Duration}
    (compiled : h.executor.compile text = .ok s)
    (hf : s.respond past b = .finished d (.error f)) :
    h.Tells text f ∨ ∃ why, f = .script ("javascript runtime task failed: " ++ why) := by
  simp only [executor, compile] at compiled
  split at compiled
  · exact nomatch compiled
  · obtain rfl := Except.ok.inj compiled
    rcases respond_eq_error hf with ⟨c', hrun⟩ | ⟨why, -, rfl⟩
    · exact .inl (evaluate_error hrun)
    · exact .inr ⟨why, rfl⟩

/-- A text that is refused is refused as part of the configuration. -/
lemma compile_error (refused : h.executor.compile text = .error f) :
    ∃ why, h.check text = .error why ∧
      f = .configuration ("Failed to compile javascript script: " ++ why) := by
  simp only [executor, compile] at refused
  split at refused
  · next why hwhy => exact ⟨why, hwhy, (Except.error.inj refused).symm⟩
  · exact nomatch refused

end JavaScript.Engine

/-! ## Rhai -/

namespace Rhai.Engine

variable {h : Engine} {p : h.Program} {b : Bindings} {s s' : h.Scope} {f : Failure}

/-- **A failure that tells of an error of an operation**: a value is not taken in, the script ends
with an error, or a result is not given out. -/
inductive Tells (h : Engine) (p : h.Program) : Failure → Prop
  | taking {name : String} {v : Json} {e : String} (fails : h.toDynamic v = .returned (.error e)) :
      Tells h p (.script ("Cannot bind '" ++ name ++ "': " ++ e))
  | running {s s' : h.Scope} {e : String}
      (fails : (h.eval p).run.run s = .returned (.error e, s')) : Tells h p (.script e)
  | giving {v : h.Value} {e : String} (fails : h.fromDynamic v = .returned (.error e)) :
      Tells h p (.script ("Cannot convert rhai result: " ++ e))

lemma bindAll_error {es : List (String × Json)}
    (hf : (h.bindAll es).run.run s = .returned (.error f, s')) : h.Tells p f := by
  induction es generalizing s with
  | nil => exact nomatch hf
  | cons entry es ih =>
    rcases Operation.bind_eq_error hf with hf | ⟨x, s₁, -, hf⟩
    · obtain ⟨e, s₁, why, he, hwhy, rfl⟩ := Operation.told_eq_error hf
      cases hwhy
      exact .taking (Operation.ofOutcome_eq_error he)
    · rcases Operation.bind_eq_error hf with hf | ⟨-, s₂, -, hf⟩
      · exact nomatch hf
      · exact ih hf

lemma resultOf_error {v : h.Value}
    (hf : (h.resultOf v).run.run s = .returned (.error f, s')) : h.Tells p f := by
  unfold resultOf at hf
  split at hf
  · exact nomatch hf
  · obtain ⟨e, s₁, why, he, hwhy, rfl⟩ := Operation.told_eq_error hf
    cases hwhy
    exact .giving (Operation.ofOutcome_eq_error he)

/-- **Where the failure of a run comes from.** -/
theorem evaluate_error (hf : (h.evaluate p b).run.run s = .returned (.error f, s')) :
    h.Tells p f := by
  rcases Operation.bind_eq_error hf with hf | ⟨-, s₁, -, hf⟩
  · exact bindAll_error hf
  · rcases Operation.bind_eq_error hf with hf | ⟨v, s₂, -, hf⟩
    · obtain ⟨e, s₂, why, he, hwhy, rfl⟩ := Operation.told_eq_error hf
      cases hwhy
      exact .running he
    · exact resultOf_error hf

/-- **The failures of a script in Rhai**, whatever the engine is. -/
theorem respond_error {text : String} {script : Script} {past : List Past} {d : Duration}
    (compiled : h.executor.compile text = .ok script)
    (hf : script.respond past b = .finished d (.error f)) :
    ∃ p, h.compile text = .ok p ∧
      (h.Tells p f ∨ ∃ why, f = .script ("rhai runtime task failed: " ++ why)) := by
  simp only [executor, compileScript] at compiled
  split at compiled
  · exact nomatch compiled
  · next p hp =>
    obtain rfl := Except.ok.inj compiled
    refine ⟨p, hp, ?_⟩
    rcases respond_eq_error hf with ⟨s', hrun⟩ | ⟨why, -, rfl⟩
    · exact .inl (evaluate_error hrun)
    · exact .inr ⟨why, rfl⟩

/-- A text that is refused is refused as part of the configuration. -/
lemma compile_error {text : String} (refused : h.executor.compile text = .error f) :
    ∃ why, h.compile text = .error why ∧
      f = .configuration ("Failed to compile rhai script: " ++ why) := by
  simp only [executor, compileScript] at refused
  split at refused
  · next why hwhy => exact ⟨why, hwhy, (Except.error.inj refused).symm⟩
  · exact nomatch refused

end Rhai.Engine

end ScriptStage
