import Mathlib.Tactic.Common
import ScriptStage.Config.Violation
import ScriptStage.Source

/-!
# The check of a configuration and its resolution agree

A configuration is looked at twice: `ScriptStage.Config.violations` lists what is wrong with it, and
`ScriptStage.Source.resolve` stops at what it cannot go on with. Each has its own case analysis over
the script, its file and its language, and its own texts. This file shows that the two agree.

## Main definitions

* `ScriptStage.Source.Blocked`, `Unreadable`, `Resolved` — the three ways in which a configuration
  and the files may stand.

## Main results

* `ScriptStage.Source.resolve_cases` — a configuration is blocked by its first violation, or it has
  no violations and resolves unless its file cannot be read.
* `ScriptStage.Source.resolve_agrees` — what this means for the check and the resolution.
-/

set_option autoImplicit false

namespace ScriptStage

/-- A check succeeds if and only if there are no violations. -/
lemma Config.ensureValid_iff (c : Config) : c.ensureValid = .ok () ↔ c.violations = [] := by
  unfold ensureValid
  cases c.violations with
  | nil => exact ⟨fun _ => rfl, fun _ => rfl⟩
  | cons v vs => exact ⟨fun h => (nomatch h), fun h => (nomatch h)⟩

namespace Source

/-- There are violations, and resolution stops at the first one. -/
def Blocked (fs : Files.Storage) (c : Config) : Prop :=
  ∃ v vs, c.violations = v :: vs ∧ resolve fs c = .error (.configuration v.message)

/-- There are no violations, but the file of the script cannot be read. -/
def Unreadable (fs : Files.Storage) (c : Config) : Prop :=
  c.violations = [] ∧ ∃ path e, c.scriptFile = some path ∧ fs.readText path = .error e ∧
    resolve fs c = .error (.io ("Failed to read script file " ++ path ++ ": " ++ e.message))

/-- There are no violations, and there is a source. -/
def Resolved (fs : Files.Storage) (c : Config) : Prop :=
  c.violations = [] ∧ ∃ s, resolve fs c = .ok s

variable {fs : Files.Storage} {c : Config}

/-- A configuration with a script and no file needs a language. -/
lemma resolve_cases_script {raw : String} (hs : c.effectiveScript = some raw)
    (hf : c.scriptFile = none) : Blocked fs c ∨ Unreadable fs c ∨ Resolved fs c := by
  cases hl : c.effectiveLanguage with
  | none =>
    refine .inl ⟨.missingLanguage, [], ?_, ?_⟩
    · simp [Config.violations, Config.scriptViolations, Config.languageViolations, hs, hf, hl]
    · simp only [resolve, hs, hf, hl]
      rfl
  | some language =>
    refine .inr (.inr ⟨?_, inline language (decode raw), ?_⟩)
    · simp [Config.violations, Config.scriptViolations, Config.languageViolations, hs, hf, hl]
    · simp [resolve, hs, hf, hl]

/-- Once the language of a file is known, only reading the file can fail. -/
lemma resolve_cases_read {path language : String} (hs : c.effectiveScript = none)
    (hf : c.scriptFile = some path) (hv : c.violations = [])
    (hl : fileLanguage c.effectiveLanguage path = .ok language) :
    Blocked fs c ∨ Unreadable fs c ∨ Resolved fs c := by
  have hresolve : resolve fs c =
      (readFile fs path).map fun text => ⟨language, text, .file path⟩ := by
    simp only [resolve, hs, hf, hl]
    cases readFile fs path <;> rfl
  cases hread : fs.readText path with
  | error e =>
    refine .inr (.inl ⟨hv, path, e, hf, hread, ?_⟩)
    rw [hresolve, readFile, hread]
    rfl
  | ok text =>
    refine .inr (.inr ⟨hv, ⟨language, text, .file path⟩, ?_⟩)
    rw [hresolve, readFile, hread]
    rfl

/-- A configuration with a file and no script needs a language or a file name that tells it. -/
lemma resolve_cases_file {path : String} (hs : c.effectiveScript = none)
    (hf : c.scriptFile = some path) : Blocked fs c ∨ Unreadable fs c ∨ Resolved fs c := by
  cases hl : c.effectiveLanguage with
  | some language =>
    refine resolve_cases_read hs hf ?_ (by rw [hl]; rfl)
    simp [Config.violations, Config.scriptViolations, Config.languageViolations, hs, hf, hl]
  | none =>
    cases hp : Language.ofPath? path with
    | some language =>
      refine resolve_cases_read hs hf ?_ (by rw [hl, fileLanguage, hp])
      simp [Config.violations, Config.scriptViolations, Config.languageViolations, hs, hf, hl, hp]
    | none =>
      refine .inl ⟨.unknownSuffix path, [], ?_, ?_⟩
      · simp [Config.violations, Config.scriptViolations, Config.languageViolations, hs, hf, hl, hp]
      · simp only [resolve, hs, hf, hl, fileLanguage, hp]
        rfl

/-- **How a configuration and the files may stand**: blocked by the first violation, or free of
violations and resolved, unless the file cannot be read.

**Proof sketch.** Both look at whether there is a script and whether there is a file; what they do
with one of each is said above. -/
theorem resolve_cases (fs : Files.Storage) (c : Config) :
    Blocked fs c ∨ Unreadable fs c ∨ Resolved fs c := by
  cases hs : c.effectiveScript with
  | some raw =>
    cases hf : c.scriptFile with
    | none => exact resolve_cases_script hs hf
    | some path =>
      refine .inl ⟨.scriptAndFile, c.languageViolations, ?_, ?_⟩
      · simp [Config.violations, Config.scriptViolations, hs, hf]
      · simp only [resolve, hs, hf]
        rfl
  | none =>
    cases hf : c.scriptFile with
    | some path => exact resolve_cases_file hs hf
    | none =>
      refine .inl ⟨.noScript, c.languageViolations, ?_, ?_⟩
      · simp [Config.violations, Config.scriptViolations, hs, hf]
      · simp only [resolve, hs, hf]
        rfl

/-- **The check and the resolution agree.** For every configuration and all files:

* there are no violations if and only if resolution does not fail because of the configuration;
* without violations it succeeds or fails because of a file;
* when it fails because of the configuration, it says what the first violation says;
* after a successful check it fails only when the file of the script cannot be read. -/
theorem resolve_agrees (fs : Files.Storage) (c : Config) :
    (c.violations = [] ↔ ∀ text, resolve fs c ≠ .error (.configuration text)) ∧
    (c.violations = [] → (∃ s, resolve fs c = .ok s) ∨ ∃ text, resolve fs c = .error (.io text)) ∧
    (∀ text, resolve fs c = .error (.configuration text) →
      ∃ v vs, c.violations = v :: vs ∧ text = v.message) ∧
    (c.ensureValid = .ok () → ∀ f, resolve fs c = .error f →
      ∃ path e, c.scriptFile = some path ∧ fs.readText path = .error e ∧
        f = .io ("Failed to read script file " ++ path ++ ": " ++ e.message)) := by
  rw [c.ensureValid_iff]
  rcases resolve_cases fs c with ⟨v, vs, hv, hr⟩ | ⟨hv, path, e, hf, hread, hr⟩ | ⟨hv, s, hr⟩
  · rw [hv, hr]
    refine ⟨⟨fun h => (nomatch h), fun h => absurd rfl (h v.message)⟩, fun h => (nomatch h),
      fun text h => ?_, fun h => (nomatch h)⟩
    injection h with h
    injection h with h
    exact ⟨v, vs, rfl, h.symm⟩
  · rw [hv, hr]
    refine ⟨⟨fun _ _ h => (nomatch h), fun _ => rfl⟩, fun _ => .inr ⟨_, rfl⟩,
      fun _ h => (nomatch h), fun _ f h => ⟨path, e, hf, hread, ?_⟩⟩
    injection h with h
    exact h.symm
  · rw [hv, hr]
    exact ⟨⟨fun _ _ h => (nomatch h), fun _ => rfl⟩, fun _ => .inl ⟨s, rfl⟩,
      fun _ h => (nomatch h), fun _ _ h => (nomatch h)⟩

/-- A valid configuration names a file that does not exist. -/
theorem resolve_agrees_missing_file :
    (Config.withScriptFile "a.js").ensureValid = .ok () ∧
    ∃ path e, (Config.withScriptFile "a.js").scriptFile = some path ∧
      Files.Storage.empty.readText path = .error e ∧
      resolve .empty (Config.withScriptFile "a.js") =
        .error (.io ("Failed to read script file " ++ path ++ ": " ++ e.message)) := by
  have valid : (Config.withScriptFile "a.js").ensureValid = .ok () := by rfl
  have fails : resolve .empty (Config.withScriptFile "a.js") =
      .error (.io "Failed to read script file a.js: No such file or directory (os error 2)") := by
    rfl
  obtain ⟨path, e, hf, hread, hio⟩ :=
    (resolve_agrees .empty (Config.withScriptFile "a.js")).2.2.2 valid _ fails
  exact ⟨valid, path, e, hf, hread, hio ▸ fails⟩

end Source

end ScriptStage
