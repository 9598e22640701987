import ScriptStage.Proofs.Config.Validity
import ScriptStage.Proofs.Deadline

/-!
# The start of a transformer

Between a configuration and a transformer stand five conditions, which are looked at one after
another: the configuration is valid, the file of the script can be read, the file of the variables
can be read, there is an executor for the language, and it compiles the script. This file shows that
the start succeeds just if all of them hold, that it otherwise fails with what the first one that
does not hold says, and that it comes to the executor only behind the other four.

## Main definitions

* `ScriptStage.Transformer.Gate` — the five conditions, with their order in `Gate.rank`.
* `ScriptStage.Transformer.Gate.Holds`, `Gate.Fails` — what each of them says, and the failure with
  which it does not hold.
* `ScriptStage.Transformer.Gate.Stops` — the first condition that does not hold.
* `ScriptStage.Transformer.startWith` — a start in which an executor may have effects.
* `ScriptStage.Transformer.StartedBy` — what a transformer has from its configuration.

## Main results

* `ScriptStage.Transformer.ofConfig_cases` — a start is stopped by the first condition that does not
  hold, or all hold and there is a transformer.
* `ScriptStage.Transformer.exists_ofConfig_iff`, `ofConfig_eq_error_iff` — when it succeeds, and how
  it fails.
* `ScriptStage.Transformer.startWith_of_stops` — a start that is stopped early has no effects.
* `ScriptStage.Executor.BuiltIn.compile_error` — how the executors of this library refuse a script.
* `ScriptStage.Transformer.ofConfig_gates` — what this means for the start.
-/

set_option autoImplicit false

namespace ScriptStage

/-- A check of an invalid configuration fails with all violations. -/
lemma Config.ensureValid_of_violations {c : Config} (h : c.violations ≠ []) :
    c.ensureValid = .error (.configuration (violationText c.violations)) := by
  unfold ensureValid
  cases hv : c.violations with
  | nil => exact absurd hv h
  | cons v vs => rfl

/-- A valid configuration with a file has no script. -/
lemma Config.effectiveScript_eq_none {c : Config} {path : String} (hv : c.violations = [])
    (hf : c.scriptFile = some path) : c.effectiveScript = none := by
  cases hs : c.effectiveScript with
  | none => rfl
  | some raw => simp [Config.violations, Config.scriptViolations, hs, hf] at hv

/-- A source that comes from a file was read from it. -/
lemma Source.exists_text_of_resolve {fs : Files.Storage} {c : Config} {s : Source} {path : String}
    (h : resolve fs c = .ok s) (hs : c.effectiveScript = none) (hf : c.scriptFile = some path) :
    ∃ text, fs.readText path = .ok text := by
  cases hread : fs.readText path with
  | ok text => exact ⟨text, rfl⟩
  | error e =>
    exfalso
    simp only [resolve, hs, hf, readFile, hread] at h
    cases hl : fileLanguage c.effectiveLanguage path with
    | error f =>
      rw [hl] at h
      cases h
    | ok language =>
      rw [hl] at h
      cases h

namespace Transformer

/-! ## The conditions -/

/-- **The conditions of a start.** -/
inductive Gate where
  /-- The configuration is valid. -/
  | valid
  /-- The file of the script can be read. -/
  | scriptRead
  /-- The file of the variables can be read. -/
  | variablesRead
  /-- There is an executor for the language. -/
  | known
  /-- The executor compiles the script. -/
  | compiled
  deriving DecidableEq, Repr

namespace Gate

/-- The place of a condition in the order in which they are looked at. -/
def rank : Gate → Nat
  | valid => 0
  | scriptRead => 1
  | variablesRead => 2
  | known => 3
  | compiled => 4

/-- **What a condition says** of the files, the registry and the configuration. -/
def Holds (fs : Files.Storage) (r : Registry) (c : Config) : Gate → Prop
  | valid => c.violations = []
  | scriptRead => ∀ path, c.effectiveScript = none → c.scriptFile = some path →
      ∃ text, fs.readText path = .ok text
  | variablesRead => ∀ path, c.variablesLocation = some path → ∃ text, fs.readText path = .ok text
  | known => ∃ s e, Source.resolve fs c = .ok s ∧ r.get? s.language = some e
  | compiled => ∃ s e code, Source.resolve fs c = .ok s ∧ r.get? s.language = some e ∧
      e.compile s.text = .ok code

/-- **A condition does not hold, and this is the failure that says so.** -/
inductive Fails (fs : Files.Storage) (r : Registry) (c : Config) : Gate → Failure → Prop
  /-- All violations are named. -/
  | valid : c.violations ≠ [] →
      Fails fs r c .valid (.configuration (Config.violationText c.violations))
  /-- The file of the script is named. -/
  | scriptRead (path : String) (e : Files.FileError) : c.effectiveScript = none →
      c.scriptFile = some path → fs.readText path = .error e →
      Fails fs r c .scriptRead (.io ("Failed to read script file " ++ path ++ ": " ++ e.message))
  /-- The file of the variables is named. -/
  | variablesRead (path : String) (e : Files.FileError) : c.variablesLocation = some path →
      fs.readText path = .error e →
      Fails fs r c .variablesRead
        (.io ("Failed to read variables file " ++ path ++ ": " ++ e.message))
  /-- The language is named. -/
  | known (s : Source) : Source.resolve fs c = .ok s → r.get? s.language = none →
      Fails fs r c .known (unknownLanguage s.language)
  /-- The executor says what is wrong. -/
  | compiled (s : Source) (e : Executor) (f : Failure) : Source.resolve fs c = .ok s →
      r.get? s.language = some e → e.compile s.text = .error f → Fails fs r c .compiled f

/-- **A condition is the first that does not hold**, with the failure that says so. -/
structure Stops (fs : Files.Storage) (r : Registry) (c : Config) (g : Gate) (f : Failure) :
    Prop where
  /-- All conditions before it hold. -/
  earlier : ∀ g' : Gate, g'.rank < g.rank → g'.Holds fs r c
  /-- It does not hold. -/
  not_holds : ¬ g.Holds fs r c
  /-- The failure says so. -/
  fails : g.Fails fs r c f

variable {fs : Files.Storage} {r : Registry} {c : Config} {g g' : Gate} {f f' : Failure}

/-- A condition with such a failure does not hold. -/
lemma Fails.not_holds (h : g.Fails fs r c f) : ¬ g.Holds fs r c := by
  cases h with
  | valid hv => exact hv
  | scriptRead path e hs hf hread =>
    intro hall
    obtain ⟨text, htext⟩ := hall path hs hf
    exact nomatch htext.symm.trans hread
  | variablesRead path e hl hread =>
    intro hall
    obtain ⟨text, htext⟩ := hall path hl
    exact nomatch htext.symm.trans hread
  | known s hs hnone =>
    rintro ⟨s', e, hs', he⟩
    obtain rfl := Except.ok.inj (hs.symm.trans hs')
    exact nomatch hnone.symm.trans he
  | compiled s e f hs he hc =>
    rintro ⟨s', e', code, hs', he', hc'⟩
    obtain rfl := Except.ok.inj (hs.symm.trans hs')
    obtain rfl := Option.some.inj (he.symm.trans he')
    exact nomatch hc.symm.trans hc'

/-- A condition has one failure. -/
lemma Fails.unique (h : g.Fails fs r c f) (h' : g.Fails fs r c f') : f = f' := by
  cases h with
  | valid hv => cases h'; rfl
  | scriptRead path e hs hf hread =>
    cases h' with
    | scriptRead path' e' _ hf' hread' =>
      obtain rfl := Option.some.inj (hf.symm.trans hf')
      obtain rfl := Except.error.inj (hread.symm.trans hread')
      rfl
  | variablesRead path e hl hread =>
    cases h' with
    | variablesRead path' e' hl' hread' =>
      obtain rfl := Option.some.inj (hl.symm.trans hl')
      obtain rfl := Except.error.inj (hread.symm.trans hread')
      rfl
  | known s hs hnone =>
    cases h' with
    | known s' hs' _ =>
      obtain rfl := Except.ok.inj (hs.symm.trans hs')
      rfl
  | compiled s e f hs he hc =>
    cases h' with
    | compiled s' e' f' hs' he' hc' =>
      obtain rfl := Except.ok.inj (hs.symm.trans hs')
      obtain rfl := Option.some.inj (he.symm.trans he')
      exact Except.error.inj (hc.symm.trans hc')

/-- The failure of a condition is one of the setup, if this is so for the last one. -/
lemma Fails.isStartup (h : g.Fails fs r c f)
    (refused : ∀ name e, r.get? name = some e → ∀ text f, e.compile text = .error f →
      ∃ message, f = .configuration message) : f.isStartup = true := by
  cases h with
  | valid _ => rfl
  | scriptRead _ _ _ _ _ => rfl
  | variablesRead _ _ _ _ => rfl
  | known _ _ _ => rfl
  | compiled s e f _ he hc =>
    obtain ⟨message, rfl⟩ := refused _ e he _ f hc
    rfl

/-- Nothing holds back two starts at different places: the earlier of them would hold. -/
lemma Stops.unique (h : g.Stops fs r c f) (h' : g'.Stops fs r c f') : g = g' ∧ f = f' := by
  have hrank : g.rank = g'.rank := by
    rcases Nat.lt_trichotomy g.rank g'.rank with hlt | heq | hgt
    · exact absurd (h'.earlier g hlt) h.not_holds
    · exact heq
    · exact absurd (h.earlier g' hgt) h'.not_holds
  obtain rfl : g = g' := by
    cases g <;> cases g' <;> first | rfl | exact nomatch hrank
  exact ⟨rfl, h.fails.unique h'.fails⟩

end Gate

/-! ## The steps of a start -/

/-- The transformer of a source and its variables, if its script compiles. -/
def ofCompiled (s : Source) (b : Bindings) (code : Except Failure Script) :
    Except Failure Transformer :=
  code.map fun script => ⟨s, script, fun _ => b, none⟩

/-- **A start in which the executor may have effects.** Only `compile` can have any. -/
def startWith {m : Type → Type} [Monad m] (compile : Executor → String → m (Except Failure Script))
    (fs : Files.Storage) (r : Registry) (c : Config) : m (Except Failure Transformer) :=
  match c.ensureValid with
  | .error f => pure (.error f)
  | .ok () =>
    match Source.resolve fs c with
    | .error f => pure (.error f)
    | .ok s =>
      match Variables.load fs c.variablesText c.variablesLocation with
      | .error f => pure (.error f)
      | .ok b =>
        match r.get? s.language with
        | none => pure (.error (unknownLanguage s.language))
        | some e => ofCompiled s b <$> compile e s.text

variable {fs : Files.Storage} {r : Registry} {c : Config}

/-- The start of the library is the one in which executors have no effects. -/
lemma ofConfig_eq_startWith (fs : Files.Storage) (r : Registry) (c : Config) :
    ofConfig fs r c = startWith (m := Id) (fun e text => e.compile text) fs r c := by
  unfold ofConfig startWith new
  cases c.ensureValid with
  | error f => rfl
  | ok u =>
    cases Source.resolve fs c with
    | error f => rfl
    | ok s =>
      cases Variables.load fs c.variablesText c.variablesLocation with
      | error f => rfl
      | ok b => cases r.get? s.language <;> rfl

/-- A valid configuration resolves, or the file of its script cannot be read. -/
lemma resolve_of_valid (fs : Files.Storage) (r : Registry) (hv : c.violations = []) :
    (∃ s, Source.resolve fs c = .ok s ∧ Gate.scriptRead.Holds fs r c) ∨
      ∃ f, Source.resolve fs c = .error f ∧ Gate.scriptRead.Fails fs r c f := by
  rcases Source.resolve_cases fs c with ⟨v, vs, hne, -⟩ | ⟨-, path, e, hf, hread, hr⟩ | ⟨-, s, hr⟩
  · exact nomatch hv.symm.trans hne
  · exact .inr ⟨_, hr, .scriptRead path e (Config.effectiveScript_eq_none hv hf) hf hread⟩
  · exact .inl ⟨s, hr, fun path hs hf => Source.exists_text_of_resolve hr hs hf⟩

/-- Variables are loaded, or their file cannot be read. -/
lemma load_cases (fs : Files.Storage) (r : Registry) (c : Config) :
    (∃ b, Variables.load fs c.variablesText c.variablesLocation = .ok b ∧
      Gate.variablesRead.Holds fs r c) ∨
    ∃ f, Variables.load fs c.variablesText c.variablesLocation = .error f ∧
      Gate.variablesRead.Fails fs r c f := by
  cases hl : c.variablesLocation with
  | none => exact .inl ⟨_, rfl, fun path h => nomatch hl.symm.trans h⟩
  | some path =>
    cases hread : fs.readText path with
    | ok text =>
      refine .inl ⟨Variables.define (Variables.define .empty (Properties.ofText text.toList))
        (Variables.inlineEntries c.variablesText), ?_, fun path' h => ⟨text, ?_⟩⟩
      · simp only [Variables.load, Variables.fileEntries, hread]
        rfl
      · obtain rfl := Option.some.inj (hl.symm.trans h)
        exact hread
    | error e =>
      refine .inr ⟨_, ?_, .variablesRead path e hl hread⟩
      simp only [Variables.load, Variables.fileEntries, hread]
      rfl

/-- **A start comes to its executor**: the conditions before the last one hold. -/
structure Reaches (fs : Files.Storage) (r : Registry) (c : Config) (s : Source) (b : Bindings)
    (e : Executor) : Prop where
  /-- The configuration is valid. -/
  valid : c.violations = []
  /-- It resolves to the source. -/
  resolved : Source.resolve fs c = .ok s
  /-- The variables are the bindings. -/
  loaded : Variables.load fs c.variablesText c.variablesLocation = .ok b
  /-- The registry has the executor for the language of the source. -/
  found : r.get? s.language = some e
  /-- All conditions but the last one hold. -/
  earlier : ∀ g : Gate, g ≠ .compiled → g.Holds fs r c

/-- **The course of a start, up to its executor.** It is stopped by one of the first four
conditions, whatever executors do, or it comes to the executor of the language and is what that
makes of it.

**Proof sketch.** The conditions are taken in their order. Each either holds, and so the step that
looks at it has a result with which the next one is taken, or it stops the start. -/
theorem startWith_cases (fs : Files.Storage) (r : Registry) (c : Config) :
    (∃ (g : Gate) (f : Failure), g ≠ .compiled ∧ g.Stops fs r c f ∧
      ∀ {m : Type → Type} [Monad m] (compile : Executor → String → m (Except Failure Script)),
        startWith compile fs r c = pure (.error f)) ∨
    ∃ s b e, Reaches fs r c s b e ∧
      ∀ {m : Type → Type} [Monad m] (compile : Executor → String → m (Except Failure Script)),
        startWith compile fs r c = ofCompiled s b <$> compile e s.text := by
  -- What stands before a condition is known by then, so only its rank is looked at.
  have stopped : ∀ {g : Gate} {f}, g.Fails fs r c f → (∀ g' : Gate, g'.rank < g.rank →
      g'.Holds fs r c) → g.Stops fs r c f := fun hf hg => ⟨hg, hf.not_holds, hf⟩
  by_cases hv : c.violations = []
  swap
  · refine .inl ⟨.valid, _, nofun, stopped (.valid hv) nofun, ?_⟩
    intro m _ compile
    simp only [startWith, Config.ensureValid_of_violations hv]
  have hvalid := c.ensureValid_iff.2 hv
  rcases resolve_of_valid fs r hv with ⟨s, hs, hscript⟩ | ⟨f, hs, hf⟩
  swap
  · refine .inl ⟨.scriptRead, f, nofun, stopped hf fun g' h => ?_, ?_⟩
    · cases g' with
      | valid => exact hv
      | _ => exact absurd h (by decide)
    · intro m _ compile
      simp only [startWith, hvalid, hs]
  rcases load_cases fs r c with ⟨b, hb, hvariables⟩ | ⟨f, hb, hf⟩
  swap
  · refine .inl ⟨.variablesRead, f, nofun, stopped hf fun g' h => ?_, ?_⟩
    · cases g' with
      | valid => exact hv
      | scriptRead => exact hscript
      | _ => exact absurd h (by decide)
    · intro m _ compile
      simp only [startWith, hvalid, hs, hb]
  cases he : r.get? s.language with
  | none =>
    refine .inl ⟨.known, _, nofun, stopped (.known s hs he) fun g' h => ?_, ?_⟩
    · cases g' with
      | valid => exact hv
      | scriptRead => exact hscript
      | variablesRead => exact hvariables
      | _ => exact absurd h (by decide)
    · intro m _ compile
      simp only [startWith, hvalid, hs, hb, he]
  | some e =>
    refine .inr ⟨s, b, e, ⟨hv, hs, hb, he, fun g hg => ?_⟩, ?_⟩
    · cases g with
      | valid => exact hv
      | scriptRead => exact hscript
      | variablesRead => exact hvariables
      | known => exact ⟨s, e, hs, he⟩
      | compiled => exact absurd rfl hg
    · intro m _ compile
      simp only [startWith, hvalid, hs, hb, he]

/-! ## Starts of the library -/

/-- **What a transformer has from its configuration**: the source that the configuration names, its
variables for every message, the script that the executor of the language makes of the source, and
no limit. -/
structure StartedBy (fs : Files.Storage) (r : Registry) (c : Config) (t : Transformer) : Prop where
  /-- The source is the one that the configuration names. -/
  source : Source.resolve fs c = .ok t.source
  /-- The variables are those of the configuration. -/
  bindings : ∃ b, Variables.load fs c.variablesText c.variablesLocation = .ok b ∧
    ∀ m, t.generator m = b
  /-- The executor of the language has compiled the script. -/
  script : ∃ e, r.get? t.language = some e ∧ e.compile t.source.text = .ok t.script
  /-- There is no limit. -/
  limit : t.limit = none

/-- **The outcome of a start.** The first condition that does not hold stops it; if all hold there
is a transformer. -/
theorem ofConfig_cases (fs : Files.Storage) (r : Registry) (c : Config) :
    (∃ g f, Gate.Stops fs r c g f ∧ ofConfig fs r c = .error f) ∨
    ∃ t, (∀ g : Gate, g.Holds fs r c) ∧ ofConfig fs r c = .ok t ∧ StartedBy fs r c t := by
  rw [ofConfig_eq_startWith]
  rcases startWith_cases fs r c with ⟨g, f, -, hstops, hstart⟩ | ⟨s, b, e, hreach, hstart⟩
  · exact .inl ⟨g, f, hstops, hstart _⟩
  · have hstart := hstart (m := Id) fun e text => e.compile text
    cases hc : e.compile s.text with
    | error f =>
      have hfails := Gate.Fails.compiled s e f hreach.resolved hreach.found hc
      refine .inl ⟨.compiled, f, ⟨fun g hg => hreach.earlier g ?_, hfails.not_holds, hfails⟩, ?_⟩
      · rintro rfl
        exact absurd hg (Nat.lt_irrefl _)
      · rw [hstart]
        exact congrArg (Except.map _) hc
    | ok code =>
      refine .inr ⟨⟨s, code, fun _ => b, none⟩, fun g => ?_, ?_, ?_⟩
      · cases g with
        | compiled => exact ⟨s, e, code, hreach.resolved, hreach.found, hc⟩
        | _ => exact hreach.earlier _ nofun
      · rw [hstart]
        exact congrArg (Except.map _) hc
      · exact ⟨hreach.resolved, ⟨b, hreach.loaded, fun _ => rfl⟩, ⟨e, hreach.found, hc⟩, rfl⟩

/-- A transformer that was started has what its configuration says. -/
lemma StartedBy.of_ofConfig {t : Transformer} (h : ofConfig fs r c = .ok t) :
    StartedBy fs r c t := by
  rcases ofConfig_cases fs r c with ⟨g, f, -, hf⟩ | ⟨t', -, ht', hstarted⟩
  · exact nomatch h.symm.trans hf
  · obtain rfl := Except.ok.inj (h.symm.trans ht')
    exact hstarted

/-- **A start succeeds just if all conditions hold.** -/
theorem exists_ofConfig_iff : (∃ t, ofConfig fs r c = .ok t) ↔ ∀ g : Gate, g.Holds fs r c := by
  rcases ofConfig_cases fs r c with ⟨g, f, hstops, hf⟩ | ⟨t, hall, ht, -⟩
  · constructor
    · rintro ⟨t, ht⟩
      exact nomatch ht.symm.trans hf
    · intro hall
      exact absurd (hall g) hstops.not_holds
  · exact ⟨fun _ => hall, fun _ => ⟨t, ht⟩⟩

/-- **A start fails just with the failure of the first condition that does not hold.** -/
theorem ofConfig_eq_error_iff {f : Failure} :
    ofConfig fs r c = .error f ↔ ∃ g, Gate.Stops fs r c g f := by
  rcases ofConfig_cases fs r c with ⟨g, f', hstops, hf'⟩ | ⟨t, hall, ht, -⟩
  · constructor
    · intro hf
      obtain rfl := Except.error.inj (hf.symm.trans hf')
      exact ⟨g, hstops⟩
    · rintro ⟨g', hstops'⟩
      rw [hf', (hstops.unique hstops').2]
  · constructor
    · intro hf
      exact nomatch hf.symm.trans ht
    · rintro ⟨g, hstops⟩
      exact absurd (hall g) hstops.not_holds

/-- **A start that is stopped before its executor has no effects.** -/
theorem startWith_of_stops {g : Gate} {f : Failure} (h : Gate.Stops fs r c g f)
    (hg : g ≠ .compiled) {m : Type → Type} [Monad m]
    (compile : Executor → String → m (Except Failure Script)) :
    startWith compile fs r c = pure (.error f) := by
  rcases startWith_cases fs r c with ⟨g', f', -, h', hstart⟩ | ⟨s, b, e, hreach, -⟩
  · rw [hstart, (h.unique h').2]
  · exact absurd (hreach.earlier g hg) h.not_holds

/-- A start that comes to its executor is what this one answers. -/
lemma startWith_of_holds (h : ∀ g : Gate, g ≠ .compiled → g.Holds fs r c) :
    ∃ s b e, Reaches fs r c s b e ∧
      ∀ {m : Type → Type} [Monad m] (compile : Executor → String → m (Except Failure Script)),
        startWith compile fs r c = ofCompiled s b <$> compile e s.text := by
  rcases startWith_cases fs r c with ⟨g, f, hg, hstops, -⟩ | hreaches
  · exact absurd (h g hg) hstops.not_holds
  · exact hreaches

end Transformer

/-- **The executors of this library refuse a script as part of the configuration.** -/
theorem Executor.BuiltIn.compile_error {e : Executor} (h : e.BuiltIn) {text : String} {f : Failure}
    (refused : e.compile text = .error f) : ∃ message, f = .configuration message := by
  cases h with
  | javascript h =>
    obtain ⟨why, -, hf⟩ := JavaScript.Engine.compile_error refused
    exact ⟨_, hf⟩
  | rhai h =>
    obtain ⟨why, -, hf⟩ := Rhai.Engine.compile_error refused
    exact ⟨_, hf⟩
  | interpreted i => cases refused

namespace Transformer

/-- **A start is an ordered row of conditions.** For all files, every registry and every
configuration:

* the start succeeds if and only if all five conditions hold;
* the transformer then has the source that the configuration names, with its language and its
  origin, the variables of the configuration for every message, and no limit;
* the start fails with a failure if and only if that is the failure of the first condition that does
  not hold;
* executors are asked only behind the first four conditions: if one of these does not hold, a start
  in which executors may have any effects has none, and if they hold, the executor of the language
  is asked once, for the text of the source, and the start is what it answers;
* if executors refuse scripts only as part of the configuration, every failure of a start is one of
  the setup.

**Proof sketch.** All of it is read off the cases of a start (`startWith_cases`, `ofConfig_cases`),
for there is at most one first condition that does not hold (`Gate.Stops.unique`). -/
theorem ofConfig_gates (fs : Files.Storage) (r : Registry) (c : Config) :
    ((∃ t, ofConfig fs r c = .ok t) ↔ ∀ g : Gate, g.Holds fs r c) ∧
    (∀ t, ofConfig fs r c = .ok t →
      Source.resolve fs c = .ok t.source ∧ t.language = t.source.language ∧ t.limit = none ∧
      ∃ b, Variables.load fs c.variablesText c.variablesLocation = .ok b ∧
        ∀ m, t.generator m = b) ∧
    (∀ f, ofConfig fs r c = .error f ↔ ∃ g, Gate.Stops fs r c g f) ∧
    ofConfig fs r c = startWith (m := Id) (fun e text => e.compile text) fs r c ∧
    (∀ g f, Gate.Stops fs r c g f → g ≠ .compiled →
      ∀ {m : Type → Type} [Monad m] (compile : Executor → String → m (Except Failure Script)),
        startWith compile fs r c = pure (.error f)) ∧
    ((∀ g : Gate, g ≠ .compiled → g.Holds fs r c) →
      ∃ s b e, Source.resolve fs c = .ok s ∧ r.get? s.language = some e ∧
        Variables.load fs c.variablesText c.variablesLocation = .ok b ∧
        ∀ {m : Type → Type} [Monad m] (compile : Executor → String → m (Except Failure Script)),
          startWith compile fs r c = ofCompiled s b <$> compile e s.text) ∧
    ((∀ name e, r.get? name = some e → ∀ text f, e.compile text = .error f →
        ∃ message, f = .configuration message) →
      ∀ f, ofConfig fs r c = .error f → f.isStartup = true) := by
  refine ⟨exists_ofConfig_iff, fun t ht => ?_, fun f => ofConfig_eq_error_iff,
    ofConfig_eq_startWith fs r c, fun g f h hg m _ compile => startWith_of_stops h hg compile,
    fun hearlier => ?_, fun refused f hf => ?_⟩
  · have hstarted := StartedBy.of_ofConfig ht
    exact ⟨hstarted.source, rfl, hstarted.limit, hstarted.bindings⟩
  · obtain ⟨s, b, e, hreach, hstart⟩ := startWith_of_holds hearlier
    exact ⟨s, b, e, hreach.resolved, hreach.found, hreach.loaded, hstart⟩
  · obtain ⟨g, hstops⟩ := ofConfig_eq_error_iff.1 hf
    exact hstops.fails.isStartup refused

/-- A script in a language without an executor stops the start at the fourth condition; with the
executors of this library, as a failure of the setup. One in Python starts. -/
theorem ofConfig_gates_languages :
    (∃ f, Gate.known.Stops .empty (Registry.builtins .empty) (Config.withScript "Cobol" "x") f ∧
      ofConfig .empty (Registry.builtins .empty) (Config.withScript "Cobol" "x") = .error f ∧
      f.isStartup = true ∧
      startWith (m := StateM Nat) (fun _ _ => do modify (· + 1); pure (.error f)) .empty
        (Registry.builtins .empty) (Config.withScript "Cobol" "x") = pure (.error f)) ∧
    ∃ t e, ofConfig .empty (Registry.builtins .empty) (Config.withScript "Py" "x") = .ok t ∧
      (Registry.builtins .empty).get? t.language = some e := by
  let r := Registry.builtins .empty
  constructor
  · let c := Config.withScript "Cobol" "x"
    let s : Source := ⟨"cobol", "x", .inline⟩
    have hs : Source.resolve .empty c = .ok s := by rfl
    have hnone : r.get? "cobol" = none := by rfl
    have hfails : Gate.known.Fails .empty r c (unknownLanguage s.language) := .known s hs hnone
    have hstops : Gate.known.Stops .empty r c (unknownLanguage s.language) := by
      refine ⟨fun g hg => ?_, hfails.not_holds, hfails⟩
      cases g with
      | valid => rfl
      | scriptRead => exact fun path _ h => nomatch h
      | variablesRead => exact fun path h => nomatch h
      | _ => exact absurd hg (by decide)
    obtain ⟨-, -, hiff, -, hquiet, -, hstartup⟩ := ofConfig_gates .empty r c
    have hf : ofConfig .empty r c = .error (unknownLanguage s.language) := (hiff _).2 ⟨_, hstops⟩
    have hsetup : (unknownLanguage s.language).isStartup = true :=
      hstartup (fun name e he text f refused =>
        (Registry.builtIn_builtins .empty name e he).compile_error refused) _ hf
    exact ⟨_, hstops, hf, hsetup, hquiet _ _ hstops nofun _⟩
  · let c := Config.withScript "Py" "x"
    let s : Source := ⟨"py", "x", .inline⟩
    let i := Language.python.interpreter .empty "python3"
    have hs : Source.resolve .empty c = .ok s := by rfl
    have he : r.get? "py" = some i.executor := by rfl
    have hall : ∀ g : Gate, g.Holds .empty r c := by
      intro g
      cases g with
      | valid => rfl
      | scriptRead => exact fun path _ h => nomatch h
      | variablesRead => exact fun path h => nomatch h
      | known => exact ⟨s, i.executor, hs, he⟩
      | compiled => exact ⟨s, i.executor, i.script "x", hs, he, rfl⟩
    obtain ⟨hstarts, hstarted, -, -, -, hasked, -⟩ := ofConfig_gates .empty r c
    obtain ⟨s', b, e, hs', he', -⟩ := hasked fun g _ => hall g
    obtain ⟨t, ht⟩ := hstarts.2 hall
    obtain rfl : s' = t.source := Except.ok.inj (hs'.symm.trans (hstarted t ht).1)
    exact ⟨t, e, ht, he'⟩

end Transformer

end ScriptStage
