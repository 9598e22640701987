import Mathlib.Data.List.Induction
import Mathlib.Tactic.Common
import ScriptStage.Builtins
import ScriptStage.Proofs.Text.Utf8

/-!
# Histories of registries

Registries are made empty or with the executors of this library; then executors are registered under
names in any case, interpreters are replaced under all names of a language, and registries are
copied and used on. This file says what each of these writes, and that a registry answers for every
name with what was written last in its own history.

## Main definitions

* `ScriptStage.Registry.Event` — what may be written into a registry; `Event.Binds` — what it binds.
* `ScriptStage.Registry.LastBinding` — the last binding of an identifier in a history.
* `ScriptStage.Registry.Copy` — a registry with its history.
* `ScriptStage.Registry.Op`, `Op.apply`, `after` — the operations on any number of copies.

## Main results

* `ScriptStage.Registry.get?_register`, `withInterpreter_of_alias`, `withInterpreter_of_not_alias`,
  `get?_builtins` — what each operation writes.
* `ScriptStage.Registry.Copy.Faithful.apply` — every operation keeps copies true to their histories.
* `ScriptStage.Registry.after_answers` — what the copies answer after any operations.
-/

set_option autoImplicit false

namespace ScriptStage

/-! ## Identifiers of a dictionary -/

/-- The keys are the identifiers that have a value. -/
lemma Dict.mem_keys {α : Type*} {d : Dict α} {k : String} :
    k ∈ d.keys ↔ ∃ v, d.get? k = some v := by
  unfold Dict.keys Dict.get?
  generalize d.entries = es
  induction es with
  | nil => simp [find?]
  | cons e es ih =>
    rw [List.map_cons, List.mem_cons, ih, find?]
    by_cases hk : e.1 = k
    · simp [hk]
    · simp [hk, Ne.symm hk]

/-! ## Names of languages -/

namespace Language

/-- **The languages that interpreters run.** -/
def Interpreted (l : Language) : Prop :=
  l = python ∨ l = ruby ∨ l = groovy

lemma isSome_defaultProgram? (l : Language) : l.defaultProgram?.isSome = true ↔ l.Interpreted := by
  cases l <;> simp [defaultProgram?, Interpreted]

/-- The names of languages are in lower case. -/
lemma lowerCase_of_mem_aliases {l : Language} {n : String} (h : n ∈ l.aliases) :
    lowerCase n = n := by
  revert n
  cases l <;> decide

/-- No name has two languages. -/
lemma eq_of_mem_aliases {l l' : Language} {n : String} (h : n ∈ l.aliases) (h' : n ∈ l'.aliases) :
    l = l' := by
  have hdisjoint : ∀ l ∈ all, ∀ l' ∈ all, ∀ n ∈ l.aliases, n ∈ l'.aliases → l = l' := by decide
  exact hdisjoint l (by cases l <;> decide) l' (by cases l' <;> decide) n h h'

/-- The language with a name in any case is the one that has it among its names. -/
lemma ofAlias?_eq_some_iff {s : String} {l : Language} :
    ofAlias? s = some l ↔ lowerCase s ∈ l.aliases := by
  unfold ofAlias?
  constructor
  · intro h
    simpa using List.find?_some h
  · intro h
    cases hfind : all.find? fun l => l.aliases.contains (lowerCase s) with
    | none =>
      have hnone := List.find?_eq_none.1 hfind l (by cases l <;> decide)
      exact absurd (List.contains_iff_mem.2 h) hnone
    | some l' =>
      have hfound : lowerCase s ∈ l'.aliases := by simpa using List.find?_some hfind
      rw [eq_of_mem_aliases hfound h]

end Language

namespace Registry

variable {fs : Files.Storage} {r : Registry} {k : String} {e : Executor}

/-! ## What operations write -/

/-- **A registration binds all its names**, in lower case, and nothing else. -/
theorem get?_register (r : Registry) (names : List String) (e : Executor) (k : String) :
    (r.register names e).executors.get? k =
      if k ∈ names.map lowerCase then some e else r.executors.get? k := by
  unfold register
  induction names generalizing r with
  | nil => simp
  | cons n names ih =>
    have ih := ih ⟨r.executors.insert (lowerCase n) e⟩
    rw [List.foldl_cons, ih, Dict.get?_insert, List.map_cons]
    by_cases hn : k = lowerCase n
    · simp [hn]
    · simp [hn, eq_comm]

/-- A registration under all names of a language binds these names. -/
lemma get?_register_aliases (r : Registry) (l : Language) (e : Executor) (k : String) :
    (r.register l.aliases e).executors.get? k =
      if k ∈ l.aliases then some e else r.executors.get? k := by
  have hnames : l.aliases.map lowerCase = l.aliases :=
    List.map_congr_left (fun n h => Language.lowerCase_of_mem_aliases h) |>.trans (List.map_id _)
  rw [get?_register, hnames]

/-- **An interpreter is set for all names of its language**, whichever of them is given. -/
theorem withInterpreter_of_alias {l : Language} (hl : l.Interpreted) {name : String}
    (h : lowerCase name ∈ l.aliases) (program : String) :
    (r.withInterpreter fs name program).1 =
      r.register l.aliases (l.interpreter fs program).executor := by
  unfold withInterpreter
  rw [Language.ofAlias?_eq_some_iff.2 h]
  simp only [(Language.isSome_defaultProgram? l).2 hl, if_true]

/-- **An interpreter for any other text changes nothing.** -/
theorem withInterpreter_of_not_alias {name : String}
    (h : ∀ l : Language, l.Interpreted → lowerCase name ∉ l.aliases) (program : String) :
    (r.withInterpreter fs name program).1 = r := by
  unfold withInterpreter
  cases hl : Language.ofAlias? name with
  | none => rfl
  | some l =>
    have hnot : ¬ l.defaultProgram?.isSome = true := fun hsome =>
      h l ((Language.isSome_defaultProgram? l).1 hsome) (Language.ofAlias?_eq_some_iff.1 hl)
    simp only [if_neg hnot]

/-- **The executors of this library** are found under the names of their languages. -/
theorem get?_builtins (fs : Files.Storage) (k : String) (e : Executor) :
    (builtins fs).executors.get? k = some e ↔
      ∃ l : Language, k ∈ l.aliases ∧ e = l.executor fs := by
  -- at most one of the languages has the name, so that the order of registrations does not matter
  have hfold : ∀ (ls : List Language) (r : Registry),
      (ls.foldl (fun r l => r.register l.aliases (l.executor fs)) r).executors.get? k = some e ↔
        (∃ l ∈ ls, k ∈ l.aliases ∧ e = l.executor fs) ∨
          (∀ l ∈ ls, k ∉ l.aliases) ∧ r.executors.get? k = some e := by
    intro ls
    induction ls with
    | nil => simp
    | cons l ls ih =>
      intro r
      rw [List.foldl_cons, ih, get?_register_aliases]
      by_cases hk : k ∈ l.aliases
      · have hsame : ∀ l' : Language, k ∈ l'.aliases ↔ l' = l :=
          fun l' => ⟨fun h => Language.eq_of_mem_aliases h hk, fun h => h ▸ hk⟩
        by_cases hl : l ∈ ls
        · simp [hsame, hl]
        · have hne : ∀ l' ∈ ls, l' ≠ l := fun l' h heq => hl (heq ▸ h)
          simp only [hsame, if_true, Option.some.injEq]
          constructor
          · rintro (⟨l', hl', rfl, -⟩ | ⟨-, rfl⟩)
            · exact absurd hl' hl
            · exact .inl ⟨l, List.mem_cons_self, rfl, rfl⟩
          · rintro (⟨l', -, rfl, rfl⟩ | ⟨hnot, -⟩)
            · exact .inr ⟨hne, rfl⟩
            · exact absurd rfl (hnot l List.mem_cons_self)
      · simp [hk]
  have hall : ∀ l : Language, l ∈ Language.all := fun l => by cases l <;> decide
  have hempty : empty.executors.get? k = none := rfl
  rw [builtins, hfold, hempty]
  simp [hall]

/-! ## Histories -/

/-- **What may be written into a registry.** -/
inductive Event where
  /-- The executors of this library. -/
  | builtins
  /-- An executor under several names. -/
  | register (names : List String) (e : Executor)
  /-- An interpreter for a language. -/
  | withInterpreter (name program : String)

/-- **What an event binds**: the executors of this library their names, a registration the names
that it lists in lower case, and an interpreter all names of its language if it is given one of them
in any case. -/
inductive Event.Binds (fs : Files.Storage) : Event → String → Executor → Prop
  | builtins (l : Language) {k : String} : k ∈ l.aliases → Binds fs .builtins k (l.executor fs)
  | register {names : List String} {e : Executor} {n : String} : n ∈ names →
      Binds fs (.register names e) (lowerCase n) e
  | withInterpreter (l : Language) {name program k : String} : l.Interpreted →
      lowerCase name ∈ l.aliases → k ∈ l.aliases →
      Binds fs (.withInterpreter name program) k (l.interpreter fs program).executor

/-- **The last binding of an identifier in a history.** -/
def LastBinding (fs : Files.Storage) (history : List Event) (k : String) (e : Executor) : Prop :=
  ∃ before event later, history = before ++ event :: later ∧ event.Binds fs k e ∧
    ∀ event' ∈ later, ∀ e', ¬ event'.Binds fs k e'

/-- A registry is what its history says: under each identifier there is what was bound last. -/
def Faithful (fs : Files.Storage) (r : Registry) (history : List Event) : Prop :=
  ∀ k e, r.executors.get? k = some e ↔ LastBinding fs history k e

/-- **An event turns a registry into another one**: it writes what it binds and nothing else. -/
def Writes (fs : Files.Storage) (event : Event) (r r' : Registry) : Prop :=
  ∀ k e, r'.executors.get? k = some e ↔
    event.Binds fs k e ∨ (∀ e', ¬ event.Binds fs k e') ∧ r.executors.get? k = some e

lemma writes_register (fs : Files.Storage) (r : Registry) (names : List String) (e : Executor) :
    Writes fs (.register names e) r (r.register names e) := by
  have hbinds : ∀ k e', (Event.register names e).Binds fs k e' ↔
      k ∈ names.map lowerCase ∧ e = e' := by
    intro k e'
    constructor
    · rintro ⟨⟩
      exact ⟨List.mem_map_of_mem ‹_›, rfl⟩
    · rintro ⟨hk, rfl⟩
      obtain ⟨n, hn, rfl⟩ := List.mem_map.1 hk
      exact .register hn
  intro k e'
  simp only [hbinds, get?_register]
  by_cases hk : k ∈ names.map lowerCase
  · simp only [hk, if_true, Option.some.injEq, true_and, forall_eq', false_and, or_false]
  · simp only [hk, if_false, false_and, not_false_eq_true, implies_true, true_and, false_or]

lemma writes_withInterpreter (fs : Files.Storage) (r : Registry) (name program : String) :
    Writes fs (.withInterpreter name program) r (r.withInterpreter fs name program).1 := by
  intro k e
  by_cases hname : ∃ l : Language, l.Interpreted ∧ lowerCase name ∈ l.aliases
  · obtain ⟨l, hl, hname⟩ := hname
    have hbinds : ∀ e', (Event.withInterpreter name program).Binds fs k e' ↔
        k ∈ l.aliases ∧ (l.interpreter fs program).executor = e' := by
      intro e'
      constructor
      · rintro (_ | _ | ⟨l', -, hname', hk⟩)
        obtain rfl := Language.eq_of_mem_aliases hname hname'
        exact ⟨hk, rfl⟩
      · rintro ⟨hk, rfl⟩
        exact .withInterpreter l hl hname hk
    rw [withInterpreter_of_alias hl hname, get?_register_aliases]
    simp only [hbinds]
    by_cases hk : k ∈ l.aliases
    · simp only [hk, if_true, Option.some.injEq, true_and, forall_eq', false_and, or_false]
    · simp only [hk, if_false, false_and, not_false_eq_true, implies_true, true_and, false_or]
  · have hnone : ∀ e', ¬ (Event.withInterpreter name program).Binds fs k e' := by
      rintro e' (_ | _ | ⟨l, hl, hname', -⟩)
      exact hname ⟨l, hl, hname'⟩
    rw [withInterpreter_of_not_alias fun l hl h => hname ⟨l, hl, h⟩]
    simp only [hnone, not_false_eq_true, implies_true, true_and, false_or]

/-- The last binding after one more event. -/
lemma lastBinding_append {history : List Event} {event : Event} :
    LastBinding fs (history ++ [event]) k e ↔
      event.Binds fs k e ∨ (∀ e', ¬ event.Binds fs k e') ∧ LastBinding fs history k e := by
  constructor
  · rintro ⟨before, bound, later, heq, hbinds, hlater⟩
    rcases List.eq_nil_or_concat later with rfl | ⟨later, last, rfl⟩
    · obtain ⟨-, hlast⟩ := List.append_inj' heq rfl
      obtain rfl := List.head_eq_of_cons_eq hlast
      exact .inl hbinds
    · have heq : history ++ [event] = (before ++ bound :: later) ++ [last] := by
        simpa using heq
      obtain ⟨rfl, hlast⟩ := List.append_inj' heq rfl
      obtain rfl := List.head_eq_of_cons_eq hlast
      refine .inr ⟨hlater event (by simp), before, bound, later, rfl, hbinds, fun event' h => ?_⟩
      exact hlater event' (by simp [h])
  · rintro (hbinds | ⟨hnone, before, bound, later, rfl, hbinds, hlater⟩)
    · exact ⟨history, event, [], rfl, hbinds, fun _ h => nomatch h⟩
    · refine ⟨before, bound, later ++ [event], by simp, hbinds, fun event' h => ?_⟩
      rcases List.mem_append.1 h with h | h
      · exact hlater event' h
      · obtain rfl := List.mem_singleton.1 h
        exact hnone

/-- A registry stays what its history says. -/
lemma Faithful.writes {r' : Registry} {history : List Event} {event : Event}
    (h : Faithful fs r history) (hw : Writes fs event r r') :
    Faithful fs r' (history ++ [event]) := by
  intro k e
  rw [hw k e, h k e, lastBinding_append]

lemma faithful_empty (fs : Files.Storage) : Faithful fs empty [] := by
  intro k e
  constructor
  · exact fun h => nomatch h
  · rintro ⟨before, event, later, heq, -, -⟩
    exact absurd heq (by simp)

lemma faithful_builtins (fs : Files.Storage) : Faithful fs (builtins fs) [.builtins] := by
  suffices hwrites : Writes fs .builtins empty (builtins fs) from (faithful_empty fs).writes hwrites
  intro k e
  have hbinds : ∀ e', Event.builtins.Binds fs k e' ↔
      ∃ l : Language, k ∈ l.aliases ∧ e' = l.executor fs := by
    intro e'
    constructor
    · rintro (⟨l, hk⟩ | _ | _)
      exact ⟨l, hk, rfl⟩
    · rintro ⟨l, hk, rfl⟩
      exact .builtins l hk
  have hempty : empty.executors.get? k = none := rfl
  rw [get?_builtins, hbinds, hempty]
  simp only [reduceCtorEq, and_false, or_false]

/-- Some binding is the last one just if there is one. -/
lemma exists_lastBinding {history : List Event} :
    (∃ e, LastBinding fs history k e) ↔ ∃ event ∈ history, ∃ e, event.Binds fs k e := by
  constructor
  · rintro ⟨e, before, event, later, rfl, hbinds, -⟩
    exact ⟨event, by simp, e, hbinds⟩
  · induction history using List.reverseRecOn with
    | nil => exact fun ⟨_, h, _⟩ => nomatch h
    | append_singleton history event ih =>
      rintro ⟨event', hmem, e, hbinds⟩
      by_cases hlast : ∃ e, event.Binds fs k e
      · obtain ⟨e, hlast⟩ := hlast
        exact ⟨e, lastBinding_append.2 (.inl hlast)⟩
      · rcases List.mem_append.1 hmem with hmem | hmem
        · obtain ⟨e, he⟩ := ih ⟨event', hmem, e, hbinds⟩
          exact ⟨e, lastBinding_append.2 (.inr ⟨fun e' h => hlast ⟨e', h⟩, he⟩)⟩
        · obtain rfl := List.mem_singleton.1 hmem
          exact absurd ⟨e, hbinds⟩ hlast

/-- Something is found just if something was bound. -/
lemma Faithful.exists_get? {history : List Event} (h : Faithful fs r history) :
    (∃ e, r.executors.get? k = some e) ↔ ∃ event ∈ history, ∃ e, event.Binds fs k e := by
  rw [← exists_lastBinding]
  exact exists_congr fun e => h k e

/-- Nothing is found just if nothing was bound. -/
lemma Faithful.get?_eq_none_iff {history : List Event} (h : Faithful fs r history) :
    r.executors.get? k = none ↔ ∀ event ∈ history, ∀ e, ¬ event.Binds fs k e := by
  have hnot := not_congr (h.exists_get? (k := k))
  rw [Option.eq_none_iff_forall_ne_some]
  push Not at hnot
  exact hnot

/-! ## Copies -/

/-- **A registry with its history.** -/
structure Copy where
  /-- The registry. -/
  registry : Registry
  /-- What was written into it, oldest first. -/
  history : List Event

/-- **An operation on the copies that there are.** They are numbered in the order in which they were
made. -/
inductive Op where
  /-- A new registry without executors. -/
  | new
  /-- A new registry with the executors of this library. -/
  | withBuiltins
  /-- A registration in a copy. -/
  | register (i : ℕ) (names : List String) (e : Executor)
  /-- An interpreter for a language in a copy. -/
  | withInterpreter (i : ℕ) (name program : String)
  /-- One more copy of a copy, with its history. -/
  | clone (i : ℕ)

/-- The copy that an operation writes into. -/
def Op.target? : Op → Option ℕ
  | register i _ _ | withInterpreter i _ _ => some i
  | new | withBuiltins | clone _ => none

/-- **What an operation does.** One on a copy that there is not does nothing. -/
def Op.apply (fs : Files.Storage) (copies : List Copy) : Op → List Copy
  | new => copies ++ [⟨.empty, []⟩]
  | withBuiltins => copies ++ [⟨.builtins fs, [.builtins]⟩]
  | register i names e => copies.modify i fun c =>
      ⟨c.registry.register names e, c.history ++ [.register names e]⟩
  | withInterpreter i name program => copies.modify i fun c =>
      ⟨(c.registry.withInterpreter fs name program).1,
        c.history ++ [.withInterpreter name program]⟩
  | clone i => copies ++ copies[i]?.toList

/-- The copies after some operations. -/
def after (fs : Files.Storage) (copies : List Copy) (ops : List Op) : List Copy :=
  ops.foldl (Op.apply fs) copies

/-- A copy is what its history says. -/
def Copy.Faithful (fs : Files.Storage) (c : Copy) : Prop :=
  Registry.Faithful fs c.registry c.history

/-- **Every operation keeps copies true to their histories.** -/
theorem Copy.Faithful.apply {copies : List Copy} (h : ∀ c ∈ copies, c.Faithful fs) (op : Op) :
    ∀ c ∈ op.apply fs copies, c.Faithful fs := by
  have hmodify : ∀ (i : ℕ) (f : Copy → Copy), (∀ c, c.Faithful fs → (f c).Faithful fs) →
      ∀ c ∈ copies.modify i f, c.Faithful fs := by
    intro i f hf c hc
    obtain ⟨j, hj⟩ := List.mem_iff_getElem?.1 hc
    rw [List.getElem?_modify] at hj
    obtain ⟨c', hc', rfl⟩ := Option.map_eq_some_iff.1 hj
    have hfaithful := h c' (List.mem_of_getElem? hc')
    by_cases hij : i = j
    · simpa [hij] using hf c' hfaithful
    · simpa [hij] using hfaithful
  intro c hc
  cases op with
  | new =>
    rcases List.mem_append.1 hc with hc | hc
    · exact h c hc
    · obtain rfl := List.mem_singleton.1 hc
      exact faithful_empty fs
  | withBuiltins =>
    rcases List.mem_append.1 hc with hc | hc
    · exact h c hc
    · obtain rfl := List.mem_singleton.1 hc
      exact faithful_builtins fs
  | register i names e =>
    refine hmodify i _ (fun c hc => ?_) c hc
    exact Registry.Faithful.writes hc (writes_register fs c.registry names e)
  | withInterpreter i name program =>
    refine hmodify i _ (fun c hc => ?_) c hc
    exact Registry.Faithful.writes hc (writes_withInterpreter fs c.registry name program)
  | clone i =>
    rcases List.mem_append.1 hc with hc | hc
    · exact h c hc
    · exact h c (List.mem_of_getElem? (Option.mem_toList.1 hc))

/-- After any operations all copies are true to their histories. -/
lemma Copy.Faithful.after {copies : List Copy} (h : ∀ c ∈ copies, c.Faithful fs) (ops : List Op) :
    ∀ c ∈ Registry.after fs copies ops, c.Faithful fs := by
  induction ops generalizing copies with
  | nil => exact h
  | cons op ops ih => exact ih (Copy.Faithful.apply h op)

/-- **An operation leaves every copy alone that it does not write into.** -/
lemma Op.apply_getElem? (fs : Files.Storage) {copies : List Copy} {j : ℕ} (hj : j < copies.length)
    {op : Op} (h : op.target? ≠ some j) : (op.apply fs copies)[j]? = copies[j]? := by
  have hmodify : ∀ (i : ℕ) (f : Copy → Copy), i ≠ j → (copies.modify i f)[j]? = copies[j]? := by
    intro i f hij
    rw [List.getElem?_modify]
    simp [hij]
  cases op with
  | new | withBuiltins | clone i => exact List.getElem?_append_left hj
  | register i names e => exact hmodify i _ fun heq => h (congrArg some heq)
  | withInterpreter i name program => exact hmodify i _ fun heq => h (congrArg some heq)

/-- There are never fewer copies. -/
lemma Op.length_le_apply (fs : Files.Storage) (copies : List Copy) (op : Op) :
    copies.length ≤ (op.apply fs copies).length := by
  cases op <;> simp [Op.apply]

/-- **Operations leave every copy alone that none of them writes into.** -/
lemma after_getElem? {copies : List Copy} {j : ℕ} (hj : j < copies.length) {ops : List Op}
    (h : ∀ op ∈ ops, op.target? ≠ some j) : (after fs copies ops)[j]? = copies[j]? := by
  induction ops generalizing copies with
  | nil => rfl
  | cons op ops ih =>
    have hstep := Op.apply_getElem? fs hj (h op List.mem_cons_self)
    have hlength := Nat.lt_of_lt_of_le hj (op.length_le_apply fs copies)
    exact (ih hlength fun op' hop => h op' (List.mem_cons_of_mem _ hop)).trans hstep

/-- **What registries answer after any operations.** Registries are made empty or with the executors
of this library, executors are registered under any names, interpreters are set, and registries are
copied and used on, in any order. Then each of them

* has under an identifier, in any case, the executor that its own history bound last to it in lower
  case, and none just if its history never bound it;
* says that it has an identifier just if it has an executor under it;
* lists the identifiers that its history bound, ascending in the order of their bytes.

Setting an interpreter for a text that is no name of a language with interpreters changes nothing, a
copy starts as the registry that is copied, and operations on other copies leave a copy as it is.

**Proof sketch.** Each operation writes what its event binds and nothing else (`Writes`), so copies
stay true to their histories (`Copy.Faithful.apply`), and so on for a whole run. -/
theorem after_answers (fs : Files.Storage) (ops : List Op) :
    (∀ c ∈ after fs [] ops,
      (∀ id e, c.registry.get? id = some e ↔ LastBinding fs c.history (lowerCase id) e) ∧
      (∀ id, c.registry.get? id = none ↔
        ∀ event ∈ c.history, ∀ e, ¬ event.Binds fs (lowerCase id) e) ∧
      (∀ id, c.registry.contains id = true ↔ ∃ e, c.registry.get? id = some e) ∧
      c.registry.languages.Pairwise (fun a b => a.toUTF8.toList < b.toUTF8.toList) ∧
      (∀ k, k ∈ c.registry.languages ↔ ∃ event ∈ c.history, ∃ e, event.Binds fs k e) ∧
      ∀ name program, (∀ l : Language, l.Interpreted → lowerCase name ∉ l.aliases) →
        (c.registry.withInterpreter fs name program).1 = c.registry) ∧
    (∀ i < (after fs [] ops).length,
      (after fs [] (ops ++ [.clone i]))[(after fs [] ops).length]? = (after fs [] ops)[i]?) ∧
    ∀ j < (after fs [] ops).length, ∀ ops', (∀ op ∈ ops', op.target? ≠ some j) →
      (after fs [] (ops ++ ops'))[j]? = (after fs [] ops)[j]? := by
  have hafter : ∀ ops', after fs [] (ops ++ ops') = after fs (after fs [] ops) ops' := fun ops' =>
    List.foldl_append
  refine ⟨fun c hc => ?_, fun i hi => ?_, fun j hj ops' hops => ?_⟩
  · have hnil : ∀ c ∈ ([] : List Copy), c.Faithful fs := fun _ h => nomatch h
    have hfaithful : c.Faithful fs := Copy.Faithful.after hnil ops c hc
    refine ⟨fun id e => hfaithful (lowerCase id) e, fun id => hfaithful.get?_eq_none_iff,
      fun id => ?_, ?_, fun k => ?_, fun name program h => withInterpreter_of_not_alias h program⟩
    · exact Option.isSome_iff_exists
    · exact c.registry.executors.keys_ascending.imp Text.toUTF8_lt_iff.2
    · exact Dict.mem_keys.trans hfaithful.exists_get?
  · rw [hafter]
    have hlast : (after fs [] ops)[i]? = some (after fs [] ops)[i] := List.getElem?_eq_getElem hi
    simp only [after, List.foldl_cons, List.foldl_nil, Op.apply] at hlast ⊢
    rw [hlast]
    simp
  · rw [hafter]
    exact after_getElem? hj hops

/-- A copy in which an interpreter is set for Python, under another of its names and in capital
letters, and the registry from which it was copied. -/
theorem after_answers_copied :
    ∃ c c', (after .empty [] [.withBuiltins, .clone 0, .withInterpreter 1 "JYTHON" "pypy3"])[0]? =
        some c ∧
      (after .empty [] [.withBuiltins, .clone 0, .withInterpreter 1 "JYTHON" "pypy3"])[1]? =
        some c' ∧
      c.registry.get? "Py" = some (Language.python.interpreter .empty "python3").executor ∧
      c'.registry.get? "Py" = some (Language.python.interpreter .empty "pypy3").executor ∧
      c'.registry.get? "cobol" = none := by
  let fs : Files.Storage := .empty
  let c : Copy := ⟨.builtins fs, [.builtins]⟩
  let c' : Copy := ⟨((Registry.builtins fs).withInterpreter fs "JYTHON" "pypy3").1,
    [.builtins, .withInterpreter "JYTHON" "pypy3"]⟩
  obtain ⟨hanswers, -, hkept⟩ := after_answers fs [.withBuiltins, .clone 0]
  obtain ⟨hanswers', -⟩ :=
    after_answers fs [.withBuiltins, .clone 0, .withInterpreter 1 "JYTHON" "pypy3"]
  have hpython : lowerCase "Py" ∈ Language.python.aliases := by decide
  have hjython : lowerCase "JYTHON" ∈ Language.python.aliases := by decide
  have hcobol : ∀ l : Language, lowerCase "cobol" ∉ l.aliases := fun l => by cases l <;> decide
  refine ⟨c, c', ?_, rfl, ?_, ?_, ?_⟩
  · exact hkept 0 (by decide) [.withInterpreter 1 "JYTHON" "pypy3"] (by simp [Op.target?])
  · refine ((hanswers c (by simp [after, Op.apply, c, fs])).1 "Py" _).2 ?_
    exact ⟨[], .builtins, [], rfl, .builtins .python hpython, fun _ h => nomatch h⟩
  · refine ((hanswers' c' (by simp [after, Op.apply, c', fs])).1 "Py" _).2 ?_
    exact ⟨[.builtins], .withInterpreter "JYTHON" "pypy3", [], rfl,
      .withInterpreter .python (.inl rfl) hjython hpython, fun _ h => nomatch h⟩
  · refine ((hanswers' c' (by simp [after, Op.apply, c', fs])).2.1 "cobol").2 ?_
    generalize lowerCase "cobol" = k at hcobol ⊢
    intro event hmem e hbinds
    cases hbinds with
    | builtins l h => exact hcobol l h
    | register _ => simp [c'] at hmem
    | withInterpreter l _ _ h => exact hcobol l h

end Registry

end ScriptStage
