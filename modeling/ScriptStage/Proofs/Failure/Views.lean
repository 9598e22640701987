import ScriptStage.Failure.Report
import ScriptStage.Proofs.Json.Records

/-!
# Three views of a failure

A failure can be looked at as it was raised, with the chain of its causes; in the report that a
message keeps of it; and as it is read again from its JSON text, which leaves the cause out. This
file says what the three have in common. Whether another attempt is worth it depends on the end of
the chain, so that the failure that is read again can differ from the others in this.

## Main definitions

* `ScriptStage.Failure.EndsInTimeout` — the chain of causes ends in a missed deadline.
* `ScriptStage.Failure.Detached` — a failure and the same one without its cause.

## Main results

* `ScriptStage.Failure.retryable_iff` — which failures are worth another attempt.
* `ScriptStage.Failure.reads_write`, `parse_render` — what a failure is read back as.
* `ScriptStage.Failure.views_agree` — what the three views have in common.
-/

set_option autoImplicit false

namespace ScriptStage.Failure

open Json

/-! ## Chains of causes -/

/-- **The chain of causes ends in a missed deadline**: from failures of execution to what caused
them. -/
inductive EndsInTimeout : Failure → Prop
  | timeout (text : String) : EndsInTimeout (timeout text)
  | execution (context : String) {cause : Failure} (h : EndsInTimeout cause) :
    EndsInTimeout (execution context (some cause))

/-- **A failure is worth another attempt** if and only if the chain of its causes ends in a missed
deadline. -/
theorem retryable_iff : ∀ f : Failure, f.retryable = true ↔ EndsInTimeout f
  | timeout text => iff_of_true rfl (.timeout text)
  | execution context (some cause) => by
    have ih := retryable_iff cause
    constructor
    · exact fun h => .execution context (ih.1 h)
    · rintro (_ | ⟨_, h⟩)
      exact ih.2 h
  | execution context none => iff_of_false Bool.false_ne_true nofun
  | configuration _ | io _ | script _ | deserialization _ =>
    iff_of_false Bool.false_ne_true nofun

/-- The end of the chain is the last of the causes, or the failure itself if it has none. -/
theorem endsInTimeout_iff_getLast : ∀ f : Failure,
    EndsInTimeout f ↔ ∃ text, (f :: f.causes).getLast? = some (timeout text)
  | timeout text => iff_of_true (.timeout text) ⟨text, rfl⟩
  | execution context (some cause) => by
    have ih := endsInTimeout_iff_getLast cause
    have hcauses : (execution context (some cause)).causes = cause :: cause.causes := by
      rw [causes]
    rw [hcauses, List.getLast?_cons_cons, ← ih]
    exact ⟨fun | .execution _ h => h, .execution context⟩
  | execution context none => iff_of_false nofun (by simp [causes])
  | configuration _ | io _ | script _ | deserialization _ => iff_of_false nofun (by simp [causes])

/-! ## What is read back -/

/-- **A failure and the same one without its cause.** Only failures of execution have one. -/
inductive Detached : Failure → Failure → Prop
  | execution (context : String) (source : Option Failure) :
    Detached (execution context source) (execution context none)
  | other {f : Failure} (h : ∀ context source, f ≠ execution context source) : Detached f f

lemma detached_withoutSource (f : Failure) : Detached f f.withoutSource := by
  cases f with
  | execution context source => exact .execution context source
  | _ => exact .other nofun

variable {depth : ℕ}

/-- The context of a failure of execution is read back. -/
lemma reads_execution (context : String) :
    Reads (readContent .execution (depth + 1)) (writeObject [("context", writeString context)])
      (.execution context none) := by
  have hcontext : Drafts executionShape depth [("context", writeString context)] none
      (some context) :=
    .single rfl rfl ((reads_text "a string" context).map some)
  exact reads_record (s := executionShape) hcontext rfl

/-- The text of any other failure is read back. -/
lemma reads_content {k : Kind} (h : k ≠ .execution) (text : String) :
    Reads (readContent k (depth + 1)) (writeString text) (k.failure text) := by
  have hread : readContent k (depth + 1) =
      fun c => (readText "a string" c).map fun r => (k.failure r.1, r.2) := by
    funext c
    exact if_neg h
  rw [hread]
  exact (reads_text "a string" text).map k.failure

/-- The name of a kind is read off the front of an object, up to the colon. -/
lemma readKind_writeField {name : String} {k : Kind} (hk : Kind.ofName? name = some k)
    (t rest : List Char) (p : Position) :
    ∃ q, readKind ⟨separated true [writeField name t] ++ rest, p⟩ =
      .ok (k, ⟨':' :: (t ++ rest), q⟩) := by
  obtain ⟨c, q, hnext, hname⟩ := nextKey_separated true name t [] rest p
  refine ⟨q, ?_⟩
  rw [readKind, hnext, ok_bind]
  simp only [hname, ok_bind, hk, separated, List.nil_append]
  rfl

/-- An object with the name of a kind as its only key is read as a failure of this kind. -/
lemma reads_kind {name : String} {k : Kind} {t : List Char} {f : Failure}
    (hk : Kind.ofName? name = some k) (h : Reads (readContent k depth) t f) :
    Reads (read (depth + 1)) (writeObject [(name, t)]) f := by
  refine ⟨⟨'\x7b', _, rfl, rfl, by decide⟩, fun p rest _ => ?_⟩
  obtain ⟨q, hkind⟩ := readKind_writeField hk t ('\x7d' :: rest) (p.after '\x7b')
  obtain ⟨q', hcontent⟩ :=
    h.reads (q.after ':') ('\x7d' :: rest) (stops_cons (.inr (.inr rfl)))
  refine ⟨q'.after '\x7d', ?_⟩
  have hfield : fieldTexts [(name, t)] = [writeField name t] := rfl
  have hblank : Cursor.isBlank '\x7b' = false := rfl
  rw [writeObject_append, hfield]
  unfold read
  simp only [Cursor.skipBlanks_of_not_blank hblank, Cursor.nextIs_cons, decide_true, if_true,
    Cursor.next_cons, hkind, colon_cons, hcontent, ok_bind]
  rfl

/-- **A failure is read back without its cause.** -/
theorem reads_write (f : Failure) : Reads (read (depth + 2)) f.write f.withoutSource := by
  cases f with
  | execution context source => exact reads_kind rfl (reads_execution context)
  | configuration text => exact reads_kind rfl (reads_content (k := .configuration) nofun text)
  | io text => exact reads_kind rfl (reads_content (k := .io) nofun text)
  | script text => exact reads_kind rfl (reads_content (k := .script) nofun text)
  | timeout text => exact reads_kind rfl (reads_content (k := .timeout) nofun text)
  | deserialization text =>
    exact reads_kind rfl (reads_content (k := .deserialization) nofun text)

/-- **The text of a failure describes it without its cause.** -/
theorem parse_render (f : Failure) : parse f.render.toList = .ok f.withoutSource := by
  have hreads : Reads (read depthLimit) f.write f.withoutSource := reads_write f
  rw [render, String.toList_ofList]
  exact hreads.readAll

/-! ## The views -/

/-- A failure without its cause is worth another attempt just as the failure is, unless that is so
because of the cause. -/
lemma retryable_withoutSource_iff (f : Failure) :
    f.withoutSource.retryable = f.retryable ↔
      ¬ ∃ context cause, f = execution context (some cause) ∧ cause.retryable = true := by
  cases f with
  | execution context source =>
    cases source with
    | none => exact iff_of_true rfl (by simp)
    | some cause =>
      have hattempt : (execution context (some cause)).retryable = cause.retryable := by
        rw [retryable]
      rw [hattempt]
      cases hcause : cause.retryable <;> simp [withoutSource, retryable, hcause]
  | _ => exact iff_of_true rfl (by simp)

/-- **The three views of a failure**, whatever the length of the chain of its causes.

* It is worth another attempt if and only if the chain ends in a missed deadline.
* The report of it has its code, its text, and whether it is worth another attempt.
* Its JSON text is read as the failure itself, without the cause if it is one of execution. So the
  kind, the code, the text and the class stay the same; and it stays the same whether it is worth
  another attempt, but for a failure of execution with a cause that is worth one. -/
theorem views_agree (f : Failure) (now : String) :
    (f.retryable = true ↔ EndsInTimeout f) ∧
    (let report := Report.ofFailure f now
     report.code = f.code ∧ report.message = f.message ∧ report.retryable = f.retryable) ∧
    ∃ g, parse f.render.toList = .ok g ∧ Detached f g ∧
      g.kind = f.kind ∧ g.code = f.code ∧ g.message = f.message ∧
      g.isStartup = f.isStartup ∧ g.isExecution = f.isExecution ∧
      (g.retryable = f.retryable ↔
        ¬ ∃ context cause, f = execution context (some cause) ∧ cause.retryable = true) := by
  have hdetached := detached_withoutSource f
  have hretryable := retryable_withoutSource_iff f
  refine ⟨retryable_iff f, ⟨rfl, rfl, rfl⟩, f.withoutSource, parse_render f, hdetached, ?_⟩
  cases f <;> exact ⟨rfl, rfl, rfl, rfl, rfl, hretryable⟩

/-- A deadline missed below two failures of execution counts, but is not read back. -/
example : (execution "a" (some (execution "b" (some (timeout "c"))))).retryable = true ∧
    (execution "a" (some (execution "b" (some (timeout "c"))))).withoutSource.retryable =
      false := by
  decide

end ScriptStage.Failure
