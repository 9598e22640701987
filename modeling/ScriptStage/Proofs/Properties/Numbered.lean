import ScriptStage.Proofs.Properties.Breaks

/-!
# Values with escapes by number

Inside another value the short escapes cannot be used for everything: a doubled backslash in front
of an `n` would count as a line end. The escapes by number are safe. This file writes a value with
them: its backslashes, carriage returns and line feeds are numbers, and so is a blank at its start.

## Main definitions

* `ScriptStage.Properties.numberEscape` — the escape of a character by its number.
* `ScriptStage.Properties.writeNumbered` — a value as it is written.

## Main results

* `ScriptStage.Properties.spells_numberEscape` — an escape by number stands for its character.
* `ScriptStage.Properties.unescape_writeNumbered` — a written value stands for that value.
* `ScriptStage.Properties.not_hasBreak_writeNumbered` — a written value is never cut.
-/

set_option autoImplicit false

namespace ScriptStage.Properties

open Text

/-! ## Digits -/

/-- The hexadecimal digit of a number below 16, with letters of either case. -/
def hexDigit (upper : Bool) (n : ℕ) : Char :=
  if upper then n.digitChar.toUpper else n.digitChar

/-- A digit is read as its number, and it is none of the characters that matter elsewhere. -/
lemma hexDigit_spec (upper : Bool) {n : ℕ} (hn : n < 16) :
    digitIn? 16 (hexDigit upper n) = some n ∧
      hexDigit upper n ∉ ['+', '\\', '\r', '\n'] := by
  have h : ∀ upper : Bool, ∀ n : Fin 16,
      digitIn? 16 (hexDigit upper n) = some n.val ∧
        hexDigit upper n ∉ ['+', '\\', '\r', '\n'] := by decide +kernel
  exact h upper ⟨n, hn⟩

/-- The escape of a character by its number, in four digits. -/
def numberEscape (upper : Bool) (c : Char) : List Char :=
  ['\\', 'u', hexDigit upper (c.toNat / 0x1000), hexDigit upper (c.toNat / 0x100 % 0x10),
    hexDigit upper (c.toNat / 0x10 % 0x10), hexDigit upper (c.toNat % 0x10)]

/-- Four digits name the character with their number. -/
lemma codePoint?_hexDigits (upper : Bool) {c : Char} (hc : c.toNat < 0x10000) :
    codePoint? (hexDigit upper (c.toNat / 0x1000)) (hexDigit upper (c.toNat / 0x100 % 0x10))
      (hexDigit upper (c.toNat / 0x10 % 0x10)) (hexDigit upper (c.toNat % 0x10)) = some c := by
  obtain ⟨h₁, hplus⟩ := hexDigit_spec upper (n := c.toNat / 0x1000) (by omega)
  obtain ⟨h₂, -⟩ := hexDigit_spec upper (n := c.toNat / 0x100 % 0x10) (by omega)
  obtain ⟨h₃, -⟩ := hexDigit_spec upper (n := c.toNat / 0x10 % 0x10) (by omega)
  obtain ⟨h₄, -⟩ := hexDigit_spec upper (n := c.toNat % 0x10) (by omega)
  have hsum : ((c.toNat / 0x1000 * 16 + c.toNat / 0x100 % 0x10) * 16 +
      c.toNat / 0x10 % 0x10) * 16 + c.toNat % 0x10 = c.toNat := by omega
  have hvalid : c.toNat.isValidChar := c.valid
  rw [codePoint?, if_neg fun h => hplus (by simp [h])]
  simp [natIn?, h₁, h₂, h₃, h₄, hsum, scalar?, hvalid, Char.ofNat_toNat]

/-- **An escape by number stands for its character.** -/
theorem spells_numberEscape (upper : Bool) {c : Char} (hc : c.toNat < 0x10000) :
    Spells (numberEscape upper c) c :=
  .number (codePoint?_hexDigits upper hc)

/-! ## Writing -/

/-- How a character is written: a backslash or a line end by its number. -/
def writeInner (upper : Bool) (c : Char) : List Char :=
  if c ∈ ['\\', '\r', '\n'] then numberEscape upper c else [c]

/-- How the first character is written: a blank by its number as well. -/
def writeStart (upper : Bool) (c : Char) : List Char :=
  if isBlank c then numberEscape upper c else writeInner upper c

/-- A value as it is written. -/
def writeNumbered (upper : Bool) : List Char → List Char :=
  spell (writeStart upper) (writeInner upper)

/-- **What is written for a character**: the character itself or its number. -/
inductive Numbers (upper : Bool) : List Char → Char → Prop
  | plain {c : Char} (hc : c ∉ ['\\', '\r', '\n']) : Numbers upper [c] c
  | number {c : Char} (hc : c.toNat < 0x10000) : Numbers upper (numberEscape upper c) c

/-- Blanks have numbers of four digits. -/
lemma toNat_lt_of_isBlank {c : Char} (h : isBlank c = true) : c.toNat < 0x10000 := by
  simp only [isBlank, blankRanges, List.any_cons, List.any_nil, Bool.or_eq_true,
    Bool.and_eq_true, decide_eq_true_eq, Bool.false_eq_true, or_false] at h
  omega

variable {upper : Bool}

lemma numbers_writeInner (upper : Bool) (c : Char) : Numbers upper (writeInner upper c) c := by
  unfold writeInner
  split
  · next hc =>
    refine .number ?_
    simp only [List.mem_cons, List.not_mem_nil, or_false] at hc
    rcases hc with rfl | rfl | rfl <;> decide
  · next hc => exact .plain hc

lemma numbers_writeStart (upper : Bool) (c : Char) : Numbers upper (writeStart upper c) c := by
  unfold writeStart
  split
  · next hc => exact .number (toNat_lt_of_isBlank hc)
  · exact numbers_writeInner upper c

namespace Numbers

variable {s t : List Char} {c : Char}

lemma spells (h : Numbers upper s c) : Spells s c := by
  cases h with
  | plain hc => exact .plain fun he => hc (by simp [he])
  | number hc => exact spells_numberEscape upper hc

/-- No line end is written. -/
lemma mem (h : Numbers upper s c) : ∀ d ∈ s, d ≠ '\r' ∧ d ≠ '\n' := by
  cases h with
  | plain hc =>
    simp only [List.mem_cons, List.not_mem_nil, or_false, not_or] at hc
    simpa using hc.2
  | number hc =>
    have hdigit : ∀ n < 16, hexDigit upper n ≠ '\r' ∧ hexDigit upper n ≠ '\n' := by
      intro n hn
      have h := (hexDigit_spec upper hn).2
      simp only [List.mem_cons, not_or] at h
      exact ⟨h.2.2.1, h.2.2.2.1⟩
    simp only [numberEscape, List.forall_mem_cons]
    exact ⟨by decide, by decide, hdigit _ (by omega), hdigit _ (by omega), hdigit _ (by omega),
      hdigit _ (by omega), fun _ h => nomatch h⟩

/-- What is written makes no pair of a backslash and an `n`, whatever follows. -/
lemma hasBreak_append (h : Numbers upper s c) : HasBreak (s ++ t) ↔ HasBreak t := by
  cases h with
  | plain hc => exact hasBreak_cons_of_ne fun he => hc (by simp [he])
  | number hc =>
    have hdigit : ∀ n < 16, hexDigit upper n ≠ '\\' := by
      intro n hn he
      exact (hexDigit_spec upper hn).2 (by simp [he])
    simp only [numberEscape, List.cons_append, List.nil_append]
    rw [hasBreak_cons, or_iff_right (by simp), hasBreak_cons_of_ne (by decide),
      hasBreak_cons_of_ne (hdigit _ (by omega)), hasBreak_cons_of_ne (hdigit _ (by omega)),
      hasBreak_cons_of_ne (hdigit _ (by omega)), hasBreak_cons_of_ne (hdigit _ (by omega))]

end Numbers

/-! ## Written values -/

/-- **A written value stands for that value.** -/
theorem unescape_writeNumbered (upper : Bool) (v : List Char) :
    unescape (writeNumbered upper v) = v :=
  unescape_spell (fun c => (numbers_writeStart upper c).spells)
    (fun c => (numbers_writeInner upper c).spells) v

lemma writeNumbered_mem (upper : Bool) (v : List Char) :
    ∀ d ∈ writeNumbered upper v, d ≠ '\r' ∧ d ≠ '\n' := fun _ hd =>
  forall_mem_spell (fun c => (numbers_writeStart upper c).mem)
    (fun c => (numbers_writeInner upper c).mem) hd

/-- A written value starts with no blank. -/
lemma writeNumbered_head (upper : Bool) (v : List Char) :
    ∀ d, (writeNumbered upper v).head? = some d → isBlank d = false := by
  intro d hd
  cases v with
  | nil => exact nomatch hd
  | cons c v =>
    rw [writeNumbered, spell, writeStart] at hd
    split at hd
    · obtain rfl := Option.some.inj hd
      decide
    · next hc =>
      rw [writeInner] at hd
      split at hd
      · obtain rfl := Option.some.inj hd
        decide
      · obtain rfl := Option.some.inj hd
        simpa using hc

/-- **A written value is never cut**: no backslash in it is followed by `n`. -/
theorem not_hasBreak_writeNumbered (upper : Bool) (v : List Char) :
    ¬ HasBreak (writeNumbered upper v) := by
  have hrest : ∀ v : List Char, ¬ HasBreak (v.flatMap (writeInner upper)) := by
    intro v
    induction v with
    | nil => exact fun h => absurd h.length_le (by simp)
    | cons c v ih => rwa [List.flatMap_cons, (numbers_writeInner upper c).hasBreak_append]
  cases v with
  | nil => exact hrest []
  | cons c v =>
    rw [writeNumbered, spell, (numbers_writeStart upper c).hasBreak_append]
    exact hrest v

/-! ## Written lines -/

/-- A line that gives a value to a name. -/
def writeNumberedLine (upper : Bool) (name value : List Char) : List Char :=
  name ++ '=' :: writeNumbered upper value

variable {n : List Char}

/-- No line end is on a written line. -/
lemma writeNumberedLine_mem (upper : Bool) (hn : IsName n) (v : List Char) :
    ∀ d ∈ writeNumberedLine upper n v, d ≠ '\r' ∧ d ≠ '\n' :=
  hn.clean (writeNumbered_mem upper v)

/-- A written line is never cut. -/
lemma not_hasBreak_writeNumberedLine (upper : Bool) (hn : IsName n) (v : List Char) :
    ¬ HasBreak (writeNumberedLine upper n v) := by
  rw [writeNumberedLine, hasBreak_line hn]
  exact not_hasBreak_writeNumbered upper v

/-- **A written line gives just the name and the written value.** -/
theorem ofLine_writeNumberedLine (upper : Bool) (hn : IsName n) (v : List Char) :
    ofLine (writeNumberedLine upper n v) = some ⟨n, writeNumbered upper v⟩ := by
  refine hn.ofLine (writeNumbered_head upper v) fun hr => ?_
  exact (writeNumbered_mem upper v _ (List.mem_of_getLast? hr)).1 rfl

end ScriptStage.Properties
