import ScriptStage.Proofs.Properties.Breaks
import ScriptStage.Source

/-!
# Inline scripts as they are written

A script of several lines is written on one line: in quotes, with its quotes doubled and its line
ends written as backslash and `n`. `ScriptStage.Source.decode` takes the two replacements back in
the other order. That works unless the script itself holds a backslash followed by `n`.

## Main definitions

* `ScriptStage.Source.writeScript` — a script as it is written.

## Main results

* `ScriptStage.Source.decodeChars_writeScript` — a written script comes back.
-/

set_option autoImplicit false

namespace ScriptStage

namespace Source

open Text Properties

/-! ## Writing -/

/-- How a character is written: a quote twice, and a line feed as backslash and `n`. -/
def writeScriptChar (c : Char) : List Char :=
  if c = '"' then ['"', '"'] else if c = '\n' then ['\\', 'n'] else [c]

/-- A script as it is written. -/
def writeScript (t : List Char) : List Char :=
  '"' :: t.flatMap writeScriptChar ++ ['"']

/-- A text with its quotes doubled: what is between the outer quotes once the line ends are back. -/
def doubleQuotes (t : List Char) : List Char :=
  t.flatMap fun c => if c = '"' then ['"', '"'] else [c]

variable {t : List Char}

/-- The quotes around a text are stripped. -/
lemma unquote_quotes (t : List Char) : unquote ('"' :: t ++ ['"']) = t := by
  have hlast : ('"' :: t ++ ['"']).getLast? = some '"' := by
    rw [List.getLast?_append]
    rfl
  rw [unquote, if_pos ⟨by simp, rfl, hlast⟩]
  simp

lemma unquote_writeScript (t : List Char) :
    unquote (writeScript t) = t.flatMap writeScriptChar :=
  unquote_quotes _

/-- What is written for a text starts with `n` only if the text does. -/
lemma head_writeScriptChar :
    (t.flatMap writeScriptChar).head? = some 'n' ↔ t.head? = some 'n' := by
  cases t with
  | nil => rfl
  | cons c t =>
    rw [List.flatMap_cons, writeScriptChar]
    split
    · next h => subst h; simp
    · split
      · next h => subst h; simp
      · rfl

/-- The line ends come back. -/
lemma replacePair_lineEnds (h : ¬ HasBreak t) :
    replacePair '\\' 'n' ['\n'] (t.flatMap writeScriptChar) = doubleQuotes t := by
  induction t with
  | nil => rfl
  | cons c t ih =>
    rw [hasBreak_cons, not_or] at h
    obtain ⟨hc, ht⟩ := h
    rw [List.flatMap_cons, doubleQuotes, List.flatMap_cons, ← doubleQuotes, ← ih ht,
      writeScriptChar]
    split
    · rw [List.cons_append, List.singleton_append, replacePair_cons_of_ne (by decide),
        replacePair_cons_of_ne (by decide)]
      rfl
    · split
      · next hl =>
        subst hl
        rw [List.cons_append, List.singleton_append, replacePair_pair]
      · rw [List.singleton_append,
          replacePair_cons fun he => hc (he.imp_right head_writeScriptChar.1)]
        rfl

/-- The doubled quotes come back. -/
lemma replacePair_doubleQuotes (t : List Char) :
    replacePair '"' '"' ['"'] (doubleQuotes t) = t := by
  induction t with
  | nil => rfl
  | cons c t ih =>
    rw [doubleQuotes, List.flatMap_cons, ← doubleQuotes]
    split
    · next hc =>
      subst hc
      rw [List.cons_append, List.singleton_append, replacePair_pair, ih]
      rfl
    · next hc =>
      rw [List.singleton_append, replacePair_cons_of_ne hc, ih]

/-- **A written script comes back**, unless it holds a backslash followed by `n`. -/
theorem decodeChars_writeScript (h : ¬ HasBreak t) : decodeChars (writeScript t) = t := by
  rw [decodeChars, unquote_writeScript, replacePair_lineEnds h, replacePair_doubleQuotes]

/-- No line feed is written. -/
lemma writeScript_mem (t : List Char) : '\n' ∉ writeScript t := by
  have hchar : ∀ c, '\n' ∉ writeScriptChar c := by
    intro c
    unfold writeScriptChar
    split
    · decide
    · split
      · decide
      · next hc => simpa using Ne.symm hc
  simp [writeScript, List.mem_flatMap, hchar]

end Source

end ScriptStage
