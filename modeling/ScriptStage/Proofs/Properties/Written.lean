import ScriptStage.Proofs.Properties.Spelling

/-!
# Values with doubled backslashes

The usual way to write a value doubles its backslashes and writes control characters as escapes;
for a line feed there are several. Such a value comes back from a line, whatever its characters are.

## Main definitions

* `ScriptStage.Properties.writeValue`, `writeLine` — a value and a line as they are written.
* `ScriptStage.Properties.IsLineFeed` — what a line feed can be written as.

## Main results

* `ScriptStage.Properties.ofLine_writeLine`, `unescape_writeValue` — a written value comes back.
-/

set_option autoImplicit false

namespace ScriptStage.Properties

open Text

/-! ## Writing -/

/-- How a character is written: backslashes are doubled, and control characters are escapes. There
are several ways to write a line feed. -/
def writeChar (lineFeed : List Char) (c : Char) : List Char :=
  if c = '\\' then ['\\', '\\']
  else if c = '\t' then ['\\', 't']
  else if c = '\r' then ['\\', 'r']
  else if c = '\x0c' then ['\\', 'f']
  else if c = '\n' then lineFeed
  else [c]

/-- How the first character is written: a blank that is no control character of these gets a
backslash. -/
def writeFirst (lineFeed : List Char) (c : Char) : List Char :=
  if isBlank c ∧ c ∉ ['\t', '\r', '\x0c', '\n'] then ['\\', c] else writeChar lineFeed c

/-- A value as it is written. -/
def writeValue (lineFeed : List Char) : List Char → List Char :=
  spell (writeFirst lineFeed) (writeChar lineFeed)

/-- A line that gives a value to a name. -/
def writeLine (lineFeed name value : List Char) : List Char :=
  name ++ '=' :: writeValue lineFeed value

/-- **What a line feed can be written as**: an escape for it without a line end. -/
structure IsLineFeed (t : List Char) : Prop where
  spells : Spells t '\n'
  clean : ∀ d ∈ t, d ≠ '\r' ∧ d ≠ '\n'

/-- The line feed by its number. -/
def numberedLineFeed : List Char :=
  ['\\', 'u', '0', '0', '0', 'A']

lemma isLineFeed_numbered : IsLineFeed numberedLineFeed where
  spells := .number (by decide)
  clean := by simp [numberedLineFeed]

lemma unescape_lineFeed (t : List Char) :
    unescape ('\\' :: 'u' :: '0' :: '0' :: '0' :: 'A' :: t) = '\n' :: unescape t :=
  isLineFeed_numbered.spells.unescape_append t

/-- A line feed is written with a backslash. -/
lemma IsLineFeed.head {t : List Char} (h : IsLineFeed t) : ∃ l, t = '\\' :: l := by
  obtain ⟨spells, clean⟩ := h
  generalize hc : '\n' = c at spells
  cases spells with
  | plain => exact absurd hc.symm (clean c (List.mem_singleton_self c)).2
  | escape => exact ⟨_, rfl⟩
  | number => exact ⟨_, rfl⟩

/-- **What is written for a character**: the character itself, an escape that stands for it, or a
line feed in a way of its own. -/
inductive Writes (lineFeed : List Char) : List Char → Char → Prop
  | plain {c : Char} (hb : c ≠ '\\') (hr : c ≠ '\r') (hl : c ≠ '\n') : Writes lineFeed [c] c
  | escape {d : Char} (hu : d ≠ 'u') (hn : d ≠ 'n') (hr : d ≠ '\r') (hl : d ≠ '\n') :
    Writes lineFeed ['\\', d] (escaped d)
  | lineFeed : Writes lineFeed lineFeed '\n'

variable {lineFeed : List Char}

lemma writes_writeChar (lineFeed : List Char) (c : Char) :
    Writes lineFeed (writeChar lineFeed c) c := by
  unfold writeChar
  split
  · next hc =>
    subst hc
    exact .escape (d := '\\') (by decide) (by decide) (by decide) (by decide)
  · next hb =>
    split
    · next hc =>
      subst hc
      exact .escape (d := 't') (by decide) (by decide) (by decide) (by decide)
    · split
      · next hc =>
        subst hc
        exact .escape (d := 'r') (by decide) (by decide) (by decide) (by decide)
      · next hr =>
        split
        · next hc =>
          subst hc
          exact .escape (d := 'f') (by decide) (by decide) (by decide) (by decide)
        · split
          · next hc =>
            subst hc
            exact .lineFeed
          · next hl => exact .plain hb hr hl

lemma writes_writeFirst (lineFeed : List Char) (c : Char) :
    Writes lineFeed (writeFirst lineFeed c) c := by
  unfold writeFirst
  split
  · next hc =>
    obtain ⟨hblank, hcontrol⟩ := hc
    simp only [List.mem_cons, List.not_mem_nil, or_false, not_or] at hcontrol
    have hne : ∀ d, isBlank d = false → c ≠ d := by
      rintro d hd rfl
      rw [hd] at hblank
      exact Bool.false_ne_true hblank
    have he : escaped c = c := by
      rw [escaped, if_neg (hne 't' (by decide)), if_neg (hne 'n' (by decide)),
        if_neg (hne 'r' (by decide)), if_neg (hne 'f' (by decide))]
    have hw : Writes lineFeed ['\\', c] (escaped c) :=
      .escape (hne 'u' (by decide)) (hne 'n' (by decide)) hcontrol.2.1 hcontrol.2.2.2
    rwa [he] at hw
  · exact writes_writeChar lineFeed c

lemma Writes.spells {t : List Char} {c : Char} (h : Writes lineFeed t c)
    (hl : Spells lineFeed '\n') : Spells t c := by
  cases h with
  | plain hb => exact .plain hb
  | escape hu => exact .escape hu
  | lineFeed => exact hl

/-- No line end is written. -/
lemma Writes.mem {t : List Char} {c : Char} (h : Writes lineFeed t c)
    (hl : ∀ d ∈ lineFeed, d ≠ '\r' ∧ d ≠ '\n') : ∀ d ∈ t, d ≠ '\r' ∧ d ≠ '\n' := by
  cases h with
  | plain _ hr hn => simpa using ⟨hr, hn⟩
  | escape _ _ hr hn => simpa using ⟨hr, hn⟩
  | lineFeed => exact hl

/-- What is written for the first character starts with no blank. -/
lemma writeFirst_head (h : IsLineFeed lineFeed) (c : Char) :
    ∃ d t, writeFirst lineFeed c = d :: t ∧ isBlank d = false := by
  obtain ⟨l, rfl⟩ := h.head
  unfold writeFirst
  split
  · exact ⟨'\\', [c], rfl, by decide⟩
  · next hc =>
    unfold writeChar
    split
    · exact ⟨'\\', _, rfl, by decide⟩
    · split
      · exact ⟨'\\', _, rfl, by decide⟩
      · split
        · exact ⟨'\\', _, rfl, by decide⟩
        · split
          · exact ⟨'\\', _, rfl, by decide⟩
          · split
            · exact ⟨'\\', _, rfl, by decide⟩
            · next ht hr hf hl =>
              refine ⟨c, [], rfl, ?_⟩
              simpa [ht, hr, hf, hl] using hc

/-- **A written value stands for that value.** -/
theorem unescape_writeValue (h : IsLineFeed lineFeed) (v : List Char) :
    unescape (writeValue lineFeed v) = v :=
  unescape_spell (fun c => (writes_writeFirst lineFeed c).spells h.spells)
    (fun c => (writes_writeChar lineFeed c).spells h.spells) v

lemma writeValue_mem (h : IsLineFeed lineFeed) (v : List Char) :
    ∀ d ∈ writeValue lineFeed v, d ≠ '\r' ∧ d ≠ '\n' := fun _ hd =>
  forall_mem_spell (fun c => (writes_writeFirst lineFeed c).mem h.clean)
    (fun c => (writes_writeChar lineFeed c).mem h.clean) hd

lemma writeValue_head (h : IsLineFeed lineFeed) (v : List Char) :
    ∀ d, (writeValue lineFeed v).head? = some d → isBlank d = false := by
  intro d hd
  cases v with
  | nil => exact nomatch hd
  | cons c v =>
    obtain ⟨e, t, he, hblank⟩ := writeFirst_head h c
    rw [writeValue, spell, he] at hd
    rwa [← Option.some.inj hd]

/-- No line end is on a written line. -/
lemma writeLine_mem (h : IsLineFeed lineFeed) {n : List Char} (hn : IsName n) (v : List Char) :
    ∀ d ∈ writeLine lineFeed n v, d ≠ '\r' ∧ d ≠ '\n' :=
  hn.clean (writeValue_mem h v)

/-- **A written line gives just the name and the written value.** -/
theorem ofLine_writeLine (h : IsLineFeed lineFeed) {n : List Char} (hn : IsName n)
    (v : List Char) : ofLine (writeLine lineFeed n v) = some ⟨n, writeValue lineFeed v⟩ := by
  refine hn.ofLine (writeValue_head h v) fun hr => ?_
  exact (writeValue_mem h v _ (List.mem_of_getLast? hr)).1 rfl

end ScriptStage.Properties
