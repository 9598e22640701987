import ScriptStage.Proofs.Text.Lines
import ScriptStage.Properties.Escape
import ScriptStage.Properties.Line

/-!
# Spelled values

A value is spelled character by character, some of them with escapes. Whatever the spelling,
`ScriptStage.Properties.unescape` reads the value back, and
`ScriptStage.Properties.ofLine` finds name and spelling on a line.

## Main definitions

* `ScriptStage.Properties.Spells` — what spells a character.
* `ScriptStage.Properties.spell` — a value spelled character by character.
* `ScriptStage.Properties.IsName` — what can stand before a separator.

## Main results

* `ScriptStage.Properties.unescape_spell` — the value of a spelling.
* `ScriptStage.Properties.IsName.ofLine_append`, `IsName.ofLine` — the entry on a line with a name.
-/

set_option autoImplicit false

namespace ScriptStage.Properties

open Text

/-! ## Values -/

/-- **What spells a character**: itself, an escape with one character, or one with a number. -/
inductive Spells : List Char → Char → Prop
  | plain {c : Char} (h : c ≠ '\\') : Spells [c] c
  | escape {d : Char} (h : d ≠ 'u') : Spells ['\\', d] (escaped d)
  | number {x y z w c : Char} (h : codePoint? x y z w = some c) : Spells ['\\', 'u', x, y, z, w] c

/-- A spelled character is read as that character, whatever follows. -/
lemma Spells.unescape_append {t : List Char} {c : Char} (h : Spells t c) (more : List Char) :
    unescape (t ++ more) = c :: unescape more := by
  cases h with
  | plain hc =>
    cases more with
    | nil => simp [unescape]
    | cons d more =>
      show unescape (c :: d :: more) = _
      rw [unescape, if_pos hc]
  | @escape d hd =>
    show unescape ('\\' :: d :: more) = _
    rw [unescape, if_neg (by simp), if_pos hd]
  | @number x y z w c hn =>
    show unescape ('\\' :: 'u' :: x :: y :: z :: w :: more) = _
    have hm : numbered? (x :: y :: z :: w :: more) = some c := hn
    rw [unescape, if_neg (by simp), if_neg (by simp), hm]
    rfl

lemma unescape_plain {c : Char} (hc : c ≠ '\\') (t : List Char) :
    unescape (c :: t) = c :: unescape t :=
  (Spells.plain hc).unescape_append t

lemma unescape_escape {d : Char} (hu : d ≠ 'u') (t : List Char) :
    unescape ('\\' :: d :: t) = escaped d :: unescape t :=
  (Spells.escape hu).unescape_append t

/-- Only a doubled backslash stands for a backslash. -/
lemma escaped_eq_backslash {d : Char} : escaped d = '\\' ↔ d = '\\' := by
  unfold escaped
  split
  · next h => subst h; decide
  · split
    · next h => subst h; decide
    · split
      · next h => subst h; decide
      · split
        · next h => subst h; decide
        · rfl

/-- No escape with one character stands for `n`. -/
lemma escaped_ne_n (d : Char) : escaped d ≠ 'n' := by
  unfold escaped
  split
  · decide
  · split
    · decide
    · next hn =>
      split
      · decide
      · split
        · decide
        · exact hn

/-- A value spelled character by character, the first one in its own way. -/
def spell (first rest : Char → List Char) : List Char → List Char
  | [] => []
  | c :: v => first c ++ v.flatMap rest

variable {first rest : Char → List Char}

lemma unescape_flatMap (hr : ∀ c, Spells (rest c) c) (v more : List Char) :
    unescape (v.flatMap rest ++ more) = v ++ unescape more := by
  induction v with
  | nil => rfl
  | cons c v ih =>
    rw [List.flatMap_cons, List.append_assoc, (hr c).unescape_append, ih]
    rfl

/-- **A spelling stands for its value.** -/
theorem unescape_spell (hf : ∀ c, Spells (first c) c) (hr : ∀ c, Spells (rest c) c)
    (v : List Char) : unescape (spell first rest v) = v := by
  cases v with
  | nil => simp [spell, unescape]
  | cons c v =>
    have hv := unescape_flatMap hr v []
    rw [List.append_nil, unescape, List.append_nil] at hv
    rw [spell, (hf c).unescape_append, hv]

/-- What holds of the characters in the spellings of characters holds of those in a spelling. -/
lemma forall_mem_spell {p : Char → Prop} (hf : ∀ c, ∀ d ∈ first c, p d)
    (hr : ∀ c, ∀ d ∈ rest c, p d) {v : List Char} {d : Char} (hd : d ∈ spell first rest v) :
    p d := by
  cases v with
  | nil => exact nomatch hd
  | cons c v =>
    rcases List.mem_append.1 hd with hd | hd
    · exact hf c d hd
    · obtain ⟨c', -, hd⟩ := List.mem_flatMap.1 hd
      exact hr c' d hd

/-! ## Lines -/

/-- A value stays as it is if there are no blanks at its start and no carriage returns at its
end. -/
lemma valueOf_eq {t : List Char} (start : ∀ c, t.head? = some c → isBlank c = false)
    (stop : t.getLast? ≠ some '\r') : valueOf t = t := by
  rw [valueOf, trimStart_of_head start]
  refine dropEndWhile_of_last fun c hc => ?_
  simpa using fun hr : c = '\r' => stop (hr ▸ hc)

/-- **What can stand before a separator** and is read as it stands. -/
structure IsName (n : List Char) : Prop where
  ne_nil : n ≠ []
  trimmed : trim n = n
  plain : ∀ c ∈ n, isSeparator c = false ∧ c ≠ '\\' ∧ c ≠ '\r' ∧ c ≠ '\n'
  noComment : isComment n = false

namespace IsName

variable {n : List Char}

instance : Decidable (IsName n) :=
  decidable_of_iff
    (n ≠ [] ∧ trim n = n ∧
      (n.all fun c => !isSeparator c && c != '\\' && c != '\r' && c != '\n') = true ∧
      isComment n = false)
    ⟨fun ⟨h₁, h₂, h₃, h₄⟩ => ⟨h₁, h₂, by simpa [and_assoc] using h₃, h₄⟩,
      fun ⟨h₁, h₂, h₃, h₄⟩ => ⟨h₁, h₂, by simpa [and_assoc] using h₃, h₄⟩⟩

lemma trimStart_append (h : IsName n) (t : List Char) : trimStart (n ++ t) = n ++ t := by
  refine trimStart_of_head fun c hc => head_of_trim h.trimmed ?_
  obtain ⟨d, n', rfl⟩ := List.exists_cons_of_ne_nil h.ne_nil
  exact hc

lemma isComment_append (h : IsName n) (t : List Char) : isComment (n ++ t) = false := by
  have hn := h.noComment
  cases n with
  | nil => exact absurd rfl h.ne_nil
  | cons c n => exact hn

/-- No line end is on a line with a name if there is none behind the separator. -/
lemma clean (h : IsName n) {t : List Char} (ht : ∀ c ∈ t, c ≠ '\r' ∧ c ≠ '\n') :
    ∀ c ∈ n ++ '=' :: t, c ≠ '\r' ∧ c ≠ '\n' := by
  intro c hc
  rcases List.mem_append.1 hc with hc | hc
  · exact (h.plain c hc).2.2
  · rcases List.mem_cons.1 hc with rfl | hc
    · decide
    · exact ht c hc

/-- The first separator is the one behind the name. -/
lemma splitAtSeparator_name {n : List Char}
    (h : ∀ c ∈ n, isSeparator c = false ∧ c ≠ '\\' ∧ c ≠ '\r' ∧ c ≠ '\n') {s : Char}
    (hs : isSeparator s = true) (t : List Char) :
    splitAtSeparator false (n ++ s :: t) = some (n, t) := by
  induction n with
  | nil => simp [splitAtSeparator, hs]
  | cons c n ih =>
    obtain ⟨hc, hb, -⟩ := h c List.mem_cons_self
    have ih := ih fun d hd => h d (List.mem_cons_of_mem _ hd)
    simp [splitAtSeparator, hc, hb, ih]

/-- **A line with a name** gives the name and the value behind the separator. -/
theorem ofLine_append (h : IsName n) (t : List Char) :
    Properties.ofLine (n ++ '=' :: t) = some ⟨n, valueOf t⟩ := by
  have hs : splitAtSeparator false (n ++ '=' :: t) = some (n, t) :=
    splitAtSeparator_name h.plain (by decide) t
  simp only [Properties.ofLine, h.trimStart_append, h.isComment_append, hs, h.trimmed]
  simp [h.ne_nil]

/-- **A line with a name and what stands behind the separator** gives just these, if there are no
blanks at the start and no carriage returns at the end. -/
theorem ofLine (h : IsName n) {t : List Char} (start : ∀ c, t.head? = some c → isBlank c = false)
    (stop : t.getLast? ≠ some '\r') : ofLine (n ++ '=' :: t) = some ⟨n, t⟩ := by
  rw [h.ofLine_append, valueOf_eq start stop]

end IsName

end ScriptStage.Properties
