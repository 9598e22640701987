import ScriptStage.Proofs.Properties.Written
import ScriptStage.Properties.Inline

/-!
# Backslashes that count as line ends

Inside another value a backslash followed by `n` counts as a line end, also where the backslash is
the second one of a doubled backslash. This file says when a written text holds that pair, and what
becomes of the pieces.

## Main definitions

* `ScriptStage.Properties.HasBreak` — a text with a backslash followed by `n`.
* `ScriptStage.Properties.Tame` — a text in which only a doubled backslash can make such a pair.

## Main results

* `ScriptStage.Properties.Tame.hasBreak_unescape` — a tame text holds the pair if and only if the
  value that it stands for does.
* `ScriptStage.Properties.Tame.cutAt`, `Tame.not_hasBreak_value` — the pieces of a tame text are
  tame, and no entry on one of them has a value that holds the pair.
* `ScriptStage.Properties.tame_writeLine`, `hasBreak_writeLine` — written lines are tame, and hold
  the pair if and only if their values do.
-/

set_option autoImplicit false

namespace ScriptStage.Properties

open Text

/-- **A backslash followed by `n`** is somewhere in the text. -/
def HasBreak (t : List Char) : Prop :=
  ['\\', 'n'] <:+: t

instance (t : List Char) : Decidable (HasBreak t) :=
  inferInstanceAs (Decidable (_ <:+: _))

lemma hasBreak_cons {c : Char} {t : List Char} :
    HasBreak (c :: t) ↔ (c = '\\' ∧ t.head? = some 'n') ∨ HasBreak t := by
  have hp : ['\\', 'n'] <+: c :: t ↔ c = '\\' ∧ t.head? = some 'n' := by
    rw [List.cons_prefix_cons]
    refine and_congr eq_comm ?_
    cases t with
    | nil => simp
    | cons d t => simp [List.cons_prefix_cons, eq_comm]
  rw [HasBreak, List.infix_cons_iff, hp]
  rfl

lemma hasBreak_cons_of_ne {c : Char} {t : List Char} (hc : c ≠ '\\') :
    HasBreak (c :: t) ↔ HasBreak t := by
  rw [hasBreak_cons, or_iff_right fun h => hc h.1]

/-- **A tame text**: of its escapes only one has a number, that of the line feed, and none is a
backslash followed by `n`. A backslash may be left at its end. -/
inductive Tame : List Char → Prop
  | nil : Tame []
  | stop : Tame ['\\']
  | plain {c : Char} {t : List Char} (hc : c ≠ '\\') (ht : Tame t) : Tame (c :: t)
  | escape {d : Char} {t : List Char} (hu : d ≠ 'u') (hn : d ≠ 'n') (ht : Tame t) :
    Tame ('\\' :: d :: t)
  | lineFeed {t : List Char} (ht : Tame t) :
    Tame ('\\' :: 'u' :: '0' :: '0' :: '0' :: 'A' :: t)

namespace Tame

variable {t : List Char}

lemma of_cons {c : Char} (h : Tame (c :: t)) (hc : c ≠ '\\') : Tame t := by
  cases h with
  | stop => exact absurd rfl hc
  | plain _ ht => exact ht
  | escape => exact absurd rfl hc
  | lineFeed => exact absurd rfl hc

/-! ## What a tame text stands for -/

/-- The value starts with `n` only if the text does. -/
lemma head_unescape (h : Tame t) : (unescape t).head? = some 'n' ↔ t.head? = some 'n' := by
  cases h with
  | nil => rw [unescape]
  | stop => rw [unescape]
  | plain hc => rw [unescape_plain hc]; rfl
  | @escape d _ hu =>
    rw [unescape_escape hu]
    refine iff_of_false (fun h => escaped_ne_n d (Option.some.inj h)) (by simp)
  | lineFeed => rw [unescape_lineFeed]; simp

/-- **A tame text holds the pair if and only if its value does.**

**Proof sketch.** The pair cannot lie within an escape, so it starts at the end of one: that of a
doubled backslash, which an `n` follows in the text and in the value. -/
theorem hasBreak_unescape (h : Tame t) : HasBreak (unescape t) ↔ HasBreak t := by
  induction h with
  | nil => rw [unescape]
  | stop => rw [unescape]
  | plain hc _ ih => rw [unescape_plain hc, hasBreak_cons_of_ne hc, hasBreak_cons_of_ne hc, ih]
  | @escape d t hu hn ht ih =>
    rw [unescape_escape hu, hasBreak_cons, hasBreak_cons, hasBreak_cons, escaped_eq_backslash,
      ht.head_unescape, ih]
    simp [hn]
  | lineFeed _ ih =>
    rw [unescape_lineFeed, hasBreak_cons_of_ne (by decide), ih, hasBreak_cons]
    simp [hasBreak_cons]

/-! ## Pieces of a tame text -/

/-- An escape stays in one piece, except for a doubled backslash in front of an `n`. -/
lemma cutAt_escape {d : Char} (hn : d ≠ 'n') (h : ¬ (d = '\\' ∧ t.head? = some 'n')) :
    Text.cutAt '\\' 'n' ('\\' :: d :: t) =
      consHead '\\' (consHead d (Text.cutAt '\\' 'n' t)) := by
  have hd : ¬ ('\\' = '\\' ∧ (d :: t).head? = some 'n') := fun he => hn (Option.some.inj he.2)
  rw [cutAt_cons hd, cutAt_cons h]

/-- The pieces of a tame text are tame: a doubled backslash that is cut leaves its first half at the
end of a piece. -/
theorem cutAt (h : Tame t) : ∀ p ∈ Text.cutAt '\\' 'n' t, Tame p := by
  induction h with
  | nil => simpa [Text.cutAt] using nil
  | stop => simpa [Text.cutAt] using stop
  | @plain c t hc ht ih =>
    obtain ⟨p, ps, he, -⟩ := cutAt_head '\\' 'n' t
    rw [cutAt_cons_of_ne hc, he]
    rw [he] at ih
    simp only [consHead, List.forall_mem_cons] at ih ⊢
    exact ⟨plain hc ih.1, ih.2⟩
  | @escape d t hu hn ht ih =>
    by_cases hcut : d = '\\' ∧ t.head? = some 'n'
    · obtain ⟨rfl, hhead⟩ := hcut
      obtain ⟨t, rfl⟩ := List.head?_eq_some_iff.1 hhead
      obtain ⟨p, ps, he, -⟩ := cutAt_head '\\' 'n' t
      have hcut : Text.cutAt '\\' 'n' ('\\' :: '\\' :: 'n' :: t) = ['\\'] :: p :: ps := by
        rw [Text.cutAt, if_neg (by decide), Text.cutAt, if_pos ⟨rfl, rfl⟩, he]
        rfl
      rw [cutAt_cons_of_ne (by decide), he] at ih
      rw [hcut]
      simp only [consHead, List.forall_mem_cons] at ih ⊢
      exact ⟨stop, ih.1.of_cons (by decide), ih.2⟩
    · obtain ⟨p, ps, he, -⟩ := cutAt_head '\\' 'n' t
      rw [cutAt_escape hn hcut, he]
      rw [he] at ih
      simp only [consHead, List.forall_mem_cons] at ih ⊢
      exact ⟨escape hu hn ih.1, ih.2⟩
  | @lineFeed t ht ih =>
    obtain ⟨p, ps, he, -⟩ := cutAt_head '\\' 'n' t
    rw [he] at ih
    rw [Text.cutAt, if_neg (by decide)]
    repeat rw [cutAt_cons_of_ne (by decide)]
    rw [he]
    simp only [consHead, List.forall_mem_cons] at ih ⊢
    exact ⟨lineFeed ih.1, ih.2⟩

/-! ## Entries on a piece -/

/-- Without the blanks in front a tame text is tame. -/
lemma trimStart (h : Tame t) : Tame (Text.trimStart t) := by
  induction h with
  | nil => exact nil
  | @plain c t hc ht ih =>
    by_cases hblank : isBlank c = true
    · rwa [Text.trimStart, List.dropWhile_cons_of_pos hblank]
    · rw [Text.trimStart, List.dropWhile_cons_of_neg hblank]
      exact plain hc ht
  | stop => exact stop
  | escape hu hn ht => exact escape hu hn ht
  | lineFeed ht => exact lineFeed ht

/-- A cut at the first separator is there, or behind the first character. -/
lemma splitAtSeparator_cons {escaped : Bool} {c : Char} {k v : List Char}
    (h : Properties.splitAtSeparator escaped (c :: t) = some (k, v)) :
    ((!escaped && isSeparator c) = true ∧ v = t) ∨
      ∃ k', Properties.splitAtSeparator (!escaped && c = '\\') t = some (k', v) := by
  unfold Properties.splitAtSeparator at h
  split at h
  · next hc => exact .inl ⟨hc, ((Prod.mk.inj (Option.some.inj h)).2).symm⟩
  · obtain ⟨⟨k', v'⟩, hr, he⟩ := Option.map_eq_some_iff.1 h
    obtain ⟨-, rfl⟩ := Prod.mk.inj he
    exact .inr ⟨k', hr⟩

/-- A cut is behind a character that is neither a separator nor a backslash. -/
lemma splitAtSeparator_plain {c : Char} {k v : List Char} (hc : isSeparator c = false)
    (hb : c ≠ '\\') (h : Properties.splitAtSeparator false (c :: t) = some (k, v)) :
    ∃ k', Properties.splitAtSeparator false t = some (k', v) := by
  obtain ⟨k', h⟩ := (splitAtSeparator_cons h).resolve_left fun h => by simp [hc] at h
  exact ⟨k', by simpa [hb] using h⟩

/-- What stands behind the first separator of a tame text is tame: no separator lies within an
escape. -/
lemma splitAtSeparator (h : Tame t) {k v : List Char}
    (hs : Properties.splitAtSeparator false t = some (k, v)) : Tame v := by
  induction h generalizing k with
  | nil => exact nomatch hs
  | stop => exact nomatch hs
  | plain hc ht ih =>
    rcases splitAtSeparator_cons hs with ⟨-, rfl⟩ | ⟨k', hs⟩
    · exact ht
    · exact ih (by simpa [hc] using hs)
  | escape hu hn ht ih =>
    obtain ⟨k', hs⟩ := (splitAtSeparator_cons hs).resolve_left fun h => by simp [isSeparator] at h
    obtain ⟨k', hs⟩ := (splitAtSeparator_cons hs).resolve_left fun h => by simp at h
    exact ih (by simpa using hs)
  | lineFeed ht ih =>
    obtain ⟨k', hs⟩ := (splitAtSeparator_cons hs).resolve_left fun h => by simp [isSeparator] at h
    obtain ⟨k', hs⟩ := (splitAtSeparator_cons hs).resolve_left fun h => by simp at h
    obtain ⟨k', hs⟩ := splitAtSeparator_plain (c := '0') (by decide) (by decide) (by simpa using hs)
    obtain ⟨k', hs⟩ := splitAtSeparator_plain (by decide) (by decide) hs
    obtain ⟨k', hs⟩ := splitAtSeparator_plain (by decide) (by decide) hs
    obtain ⟨k', hs⟩ := splitAtSeparator_plain (by decide) (by decide) hs
    exact ih hs

/-- **No entry on a tame text without the pair has a value that holds the pair.** -/
theorem not_hasBreak_value (h : Tame t) (hr : '\r' ∉ t) (hb : ¬ HasBreak t) {e : Entry}
    (he : ofLine t = some e) : ¬ HasBreak (unescape e.value) := by
  simp only [ofLine] at he
  split at he
  · cases he
  split at he
  · cases he
  next k v hs =>
  split at he
  · cases he
  obtain rfl := Option.some.inj he
  obtain ⟨c, -, hsplit⟩ := splitAtSeparator_append hs
  have hsuffix : Text.trimStart v <:+ t := by
    have h₁ : Text.trimStart v <:+ v := List.dropWhile_suffix _
    have h₂ : v <:+ Text.trimStart t := hsplit ▸ ⟨k ++ [c], by simp⟩
    exact h₁.trans (h₂.trans (List.dropWhile_suffix _))
  have hvalue : Properties.valueOf v = Text.trimStart v := by
    refine dropEndWhile_of_last fun d hd => ?_
    simpa using fun hd' : d = '\r' => hr (hsuffix.subset (hd' ▸ List.mem_of_getLast? hd))
  have htame : Tame (Text.trimStart v) := (h.trimStart.splitAtSeparator hs).trimStart
  rw [hvalue, htame.hasBreak_unescape]
  exact fun hv => hb (hv.trans hsuffix.isInfix)

end Tame

/-! ## Written lines -/

/-- What is written for a character keeps a tame text tame. -/
lemma Writes.tame {s t : List Char} {c : Char} (h : Writes numberedLineFeed s c) (ht : Tame t) :
    Tame (s ++ t) := by
  cases h with
  | plain hb => exact .plain hb ht
  | escape hu hn => exact .escape hu hn ht
  | lineFeed => exact .lineFeed ht

lemma tame_writeValue (v : List Char) : Tame (writeValue numberedLineFeed v) := by
  have hrest : ∀ v : List Char, Tame (v.flatMap (writeChar numberedLineFeed)) := by
    intro v
    induction v with
    | nil => exact .nil
    | cons c v ih => exact (writes_writeChar numberedLineFeed c).tame ih
  cases v with
  | nil => exact .nil
  | cons c v => exact (writes_writeFirst numberedLineFeed c).tame (hrest v)

/-- A text without backslashes can stand in front of a tame text. -/
lemma Tame.append {n t : List Char} (hb : ∀ c ∈ n, c ≠ '\\') (ht : Tame t) : Tame (n ++ t) := by
  induction n with
  | nil => exact ht
  | cons c n ih =>
    exact .plain (hb c List.mem_cons_self) (ih fun d hd => hb d (List.mem_cons_of_mem _ hd))

/-- The pair is behind a text without backslashes. -/
lemma hasBreak_append {n t : List Char} (hb : ∀ c ∈ n, c ≠ '\\') :
    HasBreak (n ++ t) ↔ HasBreak t := by
  induction n with
  | nil => rfl
  | cons c n ih =>
    rw [List.cons_append, hasBreak_cons_of_ne (hb c List.mem_cons_self),
      ih fun d hd => hb d (List.mem_cons_of_mem _ hd)]

/-- A line with a name holds the pair if and only if it does so behind the separator. -/
lemma hasBreak_line {n t : List Char} (hn : IsName n) :
    HasBreak (n ++ '=' :: t) ↔ HasBreak t := by
  rw [hasBreak_append fun c hc => (hn.plain c hc).2.1, hasBreak_cons_of_ne (by decide)]

/-- **Written lines are tame.** -/
theorem tame_writeLine {n : List Char} (hn : IsName n) (v : List Char) :
    Tame (writeLine numberedLineFeed n v) := by
  have hvalue : Tame ('=' :: writeValue numberedLineFeed v) :=
    .plain (by decide) (tame_writeValue v)
  exact hvalue.append fun c hc => (hn.plain c hc).2.1

/-- **A written line holds the pair if and only if its value does.** -/
theorem hasBreak_writeLine {n : List Char} (hn : IsName n) (v : List Char) :
    HasBreak (writeLine numberedLineFeed n v) ↔ HasBreak v := by
  rw [writeLine, hasBreak_line hn, ← (tame_writeValue v).hasBreak_unescape,
    unescape_writeValue isLineFeed_numbered]

end ScriptStage.Properties
