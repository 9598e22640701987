import ScriptStage.Proofs.Source.Written

/-!
# Scripts that an inline text can stand for

An inline text is decoded by two replacements, one after the other. The second one makes no new pair
for the first one, so no decoded script holds a backslash followed by `n`. Every other script is
what its written form stands for. The quotes around the written form can be left out, except for a
script of quotes only: half of them would be taken for the quotes around it.

## Main definitions

* `ScriptStage.Source.escape` — a script as it is written, without the quotes around it.
* `ScriptStage.Source.IsQuotes` — a script of quotes only.

## Main results

* `ScriptStage.Source.not_hasBreak_decodeChars` — no decoded script holds the pair.
* `ScriptStage.Source.decodeChars_escapeChars_iff` — when the outer quotes can be left out.
* `ScriptStage.Source.decode_expresses` — the scripts that an inline text can stand for.
-/

set_option autoImplicit false

namespace ScriptStage

namespace Properties

open Text

/-! ## Where the pair can be -/

/-- A character that is not in the pair keeps it on one of its sides. -/
lemma hasBreak_append_cons {r : Char} (hb : r ≠ '\\') (hn : r ≠ 'n') (s t : List Char) :
    HasBreak (s ++ r :: t) ↔ HasBreak s ∨ HasBreak t := by
  induction s with
  | nil =>
    rw [List.nil_append, hasBreak_cons_of_ne hb, or_iff_right]
    decide
  | cons c s ih =>
    have hhead : (s ++ r :: t).head? = some 'n' ↔ s.head? = some 'n' := by
      cases s with
      | nil => simp [hn]
      | cons d s => rfl
    rw [List.cons_append, hasBreak_cons, hhead, ih, hasBreak_cons, or_assoc]

/-- Texts with such a character between them hold the pair if and only if one of them does. -/
lemma hasBreak_intercalate {r : Char} (hb : r ≠ '\\') (hn : r ≠ 'n') (ts : List (List Char)) :
    HasBreak ([r].intercalate ts) ↔ ∃ t ∈ ts, HasBreak t := by
  induction ts with
  | nil => simp [HasBreak]
  | cons t ts ih =>
    cases ts with
    | nil => simp
    | cons u ts =>
      rw [List.intercalate_cons_cons, List.append_assoc, List.singleton_append,
        hasBreak_append_cons hb hn, ih]
      simp

/-- What is replaced by such a character leaves the pair where it was, or takes it away. -/
lemma hasBreak_replacePair {a b r : Char} (hb : r ≠ '\\') (hn : r ≠ 'n') (t : List Char) :
    HasBreak (replacePair a b [r] t) ↔ ∃ p ∈ cutAt a b t, HasBreak p :=
  hasBreak_intercalate hb hn _

end Properties

namespace Source

open Text Properties

/-! ## What is decoded -/

/-- **No decoded script holds a backslash followed by `n`.** The first replacement takes all such
pairs away, and the second one only takes quotes out. -/
theorem not_hasBreak_decodeChars (t : List Char) : ¬ HasBreak (decodeChars t) := by
  intro h
  rw [decodeChars, hasBreak_replacePair (by decide) (by decide)] at h
  obtain ⟨p, hp, hbreak⟩ := h
  have hwhole : HasBreak (replacePair '\\' 'n' ['\n'] (unquote t)) :=
    hbreak.trans (infix_of_mem_cutAt hp)
  rw [hasBreak_replacePair (by decide) (by decide)] at hwhole
  obtain ⟨q, hq, hbreak⟩ := hwhole
  exact not_infix_of_mem_cutAt hq hbreak

/-! ## Written scripts without quotes around them -/

/-- A script as it is written, without the quotes around it: its quotes are doubled, and each line
feed is backslash and `n`. -/
def escapeChars (t : List Char) : List Char :=
  t.flatMap writeScriptChar

/-- **A script of quotes only**, at least one. -/
def IsQuotes (t : List Char) : Prop :=
  t ≠ [] ∧ ∀ c ∈ t, c = '"'

instance (t : List Char) : Decidable (IsQuotes t) :=
  decidable_of_iff (t ≠ [] ∧ t.all (· = '"') = true) (by simp [IsQuotes])

variable {t : List Char}

lemma escapeChars_cons (c : Char) (t : List Char) :
    escapeChars (c :: t) = writeScriptChar c ++ escapeChars t :=
  List.flatMap_cons

lemma escapeChars_append (s t : List Char) :
    escapeChars (s ++ t) = escapeChars s ++ escapeChars t :=
  List.flatMap_append

/-- What is written starts with a quote if and only if the script does. -/
lemma head_escapeChars : (escapeChars t).head? = some '"' ↔ t.head? = some '"' := by
  cases t with
  | nil => rfl
  | cons c t =>
    rw [escapeChars_cons, writeScriptChar]
    split
    · next h => simp [h]
    · split
      · next h => simp [h]
      · simp

/-- What is written ends with a quote if and only if the script does. -/
lemma getLast_escapeChars : (escapeChars t).getLast? = some '"' ↔ t.getLast? = some '"' := by
  rcases List.eq_nil_or_concat t with rfl | ⟨s, c, rfl⟩
  · rfl
  · have hc : escapeChars [c] = writeScriptChar c := List.flatMap_singleton ..
    rw [List.concat_eq_append, escapeChars_append, hc, writeScriptChar]
    split
    · next h => simp [h]
    · split
      · next h => simp [h]
      · simp

/-- Nothing is stripped unless the script starts and ends with a quote. -/
lemma unquote_escapeChars (h : ¬ (t.head? = some '"' ∧ t.getLast? = some '"')) :
    unquote (escapeChars t) = escapeChars t :=
  if_neg fun hs => h ⟨head_escapeChars.1 hs.2.1, getLast_escapeChars.1 hs.2.2⟩

/-- Of a script that starts and ends with a quote, the first and the last quote that are written are
stripped. -/
lemma unquote_escapeChars_quotes (t : List Char) :
    unquote (escapeChars ('"' :: t ++ ['"'])) = '"' :: escapeChars t ++ ['"'] := by
  have hsplit : escapeChars ('"' :: t ++ ['"']) =
      '"' :: ('"' :: escapeChars t ++ ['"']) ++ ['"'] := by
    simp [escapeChars, writeScriptChar]
  rw [hsplit]
  exact unquote_quotes _

/-- Doubled quotes with one more quote behind them. -/
lemma replacePair_doubleQuotes_append (t : List Char) :
    replacePair '"' '"' ['"'] (doubleQuotes t ++ ['"']) = t ++ ['"'] := by
  induction t with
  | nil => rfl
  | cons c t ih =>
    rw [doubleQuotes, List.flatMap_cons, ← doubleQuotes]
    split
    · next hc =>
      subst hc
      rw [List.append_assoc, List.cons_append, List.singleton_append, replacePair_pair, ih]
      rfl
    · next hc =>
      rw [List.append_assoc, List.singleton_append, replacePair_cons_of_ne hc, ih, List.cons_append]

/-- **Doubled quotes between single ones** come back if and only if not all is quotes.

**Proof sketch.** Pairs of quotes are found from the left. Up to the first other character each pair
is the second half of a quote and the first half of the next one, and the quote in front of that
character stays single. Without such a character the last quote is taken into a pair. -/
lemma replacePair_quotes_iff (t : List Char) :
    replacePair '"' '"' ['"'] ('"' :: doubleQuotes t ++ ['"']) = '"' :: t ++ ['"'] ↔
      ¬ ∀ c ∈ t, c = '"' := by
  induction t with
  | nil => exact iff_of_false (by decide) (not_not.2 (List.forall_mem_nil _))
  | cons c t ih =>
    rw [doubleQuotes, List.flatMap_cons, ← doubleQuotes, List.forall_mem_cons]
    by_cases hc : c = '"'
    · subst hc
      rw [if_pos rfl]
      simp only [List.cons_append, List.nil_append, replacePair_pair, List.cons.injEq, true_and]
      simpa using ih
    · have hhead : ¬ ('"' = '"' ∧ (c :: (doubleQuotes t ++ ['"'])).head? = some '"') :=
        fun h => hc (Option.some.inj h.2)
      rw [if_neg hc]
      simp only [List.cons_append, List.nil_append, replacePair_cons hhead,
        replacePair_cons_of_ne hc, replacePair_doubleQuotes_append]
      simp [hc]

/-- The line ends between two quotes come back. -/
lemma replacePair_lineEnds_quotes (h : ¬ HasBreak t) :
    replacePair '\\' 'n' ['\n'] ('"' :: escapeChars t ++ ['"']) =
      '"' :: doubleQuotes t ++ ['"'] := by
  rw [List.cons_append, replacePair_cons_of_ne (by decide), replacePair_append (by decide),
    escapeChars, replacePair_lineEnds h]
  rfl

/-- A script that starts and ends with a quote is a single one, or has one on each side. -/
lemma eq_quotes_of_ends (hhead : t.head? = some '"') (hlast : t.getLast? = some '"') :
    t = ['"'] ∨ ∃ s, t = '"' :: s ++ ['"'] := by
  obtain ⟨u, rfl⟩ := List.head?_eq_some_iff.1 hhead
  rcases List.eq_nil_or_concat u with rfl | ⟨s, c, rfl⟩
  · exact .inl rfl
  · rw [List.concat_eq_append, ← List.cons_append, List.getLast?_append] at hlast
    obtain rfl : c = '"' := by simpa using hlast
    exact .inr ⟨s, by rw [List.concat_eq_append, List.cons_append]⟩

/-- **The quotes around a written script can be left out** if and only if it is not one of quotes
only.

**Proof sketch.** Only of a script that starts and ends with a quote is something stripped, and
nothing is left of a single quote. Otherwise the script is between two quotes. The halves of these
that are stripped leave a quote on each side of what is doubled, which `replacePair_quotes_iff` is
about. -/
theorem decodeChars_escapeChars_iff (h : ¬ HasBreak t) :
    decodeChars (escapeChars t) = t ↔ ¬ IsQuotes t := by
  by_cases hends : t.head? = some '"' ∧ t.getLast? = some '"'
  · rcases eq_quotes_of_ends hends.1 hends.2 with rfl | ⟨s, rfl⟩
    · decide
    · have hs : ¬ HasBreak s := fun hs => h (hs.trans ⟨['"'], ['"'], by simp⟩)
      have hquotes : IsQuotes ('"' :: s ++ ['"']) ↔ ∀ c ∈ s, c = '"' := by
        simp [IsQuotes, or_imp]
      rw [decodeChars, unquote_escapeChars_quotes, replacePair_lineEnds_quotes hs,
        replacePair_quotes_iff, hquotes]
  · have hquotes : ¬ IsQuotes t := by
      rintro ⟨hne, hall⟩
      refine hends ⟨?_, ?_⟩
      · rw [List.head?_eq_some_head hne, hall _ (List.head_mem hne)]
      · rw [List.getLast?_eq_some_getLast hne, hall _ (List.getLast_mem hne)]
    rw [decodeChars, unquote_escapeChars hends, escapeChars, replacePair_lineEnds h,
      replacePair_doubleQuotes]
    exact iff_of_true rfl hquotes

/-! ## Scripts and texts -/

/-- A script as it is written, without the quotes around it. -/
def escape (s : String) : String :=
  onChars escapeChars s

/-- A script as it is written, with the quotes around it. -/
def quote (s : String) : String :=
  "\"" ++ escape s ++ "\""

lemma toList_escape (s : String) : (escape s).toList = escapeChars s.toList :=
  String.toList_ofList

lemma toList_quote (s : String) : (quote s).toList = writeScript s.toList := by
  rw [quote, String.toList_append, String.toList_append, toList_escape]
  rfl

lemma decode_eq_iff (r s : String) : decode r = s ↔ decodeChars r.toList = s.toList := by
  rw [decode, onChars, ← String.toList_inj, String.toList_ofList]

/-- **The scripts that an inline text can stand for** are those without a backslash followed by `n`.
The written form of each of them stands for it with quotes around it, and also without, unless the
script is one of quotes only. -/
theorem decode_expresses (s : String) :
    ((∃ r, decode r = s) ↔ ¬ HasBreak s.toList) ∧
    (¬ HasBreak s.toList →
      decode (quote s) = s ∧ (decode (escape s) = s ↔ ¬ IsQuotes s.toList)) := by
  have hquote : ¬ HasBreak s.toList → decode (quote s) = s := by
    intro h
    rw [decode_eq_iff, toList_quote, decodeChars_writeScript h]
  refine ⟨⟨?_, fun h => ⟨quote s, hquote h⟩⟩, fun h => ⟨hquote h, ?_⟩⟩
  · rintro ⟨r, hr⟩
    rw [← (decode_eq_iff r s).1 hr]
    exact not_hasBreak_decodeChars r.toList
  · rw [decode_eq_iff, toList_escape]
    exact decodeChars_escapeChars_iff h

/-- A script of two lines that starts with two quotes and ends with one, a script of three quotes,
and a script that no text stands for. -/
theorem decode_expresses_quotes :
    (quote "\"\"a\n\"" = "\"\"\"\"\"a\\n\"\"\"" ∧ decode (quote "\"\"a\n\"") = "\"\"a\n\"" ∧
      decode (escape "\"\"a\n\"") = "\"\"a\n\"") ∧
    (decode (quote "\"\"\"") = "\"\"\"" ∧ decode (escape "\"\"\"") ≠ "\"\"\"") ∧
    ¬ ∃ r, decode r = "a\\nb" := by
  obtain ⟨-, hlines⟩ := decode_expresses "\"\"a\n\""
  obtain ⟨hlinesQuote, hlinesEscape⟩ := hlines (by decide +kernel)
  obtain ⟨-, hquotes⟩ := decode_expresses "\"\"\""
  obtain ⟨hquotesQuote, hquotesEscape⟩ := hquotes (by decide +kernel)
  obtain ⟨hnone, -⟩ := decode_expresses "a\\nb"
  refine ⟨⟨by decide +kernel, hlinesQuote, hlinesEscape.2 (by decide +kernel)⟩, ⟨hquotesQuote, ?_⟩,
    fun hr => hnone.1 hr (by decide +kernel)⟩
  exact fun h => hquotesEscape.1 h (by decide +kernel)

end Source

end ScriptStage
