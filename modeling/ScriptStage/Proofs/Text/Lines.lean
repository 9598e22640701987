import Mathlib.Data.List.TakeWhile
import Mathlib.Tactic.Common
import ScriptStage.Text.Blank
import ScriptStage.Text.Lines

/-!
# Texts put together from lines and pieces

`ScriptStage.Text.lines` takes apart what is put together from lines, and
`ScriptStage.Text.cutAt` finds every occurrence of its pair.

## Main results

* `ScriptStage.Text.trimStart_of_head`, `dropEndWhile_of_last` — what is not trimmed.
* `ScriptStage.Text.lines_intercalate` — the lines of lines with line feeds between them.
* `ScriptStage.Text.lines_append_cases` — the first line of a text, whatever its end is.
* `ScriptStage.Text.flatMap_lines_append` — what is made of the lines of a text, cut anywhere.
* `ScriptStage.Text.cutAt_of_not_infix` — a text without the pair is one piece.
* `ScriptStage.Text.cutAt_intercalate` — the pieces of pieces with the pair between them.
* `ScriptStage.Text.not_infix_of_mem_cutAt` — no piece holds the pair.
* `ScriptStage.Text.replacePair_pair`, `replacePair_cons` — one step of a replacement.
* `ScriptStage.Text.replacePair_append` — a replacement in a text that is cut somewhere.
-/

set_option autoImplicit false

namespace ScriptStage.Text

/-! ## Ends of texts -/

/-- A text stays whole if its first character is not dropped. -/
lemma dropWhile_of_head {p : Char → Bool} {t : List Char}
    (h : ∀ c, t.head? = some c → p c = false) : t.dropWhile p = t := by
  cases t with
  | nil => rfl
  | cons c t => rw [List.dropWhile_cons_of_neg (by rw [h c rfl]; simp)]

/-- A text that starts with no blank has nothing to trim there. -/
lemma trimStart_of_head {t : List Char} (h : ∀ c, t.head? = some c → isBlank c = false) :
    trimStart t = t :=
  dropWhile_of_head h

/-- A text stays whole if its last character is not dropped. -/
lemma dropEndWhile_of_last {p : Char → Bool} {t : List Char}
    (h : ∀ c, t.getLast? = some c → p c = false) : dropEndWhile p t = t := by
  have hr : t.reverse.dropWhile p = t.reverse :=
    dropWhile_of_head fun c hc => h c (by rwa [List.head?_reverse] at hc)
  rw [dropEndWhile, hr, List.reverse_reverse]

/-- A text that is its own trimmed form starts with no blank. -/
lemma head_of_trim {t : List Char} (h : trim t = t) {c : Char} (hc : t.head? = some c) :
    isBlank c = false := by
  cases t with
  | nil => exact nomatch hc
  | cons d t =>
    obtain rfl := Option.some.inj hc
    by_contra hd
    have hd : isBlank d = true := by simpa using hd
    have hstart : (trimStart (d :: t)).length ≤ t.length := by
      rw [trimStart, List.dropWhile_cons_of_pos hd]
      exact (List.dropWhile_sublist _).length_le
    have hend : (trim (d :: t)).length ≤ (trimStart (d :: t)).length := by
      rw [trim, trimEnd, dropEndWhile, List.length_reverse]
      exact Nat.le_trans (List.dropWhile_sublist _).length_le (Nat.le_of_eq List.length_reverse)
    rw [h, List.length_cons] at hend
    omega

/-- A text with nothing but blanks has nothing behind the first ones. -/
lemma trimStart_of_trim {t : List Char} (h : trim t = []) : trimStart t = [] := by
  have hblank : ∀ c ∈ trimStart t, isBlank c = true := by
    rw [trim, trimEnd, dropEndWhile, List.reverse_eq_nil_iff, List.dropWhile_eq_nil_iff] at h
    exact fun c hc => h c (List.mem_reverse.2 hc)
  have hhead := List.head?_dropWhile_not isBlank t
  rw [← trimStart] at hhead
  cases hs : trimStart t with
  | nil => rfl
  | cons c s =>
    rw [hs] at hblank hhead
    have hc : isBlank c = false := hhead
    rw [hblank c List.mem_cons_self] at hc
    exact nomatch hc

/-- A blank at the end stays where it is if only the start is trimmed, unless all is blank. -/
lemma trimStart_append_blank {c : Char} (hc : isBlank c = true) (t : List Char) :
    trimStart (t ++ [c]) = trimStart t ++ [c] ∧ trimStart t ≠ [] ∨
      trimStart (t ++ [c]) = [] ∧ trimStart t = [] := by
  unfold trimStart
  rw [List.dropWhile_append]
  split
  · next h => exact .inr ⟨List.dropWhile_cons_of_pos hc, by simpa using h⟩
  · next h => exact .inl ⟨rfl, by simpa using h⟩

/-- A blank at the end is trimmed. -/
lemma trim_append_blank {c : Char} (hc : isBlank c = true) (t : List Char) :
    trim (t ++ [c]) = trim t := by
  have hend : ∀ u : List Char, trimEnd (u ++ [c]) = trimEnd u := by
    intro u
    rw [trimEnd, dropEndWhile, List.reverse_append, List.reverse_singleton, List.singleton_append,
      List.dropWhile_cons_of_pos hc]
    rfl
  rcases trimStart_append_blank hc t with ⟨h, -⟩ | ⟨h, h'⟩
  · rw [trim, h, hend, trim]
  · rw [trim, h, trim, h']

/-- Blanks that were dropped from the end would be trimmed anyway. -/
lemma trim_dropEndWhile {p : Char → Bool} (hp : ∀ c, p c = true → isBlank c = true)
    (t : List Char) : trim (dropEndWhile p (trimStart t)) = trim t := by
  have hprefix : dropEndWhile p (trimStart t) <+: trimStart t := by
    have h := List.reverse_prefix.2 (List.dropWhile_suffix p (l := (trimStart t).reverse))
    rwa [List.reverse_reverse] at h
  have hstart : trimStart (dropEndWhile p (trimStart t)) = dropEndWhile p (trimStart t) := by
    refine trimStart_of_head fun c hc => ?_
    obtain ⟨dropped, hs⟩ := hprefix
    have hhead := List.head?_dropWhile_not isBlank t
    rw [← trimStart, ← hs, List.head?_append, hc] at hhead
    exact hhead
  have hend : ∀ r : List Char, (r.dropWhile p).dropWhile isBlank = r.dropWhile isBlank := by
    intro r
    induction r with
    | nil => rfl
    | cons c r ih =>
      cases h : p c with
      | false => rw [List.dropWhile_cons_of_neg (by simp [h])]
      | true => rw [List.dropWhile_cons_of_pos h, ih, List.dropWhile_cons_of_pos (hp c h)]
  rw [trim, hstart, trim, trimEnd, trimEnd, dropEndWhile, dropEndWhile, dropEndWhile,
    List.reverse_reverse, hend]

/-! ## Texts put together -/

/-- A text put together from pieces and a separator has no other characters. -/
lemma forall_mem_intercalate {p : Char → Prop} {sep : List Char} {ts : List (List Char)}
    (hsep : ∀ c ∈ sep, p c) (hts : ∀ t ∈ ts, ∀ c ∈ t, p c) : ∀ c ∈ sep.intercalate ts, p c := by
  induction ts with
  | nil => exact fun c hc => nomatch hc
  | cons t ts ih =>
    have ht := hts t List.mem_cons_self
    have ih := ih fun u hu => hts u (List.mem_cons_of_mem _ hu)
    cases ts with
    | nil => simpa using ht
    | cons u ts =>
      rw [List.intercalate_cons_cons]
      simp only [List.forall_mem_append]
      exact ⟨⟨ht, hsep⟩, ih⟩

/-! ## Lines -/

/-- A character that neither is a line end nor starts one belongs to the next line. -/
lemma lines_cons {c : Char} {t : List Char} (hc : c ≠ '\n')
    (hr : c = '\r' → t.head? ≠ some '\n') :
    lines (c :: t) =
      match lines t with
      | [] => [[c]]
      | line :: more => (c :: line) :: more := by
  rw [lines.eq_def]
  split
  · next h => exact absurd h (List.cons_ne_nil _ _)
  · next h => exact absurd (List.cons.inj h).1 hc
  · next h =>
    obtain ⟨rfl, rfl⟩ := List.cons.inj h
    exact absurd rfl (hr rfl)
  · next h =>
    obtain ⟨rfl, rfl⟩ := List.cons.inj h
    rfl

/-- A line that does not end with a carriage return is what stands before its line feed. -/
lemma lines_append {l : List Char} (t : List Char) (hl : '\n' ∉ l)
    (hr : l.getLast? ≠ some '\r') : lines (l ++ '\n' :: t) = l :: lines t := by
  induction l with
  | nil => simp [lines]
  | cons c l ih =>
    have hc : c ≠ '\n' := fun h => hl (h ▸ List.mem_cons_self)
    have hl' : '\n' ∉ l := fun h => hl (List.mem_cons_of_mem _ h)
    rw [List.cons_append, lines_cons hc]
    · cases l with
      | nil => simp [lines]
      | cons d l =>
        have hr' : (d :: l).getLast? ≠ some '\r' := by rwa [List.getLast?_cons_cons] at hr
        rw [ih hl' hr']
    · rintro rfl
      cases l with
      | nil => exact absurd rfl hr
      | cons d l => simpa using fun h : d = '\n' => hl' (h ▸ List.mem_cons_self)

/-- A carriage return in front of a line feed belongs to the line end. -/
lemma lines_append_return {l : List Char} (t : List Char) (hl : '\n' ∉ l) :
    lines (l ++ '\r' :: '\n' :: t) = l :: lines t := by
  induction l with
  | nil => simp [lines]
  | cons c l ih =>
    have hc : c ≠ '\n' := fun h => hl (h ▸ List.mem_cons_self)
    have hl' : '\n' ∉ l := fun h => hl (List.mem_cons_of_mem _ h)
    rw [List.cons_append, lines_cons hc, ih hl']
    rintro rfl
    cases l with
    | nil => simp
    | cons d l => simpa using fun h : d = '\n' => hl' (h ▸ List.mem_cons_self)

/-- **The first line of a text** is what stands before the first line feed, perhaps without a
carriage return. -/
lemma lines_append_cases {k l : List Char} (t : List Char) (hkl : '\n' ∉ k ++ l)
    (hk : k.getLast? ≠ some '\r') :
    ∃ l', lines (k ++ l ++ '\n' :: t) = (k ++ l') :: lines t ∧ (l = l' ∨ l = l' ++ ['\r']) := by
  by_cases hr : l.getLast? = some '\r'
  · obtain ⟨l', rfl⟩ := List.getLast?_eq_some_iff.1 hr
    refine ⟨l', ?_, .inr rfl⟩
    rw [← List.append_assoc, List.append_assoc]
    refine lines_append_return t fun h => hkl ?_
    rw [← List.append_assoc]
    exact List.mem_append_left _ h
  · refine ⟨l, lines_append t hkl ?_, .inl rfl⟩
    rw [List.getLast?_append]
    cases h : l.getLast? with
    | none => exact hk
    | some c => exact fun he => hr (h.trans he)

/-- A text without a line feed is one line. -/
lemma lines_of_not_mem {l : List Char} (hne : l ≠ []) (hl : '\n' ∉ l) : lines l = [l] := by
  induction l with
  | nil => exact absurd rfl hne
  | cons c l ih =>
    have hc : c ≠ '\n' := fun h => hl (h ▸ List.mem_cons_self)
    have hl' : '\n' ∉ l := fun h => hl (List.mem_cons_of_mem _ h)
    have hr : c = '\r' → l.head? ≠ some '\n' := fun _ h => hl' (List.mem_of_mem_head? h)
    rw [lines_cons hc hr]
    cases l with
    | nil => simp [lines]
    | cons d l => rw [ih (List.cons_ne_nil _ _) hl']

/-- **Lines with line feeds between them** are the lines of the text. -/
theorem lines_intercalate {ls : List (List Char)}
    (h : ∀ l ∈ ls, l ≠ [] ∧ '\n' ∉ l ∧ l.getLast? ≠ some '\r') :
    lines (['\n'].intercalate ls) = ls := by
  induction ls with
  | nil => simp [lines]
  | cons l ls ih =>
    obtain ⟨hne, hl, hr⟩ := h l List.mem_cons_self
    cases ls with
    | nil => simpa using lines_of_not_mem hne hl
    | cons l' ls =>
      have ih := ih fun x hx => h x (List.mem_cons_of_mem _ hx)
      rw [List.intercalate_cons_cons, List.append_assoc, List.singleton_append,
        lines_append _ hl hr, ih]

/-- **A text line by line**: what holds of each single line, and of a text with a line in front if
it holds of that text, holds of all texts. -/
theorem induction_lines {motive : List Char → Prop} (last : ∀ l, '\n' ∉ l → motive l)
    (more : ∀ l t, '\n' ∉ l → motive t → motive (l ++ '\n' :: t)) (t : List Char) : motive t := by
  induction hlen : t.length using Nat.strong_induction_on generalizing t with
  | _ n ih =>
    subst hlen
    by_cases ht : '\n' ∈ t
    · obtain ⟨l, s, rfl, hl⟩ := List.eq_append_cons_of_mem ht
      refine more l s hl (ih s.length ?_ s rfl)
      rw [List.length_append, List.length_cons]
      omega
    · exact last t ht

section FlatMap

variable {α : Type} {f : List Char → List α}

/-- What is made of a single line. A text without characters has no line, but nothing is made of an
empty one. -/
lemma flatMap_lines_of_not_mem (empty : f [] = []) {l : List Char} (hl : '\n' ∉ l) :
    (lines l).flatMap f = f l := by
  cases l with
  | nil => simp [lines, empty]
  | cons c l => simp [lines_of_not_mem (List.cons_ne_nil c l) hl]

/-- **What is made of the lines of a text** is made of what stands before a line feed and of what
stands behind it, if a carriage return at the end of a line makes no difference. -/
theorem flatMap_lines_append (empty : f [] = []) (ended : ∀ l, f (l ++ ['\r']) = f l)
    (s t : List Char) :
    (lines (s ++ '\n' :: t)).flatMap f = (lines s).flatMap f ++ (lines t).flatMap f := by
  have line : ∀ {l} t, '\n' ∉ l → (lines (l ++ '\n' :: t)).flatMap f =
      f l ++ (lines t).flatMap f := by
    intro l t hl
    obtain ⟨l', he, hend⟩ := lines_append_cases (k := []) (l := l) t hl (by simp)
    rw [List.nil_append, List.nil_append] at he
    rw [he, List.flatMap_cons]
    rcases hend with rfl | rfl
    · rfl
    · rw [ended]
  induction s using induction_lines with
  | last l hl => rw [line t hl, flatMap_lines_of_not_mem empty hl]
  | more l s hl ih => rw [List.append_assoc, List.cons_append, line _ hl, ih, line s hl,
      List.append_assoc]

end FlatMap

/-! ## Pieces -/

variable {a b : Char}

/-- A character that does not start the pair belongs to the first piece. -/
lemma cutAt_cons {c : Char} {t : List Char} (h : ¬ (c = a ∧ t.head? = some b)) :
    cutAt a b (c :: t) = consHead c (cutAt a b t) := by
  cases t with
  | nil => rfl
  | cons d t => rw [cutAt, if_neg fun hcd => h ⟨hcd.1, congrArg some hcd.2⟩]

lemma cutAt_cons_of_ne {c : Char} (hc : c ≠ a) (t : List Char) :
    cutAt a b (c :: t) = consHead c (cutAt a b t) :=
  cutAt_cons fun h => hc h.1

/-- A text without the pair is one piece. -/
lemma cutAt_of_not_infix {t : List Char} (h : ¬ [a, b] <:+: t) : cutAt a b t = [t] := by
  induction t with
  | nil => rfl
  | cons c t ih =>
    have ht : ¬ [a, b] <:+: t := fun hi => h (hi.trans (List.suffix_cons c t).isInfix)
    cases t with
    | nil => rfl
    | cons d t =>
      have hcd : ¬ (c = a ∧ d = b) := by
        rintro ⟨rfl, rfl⟩
        exact h ⟨[], t, rfl⟩
      rw [cutAt, if_neg hcd, ih ht]
      rfl

/-- A text up to the pair is the first piece. -/
lemma cutAt_append (hab : a ≠ b) {p : List Char} (hp : ¬ [a, b] <:+: p) (t : List Char) :
    cutAt a b (p ++ a :: b :: t) = p :: cutAt a b t := by
  induction p with
  | nil => rw [List.nil_append, cutAt, if_pos ⟨rfl, rfl⟩]
  | cons c p ih =>
    have hp' : ¬ [a, b] <:+: p := fun h => hp (h.trans (List.suffix_cons c p).isInfix)
    rw [List.cons_append, cutAt_cons, ih hp']
    · rfl
    · rintro ⟨rfl, hhead⟩
      cases p with
      | nil => exact hab (Option.some.inj hhead)
      | cons d p =>
        obtain rfl := Option.some.inj hhead
        exact hp ⟨[], p, rfl⟩

/-- **Pieces with the pair between them** are the pieces of the text. -/
theorem cutAt_intercalate (hab : a ≠ b) {ps : List (List Char)} (hne : ps ≠ [])
    (h : ∀ p ∈ ps, ¬ [a, b] <:+: p) : cutAt a b ([a, b].intercalate ps) = ps := by
  induction ps with
  | nil => exact absurd rfl hne
  | cons p ps ih =>
    have hp := h p List.mem_cons_self
    cases ps with
    | nil =>
      rw [List.intercalate_singleton]
      exact cutAt_of_not_infix hp
    | cons q ps =>
      have ih := ih (List.cons_ne_nil _ _) fun x hx => h x (List.mem_cons_of_mem _ hx)
      rw [List.intercalate_cons_cons, List.append_assoc]
      exact (cutAt_append hab hp _).trans (congrArg _ ih)

/-- The first piece stands at the start of the text. -/
lemma cutAt_head (a b : Char) (t : List Char) : ∃ p ps, cutAt a b t = p :: ps ∧ p <+: t := by
  fun_induction cutAt a b t with
  | case1 => exact ⟨[], [], rfl, List.nil_prefix⟩
  | case2 c => exact ⟨[c], [], rfl, List.prefix_rfl⟩
  | case3 => exact ⟨[], _, rfl, List.nil_prefix⟩
  | case4 c d rest _ ih =>
    obtain ⟨p, ps, he, hp⟩ := ih
    exact ⟨c :: p, ps, by rw [he]; rfl, (List.prefix_cons_inj c).2 hp⟩

/-- Each piece stands somewhere in the text. -/
lemma infix_of_mem_cutAt {t p : List Char} (hp : p ∈ cutAt a b t) : p <:+: t := by
  induction t using cutAt.induct a b generalizing p with
  | case1 =>
    obtain rfl := List.mem_singleton.1 hp
    exact List.infix_rfl
  | case2 c =>
    obtain rfl := List.mem_singleton.1 hp
    exact List.infix_rfl
  | case3 d e rest h ih =>
    rw [cutAt, if_pos h] at hp
    rcases List.mem_cons.1 hp with rfl | hp
    · exact List.nil_infix
    · exact List.infix_cons (List.infix_cons (ih hp))
  | case4 d e rest h ih =>
    rw [cutAt, if_neg h] at hp
    obtain ⟨q, qs, he, hq⟩ := cutAt_head a b (e :: rest)
    rw [he] at hp ih
    rcases List.mem_cons.1 hp with rfl | hp
    · exact ((List.prefix_cons_inj d).2 hq).isInfix
    · exact List.infix_cons (ih (List.mem_cons_of_mem _ hp))

/-- The characters of the pieces are characters of the text. -/
lemma mem_of_mem_cutAt {t p : List Char} (hp : p ∈ cutAt a b t) {c : Char} (hc : c ∈ p) :
    c ∈ t :=
  (infix_of_mem_cutAt hp).subset hc

/-- No piece holds the pair. -/
lemma not_infix_of_mem_cutAt {t p : List Char} (hp : p ∈ cutAt a b t) : ¬ [a, b] <:+: p := by
  induction t using cutAt.induct a b generalizing p with
  | case1 =>
    obtain rfl := List.mem_singleton.1 hp
    simp
  | case2 c =>
    obtain rfl := List.mem_singleton.1 hp
    exact fun h => absurd h.length_le (by simp)
  | case3 c d rest h ih =>
    rw [cutAt, if_pos h] at hp
    rcases List.mem_cons.1 hp with rfl | hp
    · simp
    · exact ih hp
  | case4 c d rest hne ih =>
    rw [cutAt, if_neg hne] at hp
    obtain ⟨q, qs, he, hq⟩ := cutAt_head a b (d :: rest)
    rw [he] at hp ih
    rcases List.mem_cons.1 hp with rfl | hp
    · intro hi
      rcases List.infix_cons_iff.1 hi with hi | hi
      · obtain ⟨rfl, hb⟩ := List.cons_prefix_cons.1 hi
        obtain ⟨q', rfl⟩ : ∃ q', q = b :: q' := by
          obtain ⟨q', hq'⟩ := hb
          exact ⟨q', hq'.symm⟩
        exact hne ⟨rfl, (List.cons_prefix_cons.1 hq).1.symm⟩
      · exact ih List.mem_cons_self hi
    · exact ih (List.mem_cons_of_mem _ hp)

/-- A character that does not end the pair stays in the last piece. -/
lemma cutAt_append_single {c : Char} (hc : c ≠ b) (t : List Char) :
    ∃ ps p, cutAt a b t = ps ++ [p] ∧ cutAt a b (t ++ [c]) = ps ++ [p ++ [c]] := by
  induction t using cutAt.induct a b with
  | case1 => exact ⟨[], [], rfl, rfl⟩
  | case2 d =>
    have hd : ¬ (d = a ∧ [c].head? = some b) := fun h => hc (Option.some.inj h.2)
    refine ⟨[], [d], rfl, ?_⟩
    rw [List.singleton_append, cutAt_cons hd]
    rfl
  | case3 d e rest h ih =>
    obtain ⟨ps, p, ht, hc⟩ := ih
    refine ⟨[] :: ps, p, ?_, ?_⟩
    · rw [cutAt, if_pos h, ht]
      rfl
    · rw [List.cons_append, List.cons_append, cutAt, if_pos h, hc]
      rfl
  | case4 d e rest h ih =>
    obtain ⟨ps, p, ht, hc⟩ := ih
    rw [cutAt, if_neg h, List.cons_append, List.cons_append, cutAt, if_neg h, ← List.cons_append,
      ht, hc]
    cases ps with
    | nil => exact ⟨[], d :: p, rfl, rfl⟩
    | cons q ps => exact ⟨(d :: q) :: ps, p, rfl, rfl⟩

/-! ## Replacements -/

variable {replacement : List Char}

@[simp]
lemma replacePair_nil : replacePair a b replacement [] = [] := rfl

/-- The pair at the start of a text is replaced. -/
lemma replacePair_pair (t : List Char) :
    replacePair a b replacement (a :: b :: t) = replacement ++ replacePair a b replacement t := by
  rw [replacePair, cutAt, if_pos ⟨rfl, rfl⟩, List.intercalate_cons_of_ne_nil (cutAt_ne_nil a b t),
    List.nil_append]
  rfl

/-- A character that does not start the pair stays. -/
lemma replacePair_cons {c : Char} {t : List Char} (h : ¬ (c = a ∧ t.head? = some b)) :
    replacePair a b replacement (c :: t) = c :: replacePair a b replacement t := by
  obtain ⟨p, ps, hcut, -⟩ := cutAt_head a b t
  rw [replacePair, replacePair, cutAt_cons h, hcut, consHead]
  cases ps with
  | nil => rw [List.intercalate_singleton, List.intercalate_singleton]
  | cons q ps => rw [List.intercalate_cons_cons, List.intercalate_cons_cons]; rfl

lemma replacePair_cons_of_ne {c : Char} (hc : c ≠ a) (t : List Char) :
    replacePair a b replacement (c :: t) = c :: replacePair a b replacement t :=
  replacePair_cons fun h => hc h.1

/-- A text is replaced up to a character that does not end the pair, and from there on. -/
lemma replacePair_append {c : Char} (hc : c ≠ b) (s t : List Char) :
    replacePair a b replacement (s ++ c :: t) =
      replacePair a b replacement s ++ replacePair a b replacement (c :: t) := by
  induction s using cutAt.induct a b with
  | case1 => rfl
  | case2 d =>
    have hd : ¬ (d = a ∧ (c :: t).head? = some b) := fun h => hc (Option.some.inj h.2)
    rw [List.singleton_append, replacePair_cons hd]
    rfl
  | case3 d e rest h ih =>
    obtain ⟨rfl, rfl⟩ := h
    rw [List.cons_append, List.cons_append, replacePair_pair, replacePair_pair, ih,
      List.append_assoc]
  | case4 d e rest h ih =>
    have hd : ∀ t, ¬ (d = a ∧ (e :: t).head? = some b) := fun t hd =>
      h ⟨hd.1, Option.some.inj hd.2⟩
    rw [List.cons_append] at ih
    rw [List.cons_append, List.cons_append, replacePair_cons (hd _), ih, replacePair_cons (hd _)]
    rfl

end ScriptStage.Text
