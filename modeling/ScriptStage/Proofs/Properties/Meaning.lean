import ScriptStage.Proofs.Properties.Spelling

/-!
# What a value with escapes stands for

The rules for escapes say what each text stands for: a backslash gives a meaning to the character
behind it, `\u` takes four hexadecimal digits that name a character, and a `\u` without them is
malformed and stays as it is written. `ScriptStage.Properties.unescape` follows these rules up to
one point. It lets a plus sign take the place of the first digit, so that a malformed `\u` with a
plus sign and three digits behind it is read as a character.

## Main definitions

* `ScriptStage.Properties.Names` — four hexadecimal digits name a character.
* `ScriptStage.Properties.Means` — a text stands for another by the rules for escapes.
* `ScriptStage.Properties.Signed` — a text in which a plus sign takes the place of a digit.

## Main results

* `ScriptStage.Properties.codePoint?_eq_some_iff` — which four characters are read as one.
* `ScriptStage.Properties.means_iff` — what a text is read as.
* `ScriptStage.Properties.Means.cases_signed` — when this is what the text stands for.
* `ScriptStage.Properties.unescape_means` — both together.
-/

set_option autoImplicit false

namespace ScriptStage.Properties

open Text

/-! ## Digits -/

/-- **The hexadecimal digit of a number**, with letters of either case. -/
def IsHexDigit (c : Char) (n : ℕ) : Prop :=
  "0123456789abcdef".toList[n]? = some c ∨ "0123456789ABCDEF".toList[n]? = some c

/-- **Four hexadecimal digits name a character**: the one with their number. There is none with the
number of a surrogate. -/
def Names (x y z w ch : Char) : Prop :=
  ∃ n₁ n₂ n₃ n₄, IsHexDigit x n₁ ∧ IsHexDigit y n₂ ∧ IsHexDigit z n₃ ∧ IsHexDigit w n₄ ∧
    ch.toNat = ((n₁ * 16 + n₂) * 16 + n₃) * 16 + n₄

/-- The same with a plus sign in the place of a leading zero. -/
def NamesSigned (x y z w ch : Char) : Prop :=
  Names x y z w ch ∨ (x = '+' ∧ Names '0' y z w ch)

instance (c : Char) (n : ℕ) : Decidable (IsHexDigit c n) :=
  inferInstanceAs (Decidable (_ ∨ _))

/-- The digits in base 16 are the hexadecimal ones. -/
lemma digitIn?_eq_some_iff {c : Char} {n : ℕ} : digitIn? 16 c = some n ↔ IsHexDigit c n := by
  constructor
  · intro h
    have hlt : c.toNat < 128 := by
      have hle : c ≤ 'z' := by
        unfold digitIn? at h
        dsimp only at h
        split at h
        · next hd =>
          have hd : c ≤ '9' := by simpa [isDigit] using (Bool.and_eq_true_iff.1 hd).2
          exact Char.le_trans hd (by decide)
        split at h
        · next hc => exact hc.2
        split at h
        · next hc => exact Char.le_trans hc.2 (by decide)
        · simp at h
      exact Nat.lt_of_le_of_lt hle (by decide)
    have hall : ∀ m : Fin 128, ∀ n ∈ digitIn? 16 (Char.ofNat m), IsHexDigit (Char.ofNat m) n := by
      decide +kernel
    have hc := hall ⟨c.toNat, hlt⟩ n
    rw [Char.ofNat_toNat] at hc
    exact hc h
  · have lower : ∀ n : Fin 16, digitIn? 16 ("0123456789abcdef".toList[n]) = some n.val := by
      decide +kernel
    have upper : ∀ n : Fin 16, digitIn? 16 ("0123456789ABCDEF".toList[n]) = some n.val := by
      decide +kernel
    rintro (h | h)
    · obtain ⟨hn, rfl⟩ := List.getElem?_eq_some_iff.1 h
      exact lower ⟨n, hn⟩
    · obtain ⟨hn, rfl⟩ := List.getElem?_eq_some_iff.1 h
      exact upper ⟨n, hn⟩

lemma scalar?_eq_some_iff {n : ℕ} {ch : Char} : scalar? n = some ch ↔ ch.toNat = n := by
  unfold scalar?
  constructor
  · intro h
    split at h
    · next hn =>
      obtain rfl := Option.some.inj h
      rw [Char.ofNat, dif_pos hn]
      rfl
    · exact nomatch h
  · rintro rfl
    have hvalid : ch.toNat.isValidChar := ch.valid
    rw [if_pos hvalid, Char.ofNat_toNat]

/-- The number that four digits denote names the character with that number. -/
lemma natIn?_bind_eq_some_iff {x y z w ch : Char} :
    (natIn? 16 [x, y, z, w]).bind scalar? = some ch ↔ Names x y z w ch := by
  simp only [natIn?, List.isEmpty_cons, Bool.false_eq_true, if_false, List.foldlM_cons,
    List.foldlM_nil, Option.bind_eq_some_iff, Option.map_eq_some_iff, Option.some.injEq, bind, pure,
    digitIn?_eq_some_iff, scalar?_eq_some_iff, Names]
  constructor
  · rintro ⟨_, ⟨_, ⟨n₁, h₁, rfl⟩, _, ⟨n₂, h₂, rfl⟩, _, ⟨n₃, h₃, rfl⟩, _, ⟨n₄, h₄, rfl⟩, rfl⟩, hch⟩
    exact ⟨n₁, n₂, n₃, n₄, h₁, h₂, h₃, h₄, by omega⟩
  · rintro ⟨n₁, n₂, n₃, n₄, h₁, h₂, h₃, h₄, hch⟩
    exact ⟨_, ⟨_, ⟨n₁, h₁, rfl⟩, _, ⟨n₂, h₂, rfl⟩, _, ⟨n₃, h₃, rfl⟩, _, ⟨n₄, h₄, rfl⟩, rfl⟩,
      by omega⟩

/-- A plus sign is no digit. -/
lemma not_names_plus {y z w c : Char} : ¬ Names '+' y z w c := by
  rintro ⟨n, -, -, -, h, -⟩
  exact nomatch digitIn?_eq_some_iff.2 h

/-- **Which four characters are read as one**: digits that name it, and those in which a plus sign
takes the place of a leading zero. -/
theorem codePoint?_eq_some_iff {x y z w ch : Char} :
    codePoint? x y z w = some ch ↔ NamesSigned x y z w ch := by
  have hzero : ∀ ds, natIn? 16 ('0' :: y :: ds) = natIn? 16 (y :: ds) := fun _ => rfl
  rw [codePoint?, NamesSigned]
  split
  · next hx =>
    subst hx
    rw [← hzero, natIn?_bind_eq_some_iff]
    simp [not_names_plus]
  · next hx =>
    rw [natIn?_bind_eq_some_iff]
    simp [hx]

/-! ## Escapes -/

/-- What a reader of escapes takes for the number of a character: which four characters name
which one. -/
abbrev Naming := Char → Char → Char → Char → Char → Prop

/-- **A malformed number**: the next four characters, if there are so many, name no character. -/
def Malformed (naming : Naming) (t : List Char) : Prop :=
  ∀ x y z w more ch, t = x :: y :: z :: w :: more → ¬ naming x y z w ch

/-- The characters that stand for control characters behind a backslash. -/
def controls : List (Char × Char) :=
  [('t', '\t'), ('n', '\n'), ('r', '\r'), ('f', '\x0c')]

/-- **A text stands for another** by the rules for escapes, read from left to right. -/
inductive Means (naming : Naming) : List Char → List Char → Prop
  /-- Nothing stands for nothing. -/
  | nil : Means naming [] []
  /-- A character that is no backslash stands for itself. -/
  | plain {c : Char} {t v : List Char} (hc : c ≠ '\\') (ht : Means naming t v) :
    Means naming (c :: t) (c :: v)
  /-- A backslash at the end is kept. -/
  | lone : Means naming ['\\'] ['\\']
  /-- Some letters stand for control characters. -/
  | control {d c : Char} {t v : List Char} (hd : (d, c) ∈ controls) (ht : Means naming t v) :
    Means naming ('\\' :: d :: t) (c :: v)
  /-- A number stands for its character. -/
  | number {x y z w c : Char} {t v : List Char} (hn : naming x y z w c) (ht : Means naming t v) :
    Means naming ('\\' :: 'u' :: x :: y :: z :: w :: t) (c :: v)
  /-- A malformed number is kept, and what follows is read on its own. -/
  | malformed {t v : List Char} (hm : Malformed naming t) (ht : Means naming t v) :
    Means naming ('\\' :: 'u' :: t) ('\\' :: 'u' :: v)
  /-- Every other character stands for itself. -/
  | other {d : Char} {t v : List Char} (hd : d ∉ controls.map Prod.fst) (hu : d ≠ 'u')
      (ht : Means naming t v) : Means naming ('\\' :: d :: t) (d :: v)

/-- **A plus sign takes the place of a digit** in some escape of the text. -/
inductive Signed : List Char → Prop
  /-- The first escape has a plus sign and three digits. -/
  | here {y z w c : Char} {t : List Char} (hn : Names '0' y z w c) :
    Signed ('\\' :: 'u' :: '+' :: y :: z :: w :: t)
  /-- It is behind a character that is no backslash. -/
  | plain {c : Char} {t : List Char} (hc : c ≠ '\\') (ht : Signed t) : Signed (c :: t)
  /-- It is behind an escape with one character. -/
  | escape {d : Char} {t : List Char} (hd : d ≠ 'u') (ht : Signed t) : Signed ('\\' :: d :: t)
  /-- It is behind an escape with a number. -/
  | number {x y z w c : Char} {t : List Char} (hn : Names x y z w c) (ht : Signed t) :
    Signed ('\\' :: 'u' :: x :: y :: z :: w :: t)
  /-- It is behind another malformed number. -/
  | malformed {t : List Char} (hm : Malformed Names t) (ht : Signed t) : Signed ('\\' :: 'u' :: t)

/-- A control character has one letter. -/
lemma escaped_of_mem {d c : Char} (h : (d, c) ∈ controls) : d ≠ 'u' ∧ escaped d = c := by
  have hall : ∀ e ∈ controls, e.1 ≠ 'u' ∧ escaped e.1 = e.2 := by decide
  exact hall (d, c) h

lemma escaped_of_not_mem {d : Char} (h : d ∉ controls.map Prod.fst) : escaped d = d := by
  simp only [controls, List.map_cons, List.map_nil, List.mem_cons, List.not_mem_nil, or_false,
    not_or] at h
  obtain ⟨ht, hn, hr, hf⟩ := h
  rw [escaped, if_neg ht, if_neg hn, if_neg hr, if_neg hf]

section Means

variable {naming : Naming} {t v : List Char}

lemma means_plain {c : Char} (hc : c ≠ '\\') :
    Means naming (c :: t) v ↔ ∃ w, Means naming t w ∧ v = c :: w := by
  constructor
  · intro h
    cases h with
    | plain _ ht => exact ⟨_, ht, rfl⟩
    | lone => exact absurd rfl hc
    | control => exact absurd rfl hc
    | number => exact absurd rfl hc
    | malformed => exact absurd rfl hc
    | other => exact absurd rfl hc
  · rintro ⟨w, hw, rfl⟩
    exact .plain hc hw

/-- An escape with one character stands for that character or for a control character. -/
lemma means_escape {d : Char} (hd : d ≠ 'u') :
    Means naming ('\\' :: d :: t) v ↔ ∃ w, Means naming t w ∧ v = escaped d :: w := by
  constructor
  · intro h
    cases h with
    | plain hc => exact absurd rfl hc
    | control hc ht => exact ⟨_, ht, by rw [(escaped_of_mem hc).2]⟩
    | number => exact absurd rfl hd
    | malformed => exact absurd rfl hd
    | other hc _ ht => exact ⟨_, ht, by rw [escaped_of_not_mem hc]⟩
  · rintro ⟨w, hw, rfl⟩
    by_cases hc : d ∈ controls.map Prod.fst
    · obtain ⟨⟨d, c⟩, hmem, rfl⟩ := List.mem_map.1 hc
      rw [(escaped_of_mem hmem).2]
      exact .control hmem hw
    · rw [escaped_of_not_mem hc]
      exact .other hc hd hw

/-- No letter of a control character introduces a number. -/
lemma not_mem_controls {c : Char} : ('u', c) ∉ controls :=
  fun h => (escaped_of_mem h).1 rfl

/-- A number stands for one of the characters that it names. -/
lemma means_number {x y z w c : Char} (hn : naming x y z w c) :
    Means naming ('\\' :: 'u' :: x :: y :: z :: w :: t) v ↔
      ∃ d u, naming x y z w d ∧ Means naming t u ∧ v = d :: u := by
  constructor
  · intro h
    cases h with
    | plain hc => exact absurd rfl hc
    | control hc => exact absurd hc not_mem_controls
    | number hd ht => exact ⟨_, _, hd, ht, rfl⟩
    | malformed hm => exact absurd hn (hm x y z w t c rfl)
    | other _ hu => exact absurd rfl hu
  · rintro ⟨d, u, hd, hu, rfl⟩
    exact .number hd hu

lemma means_malformed (hm : Malformed naming t) :
    Means naming ('\\' :: 'u' :: t) v ↔ ∃ w, Means naming t w ∧ v = '\\' :: 'u' :: w := by
  constructor
  · intro h
    cases h with
    | plain hc => exact absurd rfl hc
    | control hc => exact absurd hc not_mem_controls
    | number hn => exact absurd hn (hm _ _ _ _ _ _ rfl)
    | malformed _ ht => exact ⟨_, ht, rfl⟩
    | other _ hu => exact absurd rfl hu
  · rintro ⟨w, hw, rfl⟩
    exact .malformed hm hw

/-- **Each text stands for one other at most** if four characters name one at most. -/
theorem Means.unique {v' : List Char} (h : Means naming t v) (h' : Means naming t v')
    (unique : ∀ {x y z w c d}, naming x y z w c → naming x y z w d → c = d) : v = v' := by
  induction h generalizing v' with
  | nil => cases h'; rfl
  | plain hc _ ih =>
    obtain ⟨w, hw, rfl⟩ := (means_plain hc).1 h'
    rw [ih hw]
  | lone =>
    cases h' with
    | plain hc => exact absurd rfl hc
    | lone => rfl
  | control hd _ ih =>
    obtain ⟨hu, he⟩ := escaped_of_mem hd
    obtain ⟨w, hw, rfl⟩ := (means_escape hu).1 h'
    rw [ih hw, he]
  | number hn _ ih =>
    obtain ⟨d, u, hd, hu, rfl⟩ := (means_number hn).1 h'
    rw [ih hu, unique hn hd]
  | malformed hm _ ih =>
    obtain ⟨w, hw, rfl⟩ := (means_malformed hm).1 h'
    rw [ih hw]
  | other hd hu _ ih =>
    obtain ⟨w, hw, rfl⟩ := (means_escape hu).1 h'
    rw [ih hw, escaped_of_not_mem hd]

/-- **Each text stands for another.** -/
theorem exists_means (naming : Naming) (t : List Char) : ∃ v, Means naming t v := by
  -- what is left behind an escape is shorter
  induction hlen : t.length using Nat.strong_induction_on generalizing t with
  | _ n ih =>
    subst hlen
    cases t with
    | nil => exact ⟨[], .nil⟩
    | cons c t =>
      by_cases hc : c = '\\'
      · subst hc
        cases t with
        | nil => exact ⟨_, .lone⟩
        | cons d t =>
          by_cases hd : d = 'u'
          · subst hd
            by_cases hm : Malformed naming t
            · obtain ⟨v, hv⟩ := ih t.length (by simp only [List.length_cons]; omega) t rfl
              exact ⟨_, .malformed hm hv⟩
            · simp only [Malformed, not_forall, not_not] at hm
              obtain ⟨x, y, z, w, more, ch, rfl, hn⟩ := hm
              obtain ⟨v, hv⟩ := ih more.length (by simp only [List.length_cons]; omega) more rfl
              exact ⟨_, .number hn hv⟩
          · obtain ⟨v, hv⟩ := ih t.length (by simp only [List.length_cons]; omega) t rfl
            exact ⟨_, (means_escape hd).2 ⟨v, hv, rfl⟩⟩
      · obtain ⟨v, hv⟩ := ih t.length (Nat.lt_succ_self _) t rfl
        exact ⟨_, .plain hc hv⟩

end Means

/-! ## Reading -/

lemma NamesSigned.unique {x y z w c d : Char} (h : NamesSigned x y z w c)
    (h' : NamesSigned x y z w d) : c = d :=
  Option.some.inj ((codePoint?_eq_some_iff.2 h).symm.trans (codePoint?_eq_some_iff.2 h'))

lemma Names.unique {x y z w c d : Char} (h : Names x y z w c) (h' : Names x y z w d) : c = d :=
  NamesSigned.unique (.inl h) (.inl h')

/-- No number is read where it is malformed. -/
lemma numbered?_eq_none_iff {t : List Char} :
    numbered? t = none ↔ Malformed NamesSigned t := by
  constructor
  · rintro h x y z w more ch rfl hn
    rw [numbered?, codePoint?_eq_some_iff.2 hn] at h
    exact nomatch h
  · intro hm
    unfold numbered?
    split
    · next x y z w more =>
      refine Option.eq_none_iff_forall_ne_some.2 fun ch hch => ?_
      exact hm x y z w more ch rfl (codePoint?_eq_some_iff.1 hch)
    · rfl

lemma unescape_number {x y z w c : Char} (hn : NamesSigned x y z w c) (t : List Char) :
    unescape ('\\' :: 'u' :: x :: y :: z :: w :: t) = c :: unescape t :=
  (Spells.number (codePoint?_eq_some_iff.2 hn)).unescape_append t

lemma unescape_malformed {t : List Char} (hm : Malformed NamesSigned t) :
    unescape ('\\' :: 'u' :: t) = '\\' :: 'u' :: unescape t := by
  rw [unescape, if_neg (by simp), if_neg (by simp), numbered?_eq_none_iff.2 hm]

/-- **What a text is read as** is what it stands for if a plus sign can take the place of a leading
zero. -/
theorem means_iff {t v : List Char} : Means NamesSigned t v ↔ unescape t = v := by
  have hread : ∀ {t v}, Means NamesSigned t v → unescape t = v := by
    intro t v h
    induction h with
    | nil => rw [unescape]
    | plain hc _ ih => rw [unescape_plain hc, ih]
    | lone => rw [unescape]
    | control hd _ ih =>
      obtain ⟨hu, he⟩ := escaped_of_mem hd
      rw [unescape_escape hu, ih, he]
    | number hn _ ih => rw [unescape_number hn, ih]
    | malformed hm _ ih => rw [unescape_malformed hm, ih]
    | other hd hu _ ih => rw [unescape_escape hu, ih, escaped_of_not_mem hd]
  refine ⟨hread, ?_⟩
  rintro rfl
  obtain ⟨v, hv⟩ := exists_means NamesSigned t
  rwa [hread hv]

/-! ## The plus sign -/

lemma signed_plain {c : Char} {t : List Char} (hc : c ≠ '\\') : Signed (c :: t) ↔ Signed t := by
  refine ⟨fun h => ?_, .plain hc⟩
  cases h with
  | plain _ ht => exact ht
  | here => exact absurd rfl hc
  | escape => exact absurd rfl hc
  | number => exact absurd rfl hc
  | malformed => exact absurd rfl hc

lemma signed_escape {d : Char} {t : List Char} (hd : d ≠ 'u') :
    Signed ('\\' :: d :: t) ↔ Signed t := by
  refine ⟨fun h => ?_, .escape hd⟩
  cases h with
  | plain hc => exact absurd rfl hc
  | escape _ ht => exact ht
  | here => exact absurd rfl hd
  | number => exact absurd rfl hd
  | malformed => exact absurd rfl hd

lemma signed_number {x y z w c : Char} {t : List Char} (hn : Names x y z w c) :
    Signed ('\\' :: 'u' :: x :: y :: z :: w :: t) ↔ Signed t := by
  refine ⟨fun h => ?_, .number hn⟩
  cases h with
  | plain hc => exact absurd rfl hc
  | escape hd => exact absurd rfl hd
  | here => exact absurd hn not_names_plus
  | number _ ht => exact ht
  | malformed hm => exact absurd hn (hm x y z w t c rfl)

lemma signed_malformed {t : List Char} (hm : Malformed NamesSigned t) :
    Signed ('\\' :: 'u' :: t) ↔ Signed t := by
  have hdigits : Malformed Names t := fun x y z w more ch ht hn =>
    hm x y z w more ch ht (.inl hn)
  refine ⟨fun h => ?_, .malformed hdigits⟩
  cases h with
  | plain hc => exact absurd rfl hc
  | escape hd => exact absurd rfl hd
  | here hn => exact absurd (.inr ⟨rfl, hn⟩) (hm _ _ _ _ _ _ rfl)
  | number hn => exact absurd hn (hdigits _ _ _ _ _ _ rfl)
  | malformed _ ht => exact ht

/-- **What is read compared to what the text stands for**: the same, or something shorter if a plus
sign takes the place of a digit. -/
def Compared (t v : List Char) : Prop :=
  (unescape t = v ∧ ¬ Signed t) ∨ ((unescape t).length < v.length ∧ Signed t)

namespace Compared

variable {t t' v : List Char}

lemma length_le (h : Compared t v) : (unescape t).length ≤ v.length := by
  rcases h with ⟨h, -⟩ | ⟨h, -⟩
  · rw [h]
  · exact Nat.le_of_lt h

/-- What stands in front of the rest makes no difference if it is read as it is meant. -/
lemma append (front : List Char) (hread : unescape t' = front ++ unescape t)
    (hsigned : Signed t' ↔ Signed t) (h : Compared t v) : Compared t' (front ++ v) := by
  rcases h with ⟨heq, hs⟩ | ⟨hlt, hs⟩
  · exact .inl ⟨by rw [hread, heq], hsigned.not.2 hs⟩
  · refine .inr ⟨?_, hsigned.2 hs⟩
    rw [hread, List.length_append, List.length_append]
    omega

/-- A malformed number with a plus sign is read as one character, where six are meant. -/
lemma here {y z w c : Char} (hn : Names '0' y z w c) (h : Compared ('+' :: y :: z :: w :: t) v) :
    Compared ('\\' :: 'u' :: '+' :: y :: z :: w :: t) ('\\' :: 'u' :: v) := by
  have hdigit : ∀ {d n}, IsHexDigit d n → d ≠ '\\' := by
    rintro d n hd rfl
    exact nomatch digitIn?_eq_some_iff.2 hd
  obtain ⟨-, n₂, n₃, n₄, -, hy, hz, hw, -⟩ := id hn
  have hrest := h.length_le
  rw [unescape_plain (by decide), unescape_plain (hdigit hy), unescape_plain (hdigit hz),
    unescape_plain (hdigit hw)] at hrest
  refine .inr ⟨?_, .here hn⟩
  rw [unescape_number (.inr ⟨rfl, hn⟩)]
  simp only [List.length_cons] at hrest ⊢
  omega

end Compared

/-- **A text is read as what it stands for** unless a plus sign takes the place of a digit in it. -/
theorem Means.cases_signed {t v : List Char} (h : Means Names t v) : Compared t v := by
  induction h with
  | nil => exact .inl ⟨by rw [unescape], fun h => nomatch h⟩
  | plain hc _ ih => exact ih.append [_] (unescape_plain hc _) (signed_plain hc)
  | lone =>
    refine .inl ⟨by rw [unescape], fun h => ?_⟩
    cases h with
    | plain hc => exact hc rfl
  | control hd _ ih =>
    obtain ⟨hu, rfl⟩ := escaped_of_mem hd
    exact ih.append [_] (unescape_escape hu _) (signed_escape hu)
  | number hn _ ih =>
    exact ih.append [_] (unescape_number (.inl hn) _) (signed_number hn)
  | @malformed t v hm _ ih =>
    by_cases hsigned : Malformed NamesSigned t
    · exact ih.append ['\\', 'u'] (unescape_malformed hsigned)
        (signed_malformed hsigned)
    · simp only [Malformed, not_forall, not_not] at hsigned
      obtain ⟨x, y, z, w, more, ch, rfl, hn⟩ := hsigned
      obtain ⟨rfl, hdigits⟩ := hn.resolve_left (hm x y z w more ch rfl)
      exact ih.here hdigits
  | other hd hu _ ih =>
    have hread := fun t => unescape_escape hu t
    rw [escaped_of_not_mem hd] at hread
    exact ih.append [_] (hread _) (signed_escape hu)

/-- **What a value with escapes is read as.** By the rules for escapes each text stands for just one
other. It is read as what it stands for if a plus sign is taken for a leading zero, and so

* it is read as what it stands for by the rules themselves if and only if in no escape of it a plus
  sign and three digits take the place of the four digits.

**Proof sketch.** Both readings go through the text in the same steps, up to a malformed number with
a plus sign and three digits. There one character is read where at least six are meant, and nothing
that follows is read as more than it stands for, so that the two texts differ in length. -/
theorem unescape_means (t : List Char) :
    (∃! v, Means Names t v) ∧ (∀ v, Means NamesSigned t v ↔ unescape t = v) ∧
      (Means Names t (unescape t) ↔ ¬ Signed t) := by
  obtain ⟨v, hv⟩ := exists_means Names t
  have hunique : ∀ u, Means Names t u → u = v := fun u hu => hu.unique hv Names.unique
  refine ⟨⟨v, hv, hunique⟩, fun v => means_iff, fun h => ?_, fun hs => ?_⟩
  · rcases h.cases_signed with ⟨-, hs⟩ | ⟨hlt, -⟩
    · exact hs
    · exact absurd hlt (Nat.lt_irrefl _)
  · rcases hv.cases_signed with ⟨heq, -⟩ | ⟨-, hs'⟩
    · rwa [heq]
    · exact absurd hs' hs

/-- A malformed number with a plus sign is read as a character. -/
theorem unescape_means_plus :
    unescape "\\u+041".toList = "A".toList ∧
      Means Names "\\u+041".toList "\\u+041".toList ∧
      ¬ Means Names "\\u+041".toList (unescape "\\u+041".toList) := by
  have hdigits : Names '0' '0' '4' '1' 'A' := ⟨0, 0, 4, 1, by decide⟩
  have hread : unescape ['\\', 'u', '+', '0', '4', '1'] = ['A'] := by
    rw [unescape_number (.inr ⟨rfl, hdigits⟩), unescape]
  have hmalformed : Malformed Names ['+', '0', '4', '1'] := by
    rintro x y z w more ch h hn
    obtain rfl : '+' = x := (List.cons.inj h).1
    exact not_names_plus hn
  have hmeant : Means Names ['\\', 'u', '+', '0', '4', '1'] ['\\', 'u', '+', '0', '4', '1'] :=
    .malformed hmalformed <| .plain (by decide) <| .plain (by decide) <| .plain (by decide) <|
      .plain (by decide) .nil
  refine ⟨hread, hmeant, fun h => ?_⟩
  have hletter : Means Names ['\\', 'u', '+', '0', '4', '1'] ['A'] := hread ▸ h
  have hsame := hletter.unique hmeant Names.unique
  exact absurd (congrArg List.length hsame) (by decide)

end ScriptStage.Properties
