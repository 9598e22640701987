import Mathlib.Algebra.Group.Nat.Even
import Mathlib.Data.List.Basic
import Mathlib.Data.Nat.Find
import ScriptStage.Proofs.Text.Lines
import ScriptStage.Properties.Line

/-!
# What a line of a properties text gives

A separator counts if the number of backslashes directly in front of it is even, since a backslash
escapes the next character and so another backslash. `ScriptStage.Properties.splitAtSeparator` goes
through a line with a single flag. This file shows that the flag is the parity of that number, and
from it what a line gives, said by places in the line alone.

## Main definitions

* `ScriptStage.Properties.IsWhite` — the characters with the Unicode property `White_Space`.
* `ScriptStage.Properties.Stripped`, `StrippedEnd` — a text without certain characters at its start
  and at its end.
* `ScriptStage.Properties.SeparatorAt`, `FirstSeparator` — the places where a line is cut.
* `ScriptStage.Properties.LineGives` — what a line gives by the rules.

## Main results

* `ScriptStage.Properties.splitAtSeparator_eq_some_iff` — where a scan that has come to some place
  goes on to cut the line.
* `ScriptStage.Properties.lineGives_iff` — what a line gives is what is read from it.
-/

set_option autoImplicit false

namespace ScriptStage.Properties

open Text

/-! ## White space -/

/-- The numbers of the characters with the Unicode property `White_Space`. -/
def whiteSpace : List ℕ :=
  List.range' 0x09 5 ++ [0x20, 0x85, 0xA0, 0x1680] ++ List.range' 0x2000 11 ++
    [0x2028, 0x2029, 0x202F, 0x205F, 0x3000]

/-- **A character of white space** in the sense of Unicode. -/
def IsWhite (c : Char) : Prop :=
  c.toNat ∈ whiteSpace

lemma isBlank_iff (c : Char) : isBlank c = true ↔ IsWhite c := by
  simp only [isBlank, blankRanges, List.any_cons, List.any_nil, Bool.or_eq_true,
    Bool.and_eq_true, decide_eq_true_eq, Bool.false_eq_true, or_false, IsWhite, whiteSpace,
    List.mem_append, List.mem_range'_1, List.mem_cons, List.not_mem_nil]
  omega

/-! ## Ends of texts -/

/-- **A text without certain characters at its start.** -/
def Stripped (p : Char → Prop) (t s : List Char) : Prop :=
  ∃ front, t = front ++ s ∧ (∀ c ∈ front, p c) ∧ ∀ c, s.head? = some c → ¬ p c

/-- **A text without certain characters at its end.** -/
def StrippedEnd (p : Char → Prop) (t s : List Char) : Prop :=
  ∃ back, t = s ++ back ∧ (∀ c ∈ back, p c) ∧ ∀ c, s.getLast? = some c → ¬ p c

section Ends

variable {p : Char → Prop} {q : Char → Bool} {t s : List Char}

lemma stripped_iff (hq : ∀ c, q c = true ↔ p c) : Stripped p t s ↔ t.dropWhile q = s := by
  constructor
  · rintro ⟨front, rfl, hfront, hs⟩
    rw [List.dropWhile_append_of_pos fun c hc => (hq c).2 (hfront c hc)]
    refine dropWhile_of_head fun c hc => ?_
    rw [← Bool.not_eq_true, hq]
    exact hs c hc
  · rintro rfl
    refine ⟨t.takeWhile q, List.takeWhile_append_dropWhile.symm, fun c hc => ?_, fun c hc => ?_⟩
    · exact (hq c).1 (List.all_eq_true.1 List.all_takeWhile c hc)
    · have hhead := List.head?_dropWhile_not q t
      rw [hc] at hhead
      rw [← hq, Bool.not_eq_true]
      exact hhead

lemma strippedEnd_iff (hq : ∀ c, q c = true ↔ p c) : StrippedEnd p t s ↔ dropEndWhile q t = s := by
  have hreverse : StrippedEnd p t s ↔ Stripped p t.reverse s.reverse := by
    constructor
    · rintro ⟨back, rfl, hback, hs⟩
      exact ⟨back.reverse, List.reverse_append, by simpa using hback, by simpa using hs⟩
    · rintro ⟨front, ht, hfront, hs⟩
      refine ⟨front.reverse, ?_, by simpa using hfront, by simpa using hs⟩
      rw [← List.reverse_reverse t, ht, List.reverse_append, List.reverse_reverse]
  rw [hreverse, stripped_iff hq, dropEndWhile, List.reverse_eq_iff]

lemma trimStart_iff : Stripped IsWhite t s ↔ trimStart t = s :=
  stripped_iff isBlank_iff

/-- **The key in a text**: the text without white space at its ends. -/
def KeyIn (t k : List Char) : Prop :=
  ∃ m, Stripped IsWhite t m ∧ StrippedEnd IsWhite m k

/-- **The value in a text**: the text without white space at its start and without carriage returns
at its end. -/
def ValueIn (t v : List Char) : Prop :=
  ∃ m, Stripped IsWhite t m ∧ StrippedEnd (· = '\r') m v

lemma keyIn_iff {k : List Char} : KeyIn t k ↔ trim t = k := by
  simp only [KeyIn, stripped_iff isBlank_iff, strippedEnd_iff isBlank_iff]
  exact exists_eq_left'

lemma valueIn_iff {v : List Char} : ValueIn t v ↔ valueOf t = v := by
  have hreturn : ∀ c, decide (c = '\r') = true ↔ c = '\r' := fun c => decide_eq_true_iff
  simp only [ValueIn, stripped_iff isBlank_iff, strippedEnd_iff hreturn]
  exact exists_eq_left'

/-- A text of white space has no key. -/
lemma trim_eq_nil_iff : trim t = [] ↔ ∀ c ∈ t, IsWhite c := by
  constructor
  · intro h c hc
    have hstart := trimStart_of_trim h
    rw [trimStart, List.dropWhile_eq_nil_iff] at hstart
    exact (isBlank_iff c).1 (hstart c hc)
  · intro h
    have hstart : trimStart t = [] :=
      List.dropWhile_eq_nil_iff.2 fun c hc => (isBlank_iff c).2 (h c hc)
    rw [trim, hstart]
    rfl

end Ends

/-! ## Separators -/

/-- The number of backslashes at the end of a text. -/
def slashes (t : List Char) : ℕ :=
  (t.reverse.takeWhile (· = '\\')).length

/-- **A place of a text where it can be cut**: a separator is there, with an even number of
backslashes directly in front of it. -/
def SeparatorAt (t : List Char) (i : ℕ) : Prop :=
  (t[i]? = some '=' ∨ t[i]? = some ':') ∧ Even (slashes (t.take i))

instance (t : List Char) (i : ℕ) : Decidable (SeparatorAt t i) :=
  inferInstanceAs (Decidable (_ ∧ _))

/-- **The first such place** from some place on. -/
structure FirstFrom (t : List Char) (n i : ℕ) : Prop where
  le : n ≤ i
  separator : SeparatorAt t i
  first : ∀ j, n ≤ j → j < i → ¬ SeparatorAt t j

/-- **The first such place.** -/
def FirstSeparator (t : List Char) (i : ℕ) : Prop :=
  SeparatorAt t i ∧ ∀ j < i, ¬ SeparatorAt t j

section Separators

variable {t k v : List Char} {n i : ℕ}

lemma firstFrom_zero : FirstFrom t 0 i ↔ FirstSeparator t i :=
  ⟨fun h => ⟨h.separator, fun j => h.first j (Nat.zero_le j)⟩,
    fun h => ⟨Nat.zero_le i, h.1, fun j _ => h.2 j⟩⟩

lemma firstFrom_of_separator (h : SeparatorAt t n) : FirstFrom t n i ↔ i = n := by
  constructor
  · intro hi
    by_contra hne
    exact hi.first n (Nat.le_refl n) (Nat.lt_of_le_of_ne hi.le (Ne.symm hne)) h
  · rintro rfl
    exact ⟨Nat.le_refl i, h, fun j hj hlt => absurd hlt (Nat.not_lt.2 hj)⟩

lemma firstFrom_succ (h : ¬ SeparatorAt t n) : FirstFrom t n i ↔ FirstFrom t (n + 1) i := by
  constructor
  · intro hi
    have hne : n ≠ i := fun he => h (he ▸ hi.separator)
    have hle := hi.le
    exact ⟨by omega, hi.separator, fun j hj => hi.first j (by omega)⟩
  · intro hi
    have hle := hi.le
    refine ⟨by omega, hi.separator, fun j hj hlt => ?_⟩
    by_cases hn : j = n
    · exact hn ▸ h
    · exact hi.first j (by omega) hlt

/-- If there is any such place, there is a first one. -/
lemma exists_firstSeparator (h : ∃ i, SeparatorAt t i) : ∃ i, FirstSeparator t i :=
  ⟨Nat.find h, Nat.find_spec h, fun _ => Nat.find_min h⟩

/-- Whether the character behind a text is escaped: an odd number of backslashes is in front of
it. -/
def escapesNext (t : List Char) : Bool :=
  decide (¬ Even (slashes t))

/-- **The flag is the parity**: a backslash escapes the next character unless it is escaped itself,
and no other character does. -/
lemma escapesNext_append (t : List Char) (c : Char) :
    escapesNext (t ++ [c]) = (!escapesNext t && c = '\\') := by
  unfold escapesNext slashes
  rw [List.reverse_append, List.reverse_singleton, List.singleton_append]
  by_cases hc : c = '\\'
  · rw [List.takeWhile_cons_of_pos (by simpa using hc), List.length_cons]
    simp only [hc, Nat.even_add_one, decide_not, Bool.not_not, decide_true, Bool.and_true]
  · rw [List.takeWhile_cons_of_neg (by simpa using hc)]
    simp [hc]

/-- The place behind a text is one to cut if a separator is there that is not escaped. -/
lemma separatorAt_length (t : List Char) (c : Char) (s : List Char) :
    SeparatorAt (t ++ c :: s) t.length ↔ (!escapesNext t && isSeparator c) = true := by
  have hc : (t ++ c :: s)[t.length]? = some c := by simp
  rw [SeparatorAt, hc, List.take_left]
  simp [escapesNext, isSeparator, and_comm]

/-- **Where a scan cuts.** A scan that has come to some place goes on to the first place from there
on where the text can be cut.

**Proof sketch.** By induction on what is left. The flag is that of the text passed so far, so that
it is true just if the next separator does not count. -/
theorem splitAtSeparator_eq_some_iff (passed : List Char) :
    splitAtSeparator (escapesNext passed) t = some (k, v) ↔
      ∃ i, FirstFrom (passed ++ t) passed.length i ∧ (passed ++ t).take i = passed ++ k ∧
        (passed ++ t).drop (i + 1) = v := by
  induction t generalizing passed k with
  | nil =>
    refine iff_of_false (fun h => nomatch h) ?_
    rintro ⟨i, hi, -⟩
    have hnone : (passed ++ [])[i]? = none :=
      List.getElem?_eq_none (by simpa using hi.le)
    rcases hi.separator.1 with h | h <;> exact nomatch hnone.symm.trans h
  | cons c t ih =>
    have hseparator := separatorAt_length passed c t
    rw [splitAtSeparator]
    split
    · next hcut =>
      have hdrop : (passed ++ c :: t).drop (passed.length + 1) = t := by
        rw [← List.drop_drop, List.drop_left]
        rfl
      simp only [firstFrom_of_separator (hseparator.2 hcut), exists_eq_left, List.take_left, hdrop]
      simp [eq_comm]
    · next hcut =>
      have hlength : (passed ++ [c]).length = passed.length + 1 := List.length_append
      have hwhole : passed ++ c :: t = passed ++ [c] ++ t := List.append_cons passed c t
      rw [← hseparator, hwhole] at hcut
      simp only [← escapesNext_append, Option.map_eq_some_iff, firstFrom_succ hcut, hwhole,
        ← hlength]
      constructor
      · rintro ⟨⟨k', v'⟩, hr, he⟩
        obtain ⟨rfl, rfl⟩ := Prod.mk.inj he
        obtain ⟨i, hi, htake, hdrop⟩ := (ih (passed ++ [c])).1 hr
        exact ⟨i, hi, by rw [htake, List.append_assoc, List.singleton_append], hdrop⟩
      · rintro ⟨i, hi, htake, hdrop⟩
        have hfront : (passed ++ [c] ++ t).take i =
            passed ++ [c] ++ t.take (i - (passed ++ [c]).length) := by
          rw [List.take_append, List.take_of_length_le hi.le]
        have hk : k = c :: t.take (i - (passed ++ [c]).length) := by
          rw [htake, List.append_assoc, List.append_cancel_left_eq] at hfront
          exact hfront
        refine ⟨(t.take (i - (passed ++ [c]).length), v), (ih _).2 ⟨i, hi, hfront, hdrop⟩, ?_⟩
        rw [hk]

/-- **Where a line is cut**: at its first separator. -/
lemma splitAtSeparator_eq_some_iff_first :
    splitAtSeparator false t = some (k, v) ↔
      ∃ i, FirstSeparator t i ∧ t.take i = k ∧ t.drop (i + 1) = v := by
  have hnothing : escapesNext [] = false := by decide
  have h := splitAtSeparator_eq_some_iff (t := t) (k := k) (v := v) []
  simpa only [hnothing, List.nil_append, List.length_nil, firstFrom_zero] using h

/-- A line without a separator is not cut. -/
lemma splitAtSeparator_eq_none_iff :
    splitAtSeparator false t = none ↔ ∀ i, ¬ SeparatorAt t i := by
  constructor
  · intro h i hi
    obtain ⟨j, hj⟩ := exists_firstSeparator ⟨i, hi⟩
    have hsome := splitAtSeparator_eq_some_iff_first.2 ⟨j, hj, rfl, rfl⟩
    exact nomatch h.symm.trans hsome
  · intro h
    cases hs : splitAtSeparator false t with
    | none => rfl
    | some r =>
      obtain ⟨i, hi, -⟩ := splitAtSeparator_eq_some_iff_first.1 hs
      exact absurd hi.1 (h i)

end Separators

/-! ## Lines -/

/-- A line that begins a comment. -/
def BeginsComment (l : List Char) : Prop :=
  l.head? = some '#' ∨ l.head? = some '!'

lemma isComment_iff {l : List Char} : isComment l = true ↔ BeginsComment l := by
  cases l <;> simp [isComment, BeginsComment]

/-- **What a line gives.** The white space at its start does not count. A line with nothing else, a
comment and a line without a separator give nothing, and neither does one with nothing but white
space in front of its first separator. Every other line gives the key in front of that separator and
the value behind it. -/
inductive LineGives (line : List Char) : Option Entry → Prop
  /-- Nothing is on the line. -/
  | blank (hl : Stripped IsWhite line []) : LineGives line none
  /-- The line is a comment. -/
  | comment {l : List Char} (hl : Stripped IsWhite line l) (hc : BeginsComment l) :
    LineGives line none
  /-- There is no separator. -/
  | unseparated {l : List Char} (hl : Stripped IsWhite line l) (hs : ∀ i, ¬ SeparatorAt l i) :
    LineGives line none
  /-- There is no key. -/
  | unnamed {l : List Char} {i : ℕ} (hl : Stripped IsWhite line l) (hi : FirstSeparator l i)
      (hk : ∀ c ∈ l.take i, IsWhite c) : LineGives line none
  /-- There are a key and a value. -/
  | entry {l k v : List Char} {i : ℕ} (hl : Stripped IsWhite line l) (hc : ¬ BeginsComment l)
      (hi : FirstSeparator l i) (hk : ∃ c ∈ l.take i, ¬ IsWhite c) (key : KeyIn (l.take i) k)
      (value : ValueIn (l.drop (i + 1)) v) : LineGives line (some ⟨k, v⟩)

/-- What a line gives is read from it. -/
lemma LineGives.ofLine_eq {line : List Char} {r : Option Entry} (h : LineGives line r) :
    ofLine line = r := by
  cases h with
  | blank hl =>
    have hstart : trimStart line = [] := trimStart_iff.1 hl
    simp [ofLine, hstart, splitAtSeparator]
  | comment hl hc =>
    obtain rfl := trimStart_iff.1 hl
    exact if_pos (isComment_iff.2 hc)
  | unseparated hl hs =>
    obtain rfl := trimStart_iff.1 hl
    simp [ofLine, splitAtSeparator_eq_none_iff.2 hs]
  | @unnamed _ i hl hi hk =>
    obtain rfl := trimStart_iff.1 hl
    have hcut := splitAtSeparator_eq_some_iff_first.2 ⟨i, hi, rfl, rfl⟩
    simp [ofLine, hcut, trim_eq_nil_iff.2 hk]
  | @entry _ k v i hl hc hi hk key value =>
    obtain rfl := trimStart_iff.1 hl
    have hcut := splitAtSeparator_eq_some_iff_first.2 ⟨i, hi, rfl, rfl⟩
    have hcomment : isComment (trimStart line) = false := by
      rw [← Bool.not_eq_true, isComment_iff]
      exact hc
    have hname : trim ((trimStart line).take i) ≠ [] := by
      rw [ne_eq, trim_eq_nil_iff]
      simpa using hk
    rw [keyIn_iff] at key
    rw [valueIn_iff] at value
    rw [key] at hname
    simp [ofLine, hcut, hcomment, key, value, hname]

/-- Every line gives what is read from it. -/
lemma lineGives_ofLine (line : List Char) : LineGives line (ofLine line) := by
  have hl : Stripped IsWhite line (trimStart line) := trimStart_iff.2 rfl
  simp only [ofLine]
  split
  · next hc => exact .comment hl (isComment_iff.1 hc)
  next hc =>
  split
  · next hs => exact .unseparated hl (splitAtSeparator_eq_none_iff.1 hs)
  next k v hs =>
  obtain ⟨i, hi, rfl, rfl⟩ := splitAtSeparator_eq_some_iff_first.1 hs
  split
  · next hk => exact .unnamed hl hi (trim_eq_nil_iff.1 (List.isEmpty_iff.1 hk))
  · next hk =>
    refine .entry hl (mt isComment_iff.2 hc) hi ?_ (keyIn_iff.2 rfl) (valueIn_iff.2 rfl)
    rw [List.isEmpty_iff, trim_eq_nil_iff] at hk
    simpa using hk

/-- **What a line gives is what is read from it.** So every line gives just one thing: a key with a
value, or nothing. -/
theorem lineGives_iff (line : List Char) (r : Option Entry) :
    LineGives line r ↔ ofLine line = r := by
  constructor
  · exact LineGives.ofLine_eq
  · rintro rfl
    exact lineGives_ofLine line

/-- The separator behind one backslash does not count, and the one behind two does. -/
example : ofLine " a\\=b\\\\:c\\= \r".toList = some ⟨"a\\=b\\\\".toList, "c\\= ".toList⟩ := by
  decide +kernel

end ScriptStage.Properties
