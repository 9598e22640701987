import Mathlib.Data.List.Basic
import Mathlib.Data.List.Induction
import ScriptStage.Proofs.Decimal.Doubles
import ScriptStage.Proofs.Json.Numbers
import ScriptStage.Proofs.Properties.Infer

/-!
# Which texts are taken as scalars

A text is typed by what it looks like: the two names of booleans are booleans, the canonical text of
an integer of 64 bits is that integer, and every text but those and some decimals is a string. Of a
decimal the rules ask that it is canonical as well. But what is in front of its point is not looked
at: there may be zeros in front of other digits, and behind a minus sign there need not be a digit
at all. So the rules hold of all texts except such decimals.

## Main definitions

* `ScriptStage.Properties.IsWhole` — digits without zeros in front.
* `ScriptStage.Properties.IsInteger` — the canonical text of an integer.
* `ScriptStage.Properties.PointText` — digits around a point; `PointText.Readable` if they are taken
  as a number, `PointText.Canonical` if they should be.
* `ScriptStage.Properties.TypedBy` — a value has the type that the rules give to a text.
* `ScriptStage.Properties.Lax` — a decimal that is not canonical.

## Main results

* `ScriptStage.Properties.digitsOf_ofDigitChars` — digits without zeros in front are the digits of
  their number.
* `ScriptStage.Properties.integer?_eq_some_iff`, `decimal?_eq_some_iff` — what is taken as a number.
* `ScriptStage.Properties.infer_eq_iff` — the value of a text is the one with its type.
* `ScriptStage.Properties.infer_typed` — how every text is typed, and which ones by the rules.
-/

set_option autoImplicit false

namespace ScriptStage.Properties

open Text Decimal

/-! ## Digits -/

/-- The digits of this library are those of ASCII. -/
lemma isDigit_eq (c : Char) : isDigit c = c.isDigit := by
  simp [isDigit, Char.isDigit, Char.le_def]

lemma natOf_eq_ofDigitChars (ds : List Char) : natOf ds = Nat.ofDigitChars 10 ds 0 := by
  rw [Nat.ofDigitChars_eq_foldl, natOf]
  congr 1
  funext n c
  rw [Nat.mul_comm, digitValue]

/-- **Digits without zeros in front**: at least one digit, and a zero only as the last one of them
or behind another digit. -/
structure IsWhole (ds : List Char) : Prop where
  ne_nil : ds ≠ []
  digits : ∀ c ∈ ds, c.isDigit = true
  lead : ds.head? = some '0' → ds = ['0']

instance (ds : List Char) : Decidable (IsWhole ds) :=
  decidable_of_iff (ds ≠ [] ∧ ds.all Char.isDigit = true ∧ (ds.head? = some '0' → ds = ['0']))
    ⟨fun ⟨h₁, h₂, h₃⟩ => ⟨h₁, List.all_eq_true.1 h₂, h₃⟩,
      fun ⟨h₁, h₂, h₃⟩ => ⟨h₁, List.all_eq_true.2 h₂, h₃⟩⟩

/-- The digits of a number have no zeros in front. -/
lemma isWhole_digitsOf (n : ℕ) : IsWhole (Notation.digitsOf n) where
  ne_nil := Nat.toDigits_ne_nil
  digits c hc := by
    rw [← isDigit_eq]
    exact Json.isDigit_of_mem_digitsOf hc
  lead h := by
    rcases Nat.eq_zero_or_pos n with rfl | hn
    · rfl
    · exact absurd h (Json.head_digitsOf hn)

/-- The last digit of a number is put behind the others. -/
lemma digitsOf_append {n : ℕ} (hn : 0 < n) {d : ℕ} (hd : d < 10) :
    Notation.digitsOf (10 * n + d) = Notation.digitsOf n ++ [d.digitChar] := by
  have hquotient : (10 * n + d) / 10 = n := by omega
  have hremainder : (10 * n + d) % 10 = d := by omega
  rw [Notation.digitsOf, Nat.toDigits_of_base_le (by decide) (by omega), hquotient, hremainder]
  rfl

/-- A digit is the one of its value. -/
lemma digitChar_of_isDigit {c : Char} (h : c.isDigit = true) :
    c.toNat - '0'.toNat < 10 ∧ (c.toNat - '0'.toNat).digitChar = c := by
  rw [Char.isDigit_iff_toNat] at h
  have hzero : '0'.toNat = 48 := rfl
  have hnine : '9'.toNat = 57 := rfl
  have hlt : c.toNat - '0'.toNat < 10 := by omega
  refine ⟨hlt, Char.toNat_inj.1 ?_⟩
  rw [Nat.toNat_digitChar_of_lt_ten hlt]
  omega

/-- **Digits without zeros in front are the digits of their number.**

**Proof sketch.** Digit by digit from the front: what is in front of the last digit has no zeros in
front either, and it is no zero itself, so that it is the quotient by ten and not lost. -/
theorem digitsOf_ofDigitChars {ds : List Char} (h : IsWhole ds) :
    Notation.digitsOf (Nat.ofDigitChars 10 ds 0) = ds := by
  induction ds using List.reverseRecOn with
  | nil => exact absurd rfl h.ne_nil
  | append_singleton ds c ih =>
    obtain ⟨hlt, hc⟩ := digitChar_of_isDigit (h.digits c (by simp))
    rw [Nat.ofDigitChars_append, Nat.ofDigitChars_cons, Nat.ofDigitChars_nil]
    cases ds with
    | nil =>
      rw [Nat.ofDigitChars_nil, Nat.mul_zero, Nat.zero_add, Notation.digitsOf,
        Nat.toDigits_of_lt_base hlt, hc]
      rfl
    | cons d ds =>
      have hlead : d ≠ '0' := fun hd => by simpa using h.lead (congrArg some hd)
      have hfront : IsWhole (d :: ds) :=
        ⟨List.cons_ne_nil _ _, fun e he => h.digits e (List.mem_append_left _ he),
          fun he => absurd (Option.some.inj he) hlead⟩
      have hdigits := ih hfront
      have hpos : 0 < Nat.ofDigitChars 10 (d :: ds) 0 := by
        refine Nat.pos_of_ne_zero fun hzero => hlead ?_
        rw [hzero] at hdigits
        exact (List.cons.inj hdigits).1.symm
      rw [digitsOf_append hpos hlt, hdigits, hc]

/-! ## Integers -/

/-- The sign in front of digits. -/
def signText (negative : Bool) : List Char :=
  if negative then ['-'] else []

/-- **The canonical text of an integer**: digits without zeros in front, which denote its absolute
value, and a minus sign in front of them if it is below zero. -/
def IsInteger (n : ℤ) (t : List Char) : Prop :=
  ∃ ds, IsWhole ds ∧ Nat.ofDigitChars 10 ds 0 = n.natAbs ∧ t = signText (n < 0) ++ ds

/-- **An integer of 64 bits**, with a sign. -/
def InWord (n : ℤ) : Prop :=
  -0x8000000000000000 ≤ n ∧ n < 0x8000000000000000

lemma writeInt_eq (n : ℤ) :
    Json.writeInt n = signText (n < 0) ++ Notation.digitsOf n.natAbs := by
  by_cases hn : n < 0 <;> simp [Json.writeInt, signText, hn]

/-- The text that is written for an integer is the canonical one. -/
lemma isInteger_iff {n : ℤ} {t : List Char} : IsInteger n t ↔ Json.writeInt n = t := by
  rw [writeInt_eq]
  constructor
  · rintro ⟨ds, hds, hn, rfl⟩
    rw [← hn, digitsOf_ofDigitChars hds]
  · rintro rfl
    refine ⟨_, isWhole_digitsOf _, ?_, rfl⟩
    rw [← natOf_eq_ofDigitChars, Json.natOf_digitsOf]

/-- What is behind the sign of a text. -/
lemma splitSign_text (t : List Char) : signText (splitSign t).1 ++ (splitSign t).2 = t := by
  cases t with
  | nil => rfl
  | cons c t =>
    unfold splitSign
    dsimp only
    split
    · next hc =>
      subst hc
      rfl
    · rfl

/-- A sign is found in front of what does not start with one. -/
lemma splitSign_append (negative : Bool) {t : List Char} (h : t.head? ≠ some '-') :
    splitSign (signText negative ++ t) = (negative, t) := by
  cases negative with
  | true => rfl
  | false =>
    cases t with
    | nil => rfl
    | cons c t =>
      have hc : c ≠ '-' := fun hc => h (congrArg some hc)
      simp [signText, splitSign, hc]

/-- Digits do not start with a minus sign. -/
lemma head_ne_minus {ds t : List Char} (h : ∀ c ∈ ds, c.isDigit = true)
    (ht : t.head? ≠ some '-') : (ds ++ t).head? ≠ some '-' := by
  cases ds with
  | nil => exact ht
  | cons c ds =>
    intro hc
    have hdigit := h c List.mem_cons_self
    rw [Option.some.inj hc] at hdigit
    exact absurd hdigit (by decide)

/-- **What is taken as an integer**: the canonical texts of those that 64 bits hold. -/
theorem integer?_eq_some_iff {t : List Char} {n : ℤ} :
    integer? t = some n ↔ InWord n ∧ IsInteger n t := by
  have hword : ∀ n : ℤ, isWord n = true ↔ InWord n := by
    intro n
    simp [isWord, InWord]
  rw [isInteger_iff]
  constructor
  · intro h
    simp only [integer?, Option.ite_none_right_eq_some, Bool.and_eq_true, beq_iff_eq] at h
    obtain ⟨-, ⟨hn, ht⟩, he⟩ := h
    rw [Option.some.inj he] at hn ht
    exact ⟨(hword n).1 hn, ht⟩
  · rintro ⟨hn, rfl⟩
    have hwhole := isWhole_digitsOf n.natAbs
    have hsplit : splitSign (Json.writeInt n) = (decide (n < 0), Notation.digitsOf n.natAbs) := by
      rw [writeInt_eq]
      have hminus := head_ne_minus (t := []) hwhole.digits (by simp)
      rw [List.append_nil] at hminus
      exact splitSign_append _ hminus
    have hdigits : (!(Notation.digitsOf n.natAbs).isEmpty &&
        (Notation.digitsOf n.natAbs).all isDigit) = true := by
      have hall := List.all_eq_true.2 fun c => Json.isDigit_of_mem_digitsOf (n := n.natAbs) (c := c)
      simp [hall, hwhole.ne_nil]
    have hvalue :
        (if decide (n < 0) = true then -((n.natAbs : ℕ) : ℤ) else (n.natAbs : ℕ)) = n := by
      by_cases hneg : n < 0
      · rw [decide_eq_true hneg, if_pos rfl]
        omega
      · rw [decide_eq_false hneg, if_neg Bool.false_ne_true]
        omega
    rw [integer?, hsplit]
    dsimp only
    rw [if_pos hdigits, Json.natOf_digitsOf, hvalue, (hword n).2 hn, beq_self_eq_true]
    rfl

/-! ## Decimals -/

/-- **Digits around a point**, with or without a minus sign. -/
structure PointText where
  /-- Whether there is a minus sign. -/
  negative : Bool
  /-- What is in front of the point. -/
  whole : List Char
  /-- What is behind the point. -/
  places : List Char

namespace PointText

/-- The text itself. -/
def text (d : PointText) : List Char :=
  signText d.negative ++ d.whole ++ '.' :: d.places

/-- The double that the digits denote. -/
def magnitude (d : PointText) : Float :=
  Float.ofScientific (Nat.ofDigitChars 10 (d.whole ++ d.places) 0) true d.places.length

/-- The double that the text denotes. -/
def value (d : PointText) : Float :=
  if d.negative then -d.magnitude else d.magnitude

/-- **A decimal that is taken as a number**: there are digits behind the point, and in front of it
there are digits or just a minus sign. -/
structure Readable (d : PointText) : Prop where
  whole_digits : ∀ c ∈ d.whole, c.isDigit = true
  places_digits : ∀ c ∈ d.places, c.isDigit = true
  places_ne_nil : d.places ≠ []
  front : d.whole = [] → d.negative = true

/-- **A canonical decimal**: the digits in front of the point are those of a number, and there are
digits behind it. -/
structure Canonical (d : PointText) : Prop where
  isWhole : IsWhole d.whole
  places_digits : ∀ c ∈ d.places, c.isDigit = true
  places_ne_nil : d.places ≠ []

variable {d : PointText}

lemma Canonical.readable (h : d.Canonical) : d.Readable where
  whole_digits := h.isWhole.digits
  places_digits := h.places_digits
  places_ne_nil := h.places_ne_nil
  front hd := absurd hd h.isWhole.ne_nil

lemma Readable.canonical_iff (h : d.Readable) : d.Canonical ↔ IsWhole d.whole :=
  ⟨fun hc => hc.isWhole, fun hw => ⟨hw, h.places_digits, h.places_ne_nil⟩⟩

lemma isFinite_value (d : PointText) : d.value.isFinite = d.magnitude.isFinite := by
  rw [value, apply_ite Float.isFinite, isFinite_neg, ite_self]

/-- A point in front is one without a sign and without digits in front of it. -/
lemma head_text (hw : ∀ c ∈ d.whole, c.isDigit = true) :
    d.text.head? = some '.' ↔ d.whole = [] ∧ d.negative = false := by
  obtain ⟨negative, whole, places⟩ := d
  cases negative with
  | true => simp [text, signText]
  | false =>
    cases whole with
    | nil => simp [text, signText]
    | cons c whole =>
      have hc : c ≠ '.' := by
        rintro rfl
        exact absurd (hw '.' List.mem_cons_self) (by decide)
      simp [text, signText, hc]

/-- A point at the end is one without digits behind it. -/
lemma last_text (hp : ∀ c ∈ d.places, c.isDigit = true) :
    d.text.getLast? = some '.' ↔ d.places = [] := by
  rw [text, List.getLast?_append_of_ne_nil _ (List.cons_ne_nil _ _)]
  constructor
  · intro h
    by_contra hne
    obtain ⟨c, places, hplaces⟩ := List.exists_cons_of_ne_nil hne
    rw [hplaces, List.getLast?_cons_cons, ← hplaces] at h
    exact absurd (hp _ (List.mem_of_getLast? h)) (by decide)
  · intro h
    rw [h]
    rfl

/-- The point is neither the first character nor the last one. -/
lemma readable_iff (hw : ∀ c ∈ d.whole, c.isDigit = true)
    (hp : ∀ c ∈ d.places, c.isDigit = true) :
    d.Readable ↔ ¬ (d.text.head? = some '.' ∨ d.text.getLast? = some '.') := by
  rw [head_text hw, last_text hp]
  constructor
  · rintro h (⟨hnil, hpositive⟩ | hnil)
    · exact absurd (h.front hnil) (by simp [hpositive])
    · exact h.places_ne_nil hnil
  · intro h
    rw [not_or] at h
    refine ⟨hw, hp, h.2, fun hnil => ?_⟩
    by_contra hpositive
    exact h.1 ⟨hnil, by simpa using hpositive⟩

/-- Sign, digits and places are found in the text. -/
lemma Readable.split (h : d.Readable) :
    splitSign d.text = (d.negative, d.whole ++ '.' :: d.places) ∧
      (d.whole ++ '.' :: d.places).takeWhile isDigit = d.whole ∧
      (d.whole ++ '.' :: d.places).dropWhile isDigit = '.' :: d.places := by
  have hdigits : ∀ c ∈ d.whole, isDigit c = true := fun c hc => by
    rw [isDigit_eq]
    exact h.whole_digits c hc
  refine ⟨?_, ?_, ?_⟩
  · rw [text, List.append_assoc]
    exact splitSign_append _ (head_ne_minus h.whole_digits (by simp))
  · rw [List.takeWhile_append_of_pos hdigits]
    simp [isDigit]
  · rw [List.dropWhile_append_of_pos hdigits]
    simp [isDigit]

/-- A decimal has one text only. -/
lemma Readable.text_injective {e : PointText} (h : d.Readable) (he : e.Readable)
    (htext : d.text = e.text) : d = e := by
  obtain ⟨hsplit, htake, hdrop⟩ := h.split
  obtain ⟨hsplit', htake', hdrop'⟩ := he.split
  rw [htext, hsplit'] at hsplit
  obtain ⟨hsign, hrest⟩ := Prod.mk.inj hsplit
  rw [← hrest, htake'] at htake
  rw [← hrest, hdrop'] at hdrop
  obtain ⟨_, _, _⟩ := d
  obtain ⟨_, _, _⟩ := e
  obtain rfl := hsign
  obtain rfl := htake
  obtain rfl := (List.cons.inj hdrop).2
  rfl

end PointText

/-- **What is taken as a decimal**: the readable ones whose double is finite. -/
theorem decimal?_eq_some_iff {t : List Char} {x : Float} :
    decimal? t = some x ↔
      ∃ d : PointText, d.Readable ∧ d.text = t ∧ d.value = x ∧ x.isFinite = true := by
  constructor
  · intro h
    unfold decimal? at h
    split at h
    · exact nomatch h
    next hends =>
    dsimp only at h
    split at h
    · exact nomatch h
    next point places hcut =>
    simp only [Option.ite_none_right_eq_some, Bool.and_eq_true, decide_eq_true_eq,
      Option.some.injEq] at h
    obtain ⟨⟨rfl, hplaces⟩, hfinite, rfl⟩ := h
    let d : PointText := ⟨(splitSign t).1, (splitSign t).2.takeWhile isDigit, places⟩
    have htext : d.text = t := by
      rw [PointText.text, List.append_assoc, ← hcut, List.takeWhile_append_dropWhile,
        splitSign_text]
    have hdigits : ∀ ds : List Char, ds.all isDigit = true → ∀ c ∈ ds, c.isDigit = true := by
      intro ds hall c hc
      rw [← isDigit_eq]
      exact List.all_eq_true.1 hall c hc
    have hvalue : d.value = if (splitSign t).1 = true then
        -Float.ofScientific (natOf ((splitSign t).2.takeWhile isDigit ++ places)) true places.length
        else Float.ofScientific (natOf ((splitSign t).2.takeWhile isDigit ++ places)) true
          places.length := by
      rw [natOf_eq_ofDigitChars]
      rfl
    refine ⟨d, ?_, htext, hvalue, ?_⟩
    · rw [PointText.readable_iff (hdigits _ List.all_takeWhile) (hdigits _ hplaces), htext]
      simpa using hends
    · rw [← hvalue, PointText.isFinite_value, PointText.magnitude, ← natOf_eq_ofDigitChars]
      exact hfinite
  · rintro ⟨d, hd, rfl, rfl, hfinite⟩
    obtain ⟨hsplit, htake, hdrop⟩ := hd.split
    rw [PointText.isFinite_value] at hfinite
    have hplaces : d.places.all isDigit = true := List.all_eq_true.2 fun c hc => by
      rw [isDigit_eq]
      exact hd.places_digits c hc
    have hends := (PointText.readable_iff hd.whole_digits hd.places_digits).1 hd
    unfold decimal?
    rw [if_neg (by simpa using hends), hsplit]
    dsimp only
    rw [hdrop, htake]
    dsimp only
    rw [hplaces, natOf_eq_ofDigitChars]
    exact if_pos hfinite

/-! ## Types -/

/-- A decimal is no integer, for its point is no digit. -/
lemma integer?_of_decimal {d : PointText} (h : d.Readable) : integer? d.text = none := by
  have hall : (d.whole ++ '.' :: d.places).all isDigit = false :=
    List.all_eq_false.2 ⟨'.', by simp, by decide⟩
  rw [integer?, h.split.1]
  simp [hall]

/-- An integer of 64 bits is kept exactly. -/
lemma InWord.fits {n : ℤ} (h : InWord n) : Json.Fits n := by
  unfold InWord at h
  unfold Json.Fits
  omega

/-- **How a text is typed**: as what it is the name of, as the number that it is taken as, or as the
text itself. -/
inductive Typing (t : List Char) : Json → Prop
  | bool (b : Bool) (h : t = Json.writeBool b) : Typing t (.bool b)
  | integer {n : ℤ} (fits : Json.Fits n) (h : integer? t = some n) : Typing t (.num (.int n fits))
  | decimal {x : Float} (finite : x.isFinite = true) (h : decimal? t = some x) :
    Typing t (.num (.float x finite))
  | other (hb : ∀ b, t ≠ Json.writeBool b) (hi : integer? t = none) (hd : decimal? t = none) :
    Typing t (.str (String.ofList t))

lemma typing_infer (t : List Char) : Typing t (infer t) := by
  unfold infer
  split
  · next h => exact .bool true h
  next htrue =>
  split
  · next h => exact .bool false h
  next hfalse =>
  split
  · next n hn =>
    have fits := (integer?_eq_some_iff.1 hn).1.fits
    rw [Json.ofInt, dif_pos fits]
    exact .integer fits hn
  next hi =>
  split
  · next x hx =>
    obtain ⟨-, -, -, -, finite⟩ := decimal?_eq_some_iff.1 hx
    rw [Json.ofFloat, dif_pos finite]
    exact .decimal finite hx
  · next hd =>
    refine .other (fun b => ?_) hi hd
    cases b
    · exact hfalse
    · exact htrue

/-- The names of the booleans are no numbers. -/
lemma not_number_writeBool (b : Bool) :
    integer? (Json.writeBool b) = none ∧ decimal? (Json.writeBool b) = none := by
  cases b <;> exact ⟨rfl, rfl⟩

/-- A text has one type. -/
lemma Typing.infer_eq {t : List Char} {v : Json} (h : Typing t v) : infer t = v := by
  cases h with
  | bool b h =>
    subst h
    cases b <;> rfl
  | integer fits hn =>
    have hb : ∀ b, t ≠ Json.writeBool b := by
      rintro b rfl
      rw [(not_number_writeBool b).1] at hn
      cases hn
    rw [infer, if_neg (hb true), if_neg (hb false), hn]
    exact dif_pos fits
  | decimal finite hx =>
    have hb : ∀ b, t ≠ Json.writeBool b := by
      rintro b rfl
      rw [(not_number_writeBool b).2] at hx
      cases hx
    obtain ⟨d, hd, rfl, -, -⟩ := decimal?_eq_some_iff.1 hx
    rw [infer, if_neg (hb true), if_neg (hb false), integer?_of_decimal hd, hx]
    exact dif_pos finite
  | other hb hi hd => rw [infer, if_neg (hb true), if_neg (hb false), hi, hd]

/-- **The value of a text** is the one with its type. -/
theorem infer_eq_iff {t : List Char} {v : Json} : infer t = v ↔ Typing t v :=
  ⟨fun h => h ▸ typing_infer t, Typing.infer_eq⟩

lemma infer_eq_bool_iff {t : List Char} {b : Bool} :
    infer t = .bool b ↔ t = Json.writeBool b := by
  rw [infer_eq_iff]
  refine ⟨fun h => ?_, .bool b⟩
  cases h with
  | bool _ hb => exact hb

lemma infer_eq_int_iff {t : List Char} {n : ℤ} {fits : Json.Fits n} :
    infer t = .num (.int n fits) ↔ integer? t = some n := by
  rw [infer_eq_iff]
  refine ⟨fun h => ?_, .integer fits⟩
  cases h with
  | integer _ hn => exact hn

lemma infer_eq_float_iff {t : List Char} {x : Float} {finite : x.isFinite = true} :
    infer t = .num (.float x finite) ↔ decimal? t = some x := by
  rw [infer_eq_iff]
  refine ⟨fun h => ?_, .decimal finite⟩
  cases h with
  | decimal _ hx => exact hx

/-! ## Rules -/

/-- **A value has the type that the rules give to a text**: only the names of the booleans are
booleans, only the canonical texts of the integers of 64 bits are integers, only certain decimals
are doubles, and every other text is a string and stays as it is. -/
structure TypedBy (decimals : PointText → Prop) (t : List Char) (v : Json) : Prop where
  bool : ∀ b, v = .bool b ↔ t = (if b then "true" else "false").toList
  integer : ∀ n fits, v = .num (.int n fits) ↔ InWord n ∧ IsInteger n t
  decimal : ∀ x finite, v = .num (.float x finite) → ∃ d, decimals d ∧ d.text = t
  other : (∀ b, v ≠ .bool b) → (∀ n, v ≠ .num n) → v = .str (String.ofList t)

/-- **A decimal that is not canonical** and still denotes a finite double: there is a zero in front
of other digits, or there is no digit between a minus sign and the point. -/
def Lax (t : List Char) : Prop :=
  ∃ d : PointText, d.Readable ∧ ¬ IsWhole d.whole ∧ d.text = t ∧ d.value.isFinite = true

/-- **What is a double**: the readable decimals, with what they denote. -/
lemma infer_eq_value_iff {t : List Char} {x : Float} {finite : x.isFinite = true} :
    infer t = .num (.float x finite) ↔
      ∃ d : PointText, d.Readable ∧ d.text = t ∧ d.value = x := by
  rw [infer_eq_float_iff, decimal?_eq_some_iff]
  constructor
  · rintro ⟨d, hd, ht, hx, -⟩
    exact ⟨d, hd, ht, hx⟩
  · rintro ⟨d, hd, ht, hx⟩
    exact ⟨d, hd, ht, hx, finite⟩

/-- The rules hold of every text if every readable decimal may be a double. -/
lemma typedBy_readable (t : List Char) : TypedBy PointText.Readable t (infer t) where
  bool b := by
    rw [infer_eq_bool_iff]
    cases b <;> exact Iff.rfl
  integer n fits := by rw [infer_eq_int_iff, integer?_eq_some_iff]
  decimal x finite h := by
    obtain ⟨d, hd, ht, -⟩ := infer_eq_value_iff.1 h
    exact ⟨d, hd, ht⟩
  other hb hn := by
    have htyping := typing_infer t
    generalize infer t = v at hb hn htyping ⊢
    cases htyping with
    | bool b => exact absurd rfl (hb b)
    | integer fits => exact absurd rfl (hn _)
    | decimal finite => exact absurd rfl (hn _)
    | other => rfl

/-- **The rules hold of a text** unless it is a decimal that is not canonical. -/
lemma typedBy_canonical_iff (t : List Char) :
    TypedBy PointText.Canonical t (infer t) ↔ ¬ Lax t := by
  constructor
  · rintro h ⟨d, hd, hwhole, ht, finite⟩
    obtain ⟨e, he, hte⟩ := h.decimal d.value finite (infer_eq_value_iff.2 ⟨d, hd, ht, rfl⟩)
    obtain rfl := hd.text_injective he.readable (ht.trans hte.symm)
    exact hwhole he.isWhole
  · intro hlax
    have h := typedBy_readable t
    refine ⟨h.bool, h.integer, fun x finite hx => ?_, h.other⟩
    obtain ⟨d, hd, ht, rfl⟩ := infer_eq_value_iff.1 hx
    have hwhole : IsWhole d.whole := by
      by_contra hwhole
      exact hlax ⟨d, hd, hwhole, ht, finite⟩
    exact ⟨d, hd.canonical_iff.2 hwhole, ht⟩

/-- **How every text is typed.** Booleans are just their two names, integers just the canonical
texts of those that 64 bits hold, and a text that is no scalar stays as it is. Doubles are just the
decimals with digits behind the point, and in front of it digits or only a minus sign, as long as
what they denote is finite; each is what it denotes. So

* a text has the type that the rules give to it, by which a decimal has to be canonical, if and only
  if it is not one of the decimals with a zero in front of other digits or without a digit in front
  of the point. -/
theorem infer_typed (t : List Char) :
    TypedBy PointText.Readable t (infer t) ∧
      (∀ x finite, infer t = .num (.float x finite) ↔
        ∃ d : PointText, d.Readable ∧ d.text = t ∧ d.value = x) ∧
      (TypedBy PointText.Canonical t (infer t) ↔ ¬ Lax t) :=
  ⟨typedBy_readable t, fun _ _ => infer_eq_value_iff, typedBy_canonical_iff t⟩

/-- A number of a part with zeros in front, and a text of a point with a sign and a digit, are taken
as numbers. -/
theorem infer_typed_zeros :
    (∃ finite, infer "007.5".toList = .num (.float 7.5 finite)) ∧
      ¬ TypedBy PointText.Canonical "007.5".toList (infer "007.5".toList) ∧
      (∃ finite, infer "-.5".toList = .num (.float (-0.5) finite)) ∧
      ¬ TypedBy PointText.Canonical "-.5".toList (infer "-.5".toList) := by
  have hzeros : Lax "007.5".toList :=
    ⟨⟨false, ['0', '0', '7'], ['5']⟩, ⟨by simp, by simp, by simp, by simp⟩, by decide, rfl,
      by decide +kernel⟩
  have hsign : Lax "-.5".toList :=
    ⟨⟨true, [], ['5']⟩, ⟨by simp, by simp, by simp, by simp⟩, by decide, rfl, by decide +kernel⟩
  refine ⟨⟨by decide +kernel, rfl⟩, fun h => ?_, ⟨by decide +kernel, rfl⟩, fun h => ?_⟩
  · exact (typedBy_canonical_iff _).1 h hzeros
  · exact (typedBy_canonical_iff _).1 h hsign

end ScriptStage.Properties
