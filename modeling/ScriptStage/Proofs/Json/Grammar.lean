import ScriptStage.Json.Reader.Ignored
import ScriptStage.Proofs.Json.Reading

/-!
# Texts of values

`ScriptStage.Json.write` writes a value in one way. There are many others: blanks can stand around
each part, and a string can use any escapes. This file says what the text of a value looks like,
whoever wrote it.

The text of a value is a matter of form: numbers have any size, arrays and objects nest to any
depth, and an escape can be half of a surrogate pair. `ScriptStage.Json.Denotes` is narrower, since
a string has characters only. A string that is refused is one that stands for nothing.

## Main definitions

* `ScriptStage.Json.Blanks`, `Delimits` — blanks, and what can stand behind a value.
* `ScriptStage.Json.IsBody` — what can stand between the quotes of a string.
* `ScriptStage.Json.IsNumber`, `IsScalar`, `IsValue` — the texts of numbers, of scalars and of all
  values.

## Main results

* `ScriptStage.Json.Denotes.isBody` — what stands for characters can stand in a string.
* `ScriptStage.Json.IsBody.of_readString` — a string that is read at all stands for what is read.
-/

set_option autoImplicit false

namespace ScriptStage.Json

/-! ## Blanks -/

/-- **Blanks of JSON.** -/
def Blanks (t : List Char) : Prop :=
  ∀ ch ∈ t, Cursor.isBlank ch = true

/-- The blanks and the characters that go on with a container or end it. -/
def delimiters : List Char :=
  [' ', '\n', '\t', '\r', ',', ']', '\x7d']

/-- **What can stand behind a value in a text**: nothing, or a delimiter. -/
def Delimits (rest : List Char) : Prop :=
  ∀ ch, rest.head? = some ch → ch ∈ delimiters

lemma blanks_nil : Blanks [] :=
  fun _ h => nomatch h

lemma Blanks.append {s t : List Char} (hs : Blanks s) (ht : Blanks t) : Blanks (s ++ t) :=
  fun ch h => (List.mem_append.1 h).elim (hs ch) (ht ch)

/-- Blanks are skipped up to the first character that is none. -/
lemma Blanks.skip {b : List Char} (h : Blanks b) (ch : Char) (hch : Cursor.isBlank ch = false)
    (t : List Char) (p : Position) :
    ∃ q, Cursor.skipBlanks ⟨b ++ ch :: t, p⟩ = ⟨ch :: t, q⟩ := by
  obtain ⟨q, hq⟩ := Cursor.skipBlanks_append h (ch :: t) p
  exact ⟨q, hq.trans (Cursor.skipBlanks_of_not_blank hch)⟩

namespace Delimits

variable {rest : List Char}

lemma of_stops (h : Stops rest) : Delimits rest := by
  intro ch hch
  rcases h ch hch with rfl | rfl | rfl <;> decide

lemma blanks (h : Delimits rest) {b : List Char} (hb : Blanks b) : Delimits (b ++ rest) := by
  cases b with
  | nil => exact h
  | cons c b =>
    intro ch hch
    obtain rfl := Option.some.inj hch
    have hc := hb c (.head b)
    simp only [Cursor.isBlank, Bool.or_eq_true, decide_eq_true_eq, or_assoc] at hc
    rcases hc with rfl | rfl | rfl | rfl <;> decide

/-- What holds of no delimiter does not hold of what stands behind a value. -/
lemma head_eq_false (h : Delimits rest) {test : Char → Bool}
    (ht : (delimiters.all fun ch => !test ch) = true) {ch : Char} (hch : rest.head? = some ch) :
    test ch = false := by
  simpa using List.all_eq_true.1 ht ch (h ch hch)

lemma nextIs (h : Delimits rest) {test : Char → Bool}
    (ht : (delimiters.all fun ch => !test ch) = true) (p : Position) :
    Cursor.nextIs ⟨rest, p⟩ test = false := by
  cases rest with
  | nil => rfl
  | cons ch rest => exact h.head_eq_false ht rfl

end Delimits

/-! ## Strings -/

/-- **What can stand between the quotes of a string**: characters that are no control characters,
and escapes. -/
inductive IsBody : List Char → Prop
  | nil : IsBody []
  | plain {c : Char} {t : List Char} (quote : c ≠ '"') (backslash : c ≠ '\\')
      (control : isControl c = false) (more : IsBody t) : IsBody (c :: t)
  | simple {d : Char} {t : List Char} (h : (simpleEscape? d).isSome = true) (more : IsBody t) :
    IsBody ('\\' :: d :: t)
  | number {x y z w : Char} {t : List Char} (h : (Text.natIn? 16 [x, y, z, w]).isSome = true)
      (more : IsBody t) : IsBody ('\\' :: 'u' :: x :: y :: z :: w :: t)

lemma Denotes.isBody {t cs : List Char} (h : Denotes t cs) : IsBody t := by
  induction h with
  | nil => exact .nil
  | char hc _ ih =>
    cases hc with
    | plain quote backslash control => exact .plain quote backslash control ih
    | simple hd => exact .simple (by rw [hd]; rfl) ih
    | number hn => exact .number (by rw [hn]; rfl) ih
  | pair first _ second _ _ ih =>
    exact .number (by rw [first]; rfl) (.number (by rw [second]; rfl) ih)

/-! ## Strings that may be refused -/

/-- A step of a reader that succeeds has succeeded before. -/
lemma ok_of_bind {α β : Type} {r : Except Fault α} {f : α → Except Fault β} {b : β}
    (h : (r >>= f) = .ok b) : ∃ a, r = .ok a ∧ f a = .ok b := by
  cases r with
  | error e => exact nomatch h
  | ok a => exact ⟨a, rfl, h⟩

lemma digitIn?_lt {base n : ℕ} {c : Char} (h : Text.digitIn? base c = some n) : n < base := by
  obtain ⟨hlt, heq⟩ := Option.ite_none_right_eq_some.1 h
  exact Option.some.inj heq ▸ hlt

/-- Four digits give a number below `0x10000`. -/
lemma natIn?_lt {x y z w : Char} {n : ℕ} (h : Text.natIn? 16 [x, y, z, w] = some n) :
    n < 0x10000 := by
  simp only [Text.natIn?, List.isEmpty_cons, Bool.false_eq_true, if_false, List.foldlM_cons,
    List.foldlM_nil, Option.bind_eq_bind, Option.bind_eq_some_iff, Option.map_eq_some_iff,
    Option.pure_def, Option.some.injEq] at h
  obtain ⟨_, ⟨a, ha, rfl⟩, _, ⟨b, hb, rfl⟩, _, ⟨c, hc, rfl⟩, _, ⟨d, hd, rfl⟩, rfl⟩ := h
  have ha := digitIn?_lt ha
  have hb := digitIn?_lt hb
  have hc := digitIn?_lt hc
  have hd := digitIn?_lt hd
  omega

/-- A number that is no surrogate is the number of a character. -/
lemma escapes_ofNat {x y z w : Char} {n : ℕ} (h : Text.natIn? 16 [x, y, z, w] = some n)
    (notLow : Text.isLowUnit n = false) (notHigh : Text.isHighUnit n = false) :
    Escapes ['\\', 'u', x, y, z, w] (Char.ofNat n) := by
  refine .number ?_
  have hvalid : n.isValidChar := by
    have hlt := natIn?_lt h
    simp only [Text.isLowUnit, Text.isHighUnit, Bool.and_eq_false_iff,
      decide_eq_false_iff_not] at notLow notHigh
    unfold Nat.isValidChar
    omega
  rw [h, Char.ofNat, dif_pos hvalid]
  rfl

/-- A character that must follow is the next one of the string. -/
lemma ok_of_expectAfterSurrogate {ch : Char} (hch : ch ≠ '"') {t rest : List Char} {p : Position}
    {c : Cursor} (h : expectAfterSurrogate ch ⟨t ++ '"' :: rest, p⟩ = .ok c) :
    ∃ t' q, t = ch :: t' ∧ c = ⟨t' ++ '"' :: rest, q⟩ := by
  cases t with
  | nil =>
    simp only [expectAfterSurrogate, List.nil_append, if_neg hch.symm] at h
    cases h
  | cons d t =>
    by_cases hd : d = ch
    · subst hd
      simp only [expectAfterSurrogate, List.cons_append, if_pos, Cursor.next_cons] at h
      exact ⟨t, _, rfl, (Except.ok.inj h).symm⟩
    · simp only [expectAfterSurrogate, List.cons_append, if_neg hd] at h
      cases h

/-- An escape by number goes on with four digits. -/
lemma IsBody.of_number {t : List Char} (h : IsBody ('\\' :: 'u' :: t)) :
    ∃ x y z w n t', t = x :: y :: z :: w :: t' ∧ Text.natIn? 16 [x, y, z, w] = some n ∧
      IsBody t' := by
  cases h with
  | plain quote backslash control => exact absurd rfl backslash
  | simple hd => exact nomatch hd
  | @number x y z w t' hn more =>
    obtain ⟨n, hn⟩ := Option.isSome_iff_exists.1 hn
    exact ⟨x, y, z, w, n, t', rfl, hn, more⟩

/-- **What follows a character of a string that is read**: the rest of the string, so that the
whole stands for the character and what this rest stands for. -/
def LeavesBody (t rest : List Char) (d : Char) (c : Cursor) : Prop :=
  ∃ t' q, IsBody t' ∧ c = ⟨t' ++ '"' :: rest, q⟩ ∧ ∀ cs, Denotes t' cs → Denotes t (d :: cs)

/-- An escape by number that is read stands for a character. The second half of a pair is an escape
of the string as well. -/
lemma IsBody.of_readUnicode {t rest : List Char} (h : IsBody ('\\' :: 'u' :: t)) {p : Position}
    {d : Char} {c : Cursor} (hread : readUnicode ⟨t ++ '"' :: rest, p⟩ = .ok (d, c)) :
    LeavesBody ('\\' :: 'u' :: t) rest d c := by
  obtain ⟨x, y, z, w, n, t, rfl, hn, more⟩ := h.of_number
  simp only [List.cons_append, readUnicode, readHex_cons hn, ok_bind] at hread
  split at hread
  · cases hread
  next notLow =>
  split at hread
  · next isHigh =>
    obtain ⟨c₁, hslash, hread⟩ := ok_of_bind hread
    obtain ⟨t, q, rfl, rfl⟩ := ok_of_expectAfterSurrogate (by decide) hslash
    obtain ⟨c₂, hu, hread⟩ := ok_of_bind hread
    obtain ⟨t, q, rfl, rfl⟩ := ok_of_expectAfterSurrogate (by decide) hu
    obtain ⟨x', y', z', w', m, t, rfl, hm, more⟩ := more.of_number
    simp only [List.cons_append, readHex_cons hm, ok_bind] at hread
    split at hread
    · next isLow =>
      obtain ⟨rfl, rfl⟩ := Prod.mk.inj (Except.ok.inj hread)
      exact ⟨t, _, more, rfl, fun cs => .pair hn isHigh hm isLow⟩
    · cases hread
  · next notHigh =>
    obtain ⟨rfl, rfl⟩ := Prod.mk.inj (Except.ok.inj hread)
    have hescape := escapes_ofNat hn (Bool.eq_false_iff.2 notLow) (Bool.eq_false_iff.2 notHigh)
    exact ⟨t, _, more, rfl, fun cs => .char hescape⟩

/-- An escape that is read stands for a character. -/
lemma IsBody.of_readEscape {t rest : List Char} (h : IsBody ('\\' :: t)) {p : Position} {d : Char}
    {c : Cursor} (hread : readEscape ⟨t ++ '"' :: rest, p⟩ = .ok (d, c)) :
    LeavesBody ('\\' :: t) rest d c := by
  cases h with
  | plain quote backslash control => exact absurd rfl backslash
  | @simple e t he more =>
    obtain ⟨d', he⟩ := Option.isSome_iff_exists.1 he
    have hu : e ≠ 'u' := by
      rintro rfl
      exact nomatch he
    simp only [List.cons_append, readEscape, if_neg hu, he, Cursor.next_cons] at hread
    obtain ⟨rfl, rfl⟩ := Prod.mk.inj (Except.ok.inj hread)
    exact ⟨t, _, more, rfl, fun cs => .char (.simple he)⟩
  | @number x y z w t hn more =>
    simp only [List.cons_append, readEscape, if_pos, Cursor.next_cons] at hread
    exact (IsBody.number hn more).of_readUnicode hread

/-- A string that is read at all is read to its end, as characters that it stands for. -/
lemma IsBody.of_readChars {fuel : ℕ} {t rest : List Char} (h : IsBody t) {p : Position}
    {cs : List Char} {c : Cursor} (hread : readChars fuel ⟨t ++ '"' :: rest, p⟩ = .ok (cs, c)) :
    c.rest = rest ∧ Denotes t cs := by
  induction fuel generalizing t p cs with
  | zero => exact nomatch hread
  | succ fuel ih =>
    -- an escape is followed by the rest of the string, as a plain character is
    have escaped : ∀ t, IsBody ('\\' :: t) →
        readChars (fuel + 1) ⟨'\\' :: t ++ '"' :: rest, p⟩ = .ok (cs, c) →
        c.rest = rest ∧ Denotes ('\\' :: t) cs := by
      intro t h hread
      simp only [readChars, List.cons_append, Cursor.next_cons, if_pos,
        if_neg (show '\\' ≠ '"' by decide)] at hread
      obtain ⟨⟨d, c₁⟩, hescape, hread⟩ := ok_of_bind hread
      obtain ⟨⟨ds, c₂⟩, hchars, heq⟩ := ok_of_bind hread
      obtain ⟨rfl, rfl⟩ := Prod.mk.inj (Except.ok.inj heq)
      obtain ⟨t', q, ht', rfl, denotes⟩ := h.of_readEscape hescape
      obtain ⟨hrest, hmore⟩ := ih ht' hchars
      exact ⟨hrest, denotes ds hmore⟩
    cases h with
    | nil =>
      obtain ⟨rfl, rfl⟩ := Prod.mk.inj (Except.ok.inj hread)
      exact ⟨rfl, .nil⟩
    | @plain ch t quote backslash control more =>
      simp only [readChars, List.cons_append, Cursor.next_cons, if_neg quote, if_neg backslash,
        control, Bool.false_eq_true, if_false] at hread
      obtain ⟨⟨ds, c₂⟩, hchars, heq⟩ := ok_of_bind hread
      obtain ⟨rfl, rfl⟩ := Prod.mk.inj (Except.ok.inj heq)
      obtain ⟨hrest, hmore⟩ := ih more hchars
      exact ⟨hrest, .char (.plain quote backslash control) hmore⟩
    | simple hd more => exact escaped _ (.simple hd more) hread
    | number hn more => exact escaped _ (.number hn more) hread

/-- **A string that is read at all** is read to its end, as one that it stands for, behind its
opening quote. -/
theorem IsBody.of_readString {t rest : List Char} (h : IsBody t) {p : Position} {s : String}
    {c : Cursor} (hread : readString ⟨t ++ '"' :: rest, p⟩ = .ok (s, c)) :
    c.rest = rest ∧ Denotes t s.toList := by
  obtain ⟨⟨cs, c'⟩, hchars, heq⟩ := ok_of_bind hread
  obtain ⟨rfl, rfl⟩ := Prod.mk.inj (Except.ok.inj heq)
  rw [String.toList_ofList]
  exact h.of_readChars hchars

/-! ## Numbers -/

/-- Digits, at least one. -/
def IsDigits (ds : List Char) : Prop :=
  ds ≠ [] ∧ ∀ ch ∈ ds, Text.isDigit ch = true

/-- What can stand behind the whole part of a number. -/
inductive IsFraction : List Char → Prop
  | absent : IsFraction []
  | given {ds : List Char} (digits : IsDigits ds) : IsFraction ('.' :: ds)

/-- What can stand at the end of a number. -/
inductive IsExponent : List Char → Prop
  | absent : IsExponent []
  | given {e : Char} {sign ds : List Char} (letter : e ∈ ['e', 'E'])
      (signed : sign ∈ [[], ['+'], ['-']]) (digits : IsDigits ds) : IsExponent (e :: (sign ++ ds))

/-- **The text of a number.** No zero stands in front of another digit of the whole part. -/
inductive IsNumber : List Char → Prop
  | mk {sign whole fraction exponent : List Char} (signed : sign ∈ [[], ['-']])
      (digits : IsDigits whole) (zero : whole.head? = some '0' → whole = ['0'])
      (isFraction : IsFraction fraction) (isExponent : IsExponent exponent) :
    IsNumber (sign ++ (whole ++ (fraction ++ exponent)))

/-! ## Values -/

/-- **The text of a scalar.** -/
inductive IsScalar : List Char → Prop
  | null : IsScalar writeNull
  | bool (b : Bool) : IsScalar (writeBool b)
  | number {t : List Char} (h : IsNumber t) : IsScalar t
  | text {t : List Char} (h : IsBody t) : IsScalar ('"' :: (t ++ ['"']))

/-- The opening character. -/
def Container.opening : Container → Char
  | list => '['
  | object => '\x7b'

/-- **What stands in front of the value of an item**: blanks, and in an object a key with a
colon. -/
inductive IsFront : Container → List Char → Prop
  | list {b : List Char} (h : Blanks b) : IsFront .list b
  | object {b key b' b'' : List Char} (lead : Blanks b) (isBody : IsBody key) (before : Blanks b')
      (behind : Blanks b'') : IsFront .object (b ++ '"' :: (key ++ '"' :: (b' ++ ':' :: b'')))

/-- **The text of an item of a container**, around the text of its value. -/
def IsItem (k : Container) (v t : List Char) : Prop :=
  ∃ front back, IsFront k front ∧ Blanks back ∧ t = front ++ (v ++ back)

/-- **The text of a value.** Between the brackets of a container there are items with commas between
them, or just blanks. -/
inductive IsValue : List Char → Prop
  | scalar {t : List Char} (h : IsScalar t) : IsValue t
  | container (k : Container) {b : List Char} {vs ts : List (List Char)} (blanks : Blanks b)
      (items : List.Forall₂ (IsItem k) vs ts) (values : ∀ v ∈ vs, IsValue v) :
    IsValue (k.opening :: (b ++ (commaSeparated ts ++ [k.closing])))

end ScriptStage.Json
