import Mathlib.Tactic.Common
import ScriptStage.Json.Reader.Value

/-!
# Reading what was written

`ScriptStage.Json.Reads` says that a reader takes a text off the front of whatever stands behind it,
and what it makes of this text. Texts that are put together from others are read by readers that are
put together from others, so that facts of this form add up. This file has the strings, and what is
the same for all containers.

Positions only matter to faults. No fact about them is needed here, since nothing is refused.

## Main definitions

* `ScriptStage.Json.Stops` — what can stand behind a value.
* `ScriptStage.Json.Reads` — a reader reads a text as a value.
* `ScriptStage.Json.Escapes` — what stands for a character in a string.
* `ScriptStage.Json.Denotes` — the characters that stand between the quotes of a string.
* `ScriptStage.Json.separated` — what a container has between its brackets.

## Main results

* `ScriptStage.Json.Reads.readAll` — a whole text is read.
* `ScriptStage.Json.Denotes.readString` — a string is read as what it stands for.
* `ScriptStage.Json.readString_writeString` — a written string is read back.
* `ScriptStage.Json.readItems_writeArray` — the items of a written array are read back.
-/

set_option autoImplicit false

namespace ScriptStage.Json

/-! ## Readers -/

/-- **What can stand behind a value**: nothing, or what goes on with a container or ends it. -/
def Stops (rest : List Char) : Prop :=
  ∀ ch, rest.head? = some ch → ch = ',' ∨ ch = ']' ∨ ch = '\x7d'

/-- **A reader reads a text as a value**, whatever stands behind it. The text starts with none of
the characters that end or skip something. -/
structure Reads {α : Type} (reader : Cursor → Except Fault (α × Cursor)) (t : List Char) (v : α) :
    Prop where
  starts : ∃ ch rest, t = ch :: rest ∧ Cursor.isBlank ch = false ∧ ch ≠ ']'
  reads : ∀ p rest, Stops rest → ∃ q, reader ⟨t ++ rest, p⟩ = .ok (v, ⟨rest, q⟩)

lemma stops_nil : Stops [] :=
  fun _ h => nomatch h

lemma stops_cons {ch : Char} {rest : List Char} (h : ch = ',' ∨ ch = ']' ∨ ch = '\x7d') :
    Stops (ch :: rest) := by
  intro d hd
  obtain rfl := Option.some.inj hd
  exact h

/-- A reader that goes on after a success. -/
@[simp]
lemma ok_bind {α β : Type} (a : α) (f : α → Except Fault β) : (Except.ok a >>= f) = f a := rfl

section Cursors

variable {ch : Char} {rest : List Char} {p : Position}

@[simp]
lemma Cursor.next_cons : Cursor.next ⟨ch :: rest, p⟩ = ⟨rest, p.after ch⟩ := rfl

@[simp]
lemma Cursor.nextIs_cons (test : Char → Bool) : Cursor.nextIs ⟨ch :: rest, p⟩ test = test ch := rfl

end Cursors

/-- Blanks are skipped. -/
lemma Cursor.skipBlanks_append {blanks : List Char} (h : ∀ ch ∈ blanks, isBlank ch = true)
    (t : List Char) (p : Position) :
    ∃ q, skipBlanks ⟨blanks ++ t, p⟩ = skipBlanks ⟨t, q⟩ := by
  induction blanks generalizing p with
  | nil => exact ⟨p, rfl⟩
  | cons ch blanks ih =>
    obtain ⟨hch, hblanks⟩ := List.forall_mem_cons.1 h
    obtain ⟨q, hq⟩ := ih hblanks (p.after ch)
    refine ⟨q, hq ▸ ?_⟩
    simp only [skipBlanks, List.cons_append, skipFrom, hch, if_true]

/-- A whole text is read if nothing but blanks stand behind what is read of it. -/
lemma readAll_append {α : Type} {reader : Cursor → Except Fault (α × Cursor)} {t blanks : List Char}
    {v : α} (h : ∃ q, reader ⟨t ++ blanks, .start⟩ = .ok (v, ⟨blanks, q⟩))
    (hblanks : ∀ ch ∈ blanks, Cursor.isBlank ch = true) :
    Json.readAll reader (t ++ blanks) = .ok v := by
  obtain ⟨q, hq⟩ := h
  obtain ⟨q', hskip⟩ := Cursor.skipBlanks_append hblanks [] q
  rw [List.append_nil] at hskip
  rw [Json.readAll, Cursor.ofText, hq]
  simp only [ok_bind, hskip, Cursor.skipBlanks_nil, List.isEmpty_nil, if_true]
  rfl

/-- **A whole text is read.** -/
theorem Reads.readAll {α : Type} {reader : Cursor → Except Fault (α × Cursor)} {t : List Char}
    {v : α} (h : Reads reader t v) : Json.readAll reader t = .ok v := by
  have hall := readAll_append (h.reads .start [] stops_nil) fun _ h => nomatch h
  rwa [List.append_nil] at hall

/-- What is read from a whole text is read from its beginning, and nothing but blanks is left. -/
lemma ok_of_readAll {α : Type} {reader : Cursor → Except Fault (α × Cursor)} {t : List Char}
    {v : α} (h : readAll reader t = .ok v) :
    ∃ c, reader ⟨t, .start⟩ = .ok (v, c) ∧ c.skipBlanks.rest.isEmpty = true := by
  unfold readAll at h
  cases hr : reader (.ofText t) with
  | error f =>
    rw [hr] at h
    exact nomatch h
  | ok r =>
    obtain ⟨w, c⟩ := r
    rw [hr, ok_bind] at h
    dsimp only at h
    split at h
    · next hend =>
      obtain rfl := Except.ok.inj h
      exact ⟨c, hr, hend⟩
    · exact nomatch h

/-! ## Strings -/

/-- **What stands for a character in a string**: itself, an escape with one character, or one with
its number. -/
inductive Escapes : List Char → Char → Prop
  | plain {c : Char} (quote : c ≠ '"') (backslash : c ≠ '\\') (control : isControl c = false) :
    Escapes [c] c
  | simple {d c : Char} (h : simpleEscape? d = some c) : Escapes ['\\', d] c
  | number {x y z w c : Char} (h : Text.natIn? 16 [x, y, z, w] = some c.toNat) :
    Escapes ['\\', 'u', x, y, z, w] c

/-- The numbers of characters are no surrogates. -/
lemma not_surrogate (c : Char) :
    Text.isLowUnit c.toNat = false ∧ Text.isHighUnit c.toNat = false := by
  have hvalid : c.toNat < 0xD800 ∨ 0xDFFF < c.toNat ∧ c.toNat < 0x110000 := c.valid
  simp only [Text.isLowUnit, Text.isHighUnit, Bool.and_eq_false_iff, decide_eq_false_iff_not]
  omega

/-- The two digits of a control character. -/
lemma natIn?_hexDigits {n : ℕ} (hn : n < 0x20) :
    Text.natIn? 16 ['0', '0', hexDigit (n / 16), hexDigit (n % 16)] = some n := by
  have h : ∀ n : Fin 0x20, Text.natIn? 16 ['0', '0', hexDigit (n.val / 16), hexDigit (n.val % 16)] =
      some n.val := by decide
  exact h ⟨n, hn⟩

/-- **What is written for a character stands for it.** -/
lemma escapes_escape (c : Char) : Escapes (escape c) c := by
  unfold escape
  split
  · next h => subst h; exact .simple rfl
  split
  · next h => subst h; exact .simple rfl
  split
  · next h => subst h; exact .simple rfl
  split
  · next h => subst h; exact .simple rfl
  split
  · next h => subst h; exact .simple rfl
  split
  · next h => subst h; exact .simple rfl
  split
  · next h => subst h; exact .simple rfl
  split
  · next h => exact .number (natIn?_hexDigits h)
  · next hquote hbackslash _ _ _ _ _ hcontrol =>
    exact .plain hquote hbackslash (decide_eq_false hcontrol)

/-- An escape is read as its character. -/
lemma Escapes.readEscape {t : List Char} {c : Char} (h : Escapes ('\\' :: t) c) (rest : List Char)
    (p : Position) : ∃ q, Json.readEscape ⟨t ++ rest, p⟩ = .ok (c, ⟨rest, q⟩) := by
  cases h with
  | plain quote backslash control => exact absurd rfl backslash
  | @simple d c hd =>
    have hu : d ≠ 'u' := by
      rintro rfl
      exact nomatch hd
    exact ⟨_, by simp [Json.readEscape, hu, hd]; rfl⟩
  | @number x y z w c hn =>
    obtain ⟨hlow, hhigh⟩ := not_surrogate c
    refine ⟨(p.after 'u').afterAll [x, y, z, w], ?_⟩
    simp [Json.readEscape, readUnicode, readHex, hn, hlow, hhigh, bind, Except.bind, pure,
      Except.pure, Char.ofNat_toNat]

/-- What stands for a character is read as that character, whatever follows. -/
lemma Escapes.readChars {t : List Char} {c : Char} (h : Escapes t c) (fuel : ℕ) (rest : List Char)
    (p : Position) : ∃ q, Json.readChars (fuel + 1) ⟨t ++ rest, p⟩ =
      (Json.readChars fuel ⟨rest, q⟩).map fun r => (c :: r.1, r.2) := by
  have escaped : ∀ t, Escapes ('\\' :: t) c → ∃ q,
      Json.readChars (fuel + 1) ⟨'\\' :: t ++ rest, p⟩ =
        (Json.readChars fuel ⟨rest, q⟩).map fun r => (c :: r.1, r.2) := by
    intro t h
    obtain ⟨q, hq⟩ := h.readEscape rest (p.after '\\')
    refine ⟨q, ?_⟩
    rw [List.cons_append, Json.readChars]
    simp only [Cursor.next_cons, hq, if_neg (show '\\' ≠ '"' by decide), if_pos, ok_bind]
    cases Json.readChars fuel ⟨rest, q⟩ <;> rfl
  cases h with
  | plain quote backslash control =>
    refine ⟨p.after c, ?_⟩
    simp only [Json.readChars, List.singleton_append, quote, backslash, control, if_false,
      Cursor.next_cons]
    cases Json.readChars fuel ⟨rest, p.after c⟩ <;> rfl
  | simple hd => exact escaped _ (.simple hd)
  | number hn => exact escaped _ (.number hn)

lemma Escapes.length_pos {t : List Char} {c : Char} (h : Escapes t c) : 0 < t.length := by
  cases h <;> exact Nat.succ_pos _

/-- **The characters that stand between the quotes of a string**: each as itself or as an escape, or
as the escapes of the two surrogates of a pair. -/
inductive Denotes : List Char → List Char → Prop
  | nil : Denotes [] []
  | char {s t cs : List Char} {c : Char} (h : Escapes s c) (more : Denotes t cs) :
    Denotes (s ++ t) (c :: cs)
  | pair {x y z w x' y' z' w' : Char} {high low : ℕ} {t cs : List Char}
      (first : Text.natIn? 16 [x, y, z, w] = some high) (isHigh : Text.isHighUnit high = true)
      (second : Text.natIn? 16 [x', y', z', w'] = some low) (isLow : Text.isLowUnit low = true)
      (more : Denotes t cs) :
    Denotes ('\\' :: 'u' :: x :: y :: z :: w :: '\\' :: 'u' :: x' :: y' :: z' :: w' :: t)
      (Text.joinPair high low :: cs)

/-- Four digits are read as their number. -/
lemma readHex_cons {x y z w : Char} {n : ℕ} (h : Text.natIn? 16 [x, y, z, w] = some n)
    (t : List Char) (p : Position) :
    readHex ⟨x :: y :: z :: w :: t, p⟩ = .ok (n, ⟨t, p.afterAll [x, y, z, w]⟩) := by
  simp only [readHex, h]

/-- The escapes of a pair are read as the character of the pair. -/
lemma readEscape_pair {x y z w x' y' z' w' : Char} {high low : ℕ}
    (first : Text.natIn? 16 [x, y, z, w] = some high) (isHigh : Text.isHighUnit high = true)
    (second : Text.natIn? 16 [x', y', z', w'] = some low) (isLow : Text.isLowUnit low = true)
    (t : List Char) (p : Position) :
    ∃ q, readEscape ⟨'u' :: x :: y :: z :: w :: '\\' :: 'u' :: x' :: y' :: z' :: w' :: t, p⟩ =
      .ok (Text.joinPair high low, ⟨t, q⟩) := by
  -- no number is in both ranges
  have notLow : Text.isLowUnit high = false := by
    simp only [Text.isHighUnit, Text.isLowUnit, Bool.and_eq_true, Bool.and_eq_false_iff,
      decide_eq_true_eq, decide_eq_false_iff_not] at isHigh ⊢
    omega
  simp only [readEscape, if_pos, Cursor.next_cons, readUnicode, readHex_cons first, ok_bind, notLow,
    isHigh, Bool.false_eq_true, if_false, expectAfterSurrogate, readHex_cons second, isLow]
  exact ⟨_, rfl⟩

lemma Denotes.readChars {t cs : List Char} (h : Denotes t cs) {fuel : ℕ} (hfuel : cs.length < fuel)
    (rest : List Char) (p : Position) :
    ∃ q, Json.readChars fuel ⟨t ++ '"' :: rest, p⟩ = .ok (cs, ⟨rest, q⟩) := by
  induction h generalizing fuel p with
  | nil =>
    obtain ⟨fuel, rfl⟩ := Nat.exists_eq_add_one.2 hfuel
    exact ⟨_, rfl⟩
  | @char s t cs c hc _ ih =>
    obtain ⟨fuel, rfl⟩ := Nat.exists_eq_add_one.2 (Nat.zero_lt_of_lt hfuel)
    obtain ⟨q, hq⟩ := hc.readChars fuel (t ++ '"' :: rest) p
    obtain ⟨q', hq'⟩ := ih (Nat.lt_of_succ_lt_succ hfuel) q
    exact ⟨q', by rw [List.append_assoc, hq, hq']; rfl⟩
  | @pair x y z w x' y' z' w' high low t cs first isHigh second isLow _ ih =>
    obtain ⟨fuel, rfl⟩ := Nat.exists_eq_add_one.2 (Nat.zero_lt_of_lt hfuel)
    obtain ⟨q, hq⟩ := readEscape_pair first isHigh second isLow (t ++ '"' :: rest) (p.after '\\')
    obtain ⟨q', hq'⟩ := ih (Nat.lt_of_succ_lt_succ hfuel) q
    refine ⟨q', ?_⟩
    simp only [Json.readChars, List.cons_append, Cursor.next_cons, hq, hq', ok_bind,
      if_neg (show '\\' ≠ '"' by decide), if_pos]
    rfl

/-- Each character takes some of the text. -/
lemma Denotes.length_le {t cs : List Char} (h : Denotes t cs) : cs.length ≤ t.length := by
  induction h with
  | nil => exact Nat.le_refl 0
  | char hc _ ih =>
    have hpos := hc.length_pos
    rw [List.length_append, List.length_cons]
    omega
  | pair _ _ _ _ _ ih =>
    simp only [List.length_cons]
    omega

/-- **A string is read as what it stands for**, behind its opening quote. -/
theorem Denotes.readString {t : List Char} {s : String} (h : Denotes t s.toList) (rest : List Char)
    (p : Position) : ∃ q, Json.readString ⟨t ++ '"' :: rest, p⟩ = .ok (s, ⟨rest, q⟩) := by
  have hfuel : s.toList.length < (t ++ '"' :: rest).length + 1 := by
    have hle := h.length_le
    rw [List.length_append]
    omega
  obtain ⟨q, hq⟩ := h.readChars hfuel rest p
  refine ⟨q, ?_⟩
  simp only [Json.readString, hq]
  exact congrArg (fun s => Except.ok (s, _)) String.ofList_toList

/-- What the writer puts between quotes stands for the characters. -/
lemma denotes_flatMap_escape (cs : List Char) : Denotes (cs.flatMap escape) cs := by
  induction cs with
  | nil => exact .nil
  | cons c cs ih =>
    rw [List.flatMap_cons]
    exact .char (escapes_escape c) ih

/-- **A written string is read back**, behind its opening quote. -/
theorem readString_writeString (s : String) (rest : List Char) (p : Position) :
    ∃ q, readString ⟨s.toList.flatMap escape ++ '"' :: rest, p⟩ = .ok (s, ⟨rest, q⟩) :=
  (denotes_flatMap_escape s.toList).readString rest p

lemma writeString_append (s : String) (rest : List Char) :
    writeString s ++ rest = '"' :: (s.toList.flatMap escape ++ '"' :: rest) := by
  simp [writeString]

/-! ## Containers -/

/-- The texts in a container with a comma in front of each, except for the first of them all. -/
def separated : Bool → List (List Char) → List Char
  | _, [] => []
  | first, t :: ts => (if first then t else ',' :: t) ++ separated false ts

lemma separated_true (ts : List (List Char)) : separated true ts = commaSeparated ts := by
  induction ts with
  | nil => rfl
  | cons t ts ih =>
    cases ts with
    | nil => simp [separated, commaSeparated]
    | cons u ts =>
      rw [commaSeparated, List.intercalate_cons_cons, ← commaSeparated, ← ih]
      simp [separated]

/-- A comma or a closing character stands behind each value of a container. -/
lemma stops_separated {closing : Char} (h : closing = ']' ∨ closing = '\x7d')
    (ts : List (List Char)) (rest : List Char) : Stops (separated false ts ++ closing :: rest) := by
  cases ts with
  | nil => exact stops_cons (.inr h)
  | cons t ts => exact stops_cons (.inl rfl)

/-- There is fuel for all texts in a container. -/
lemma length_lt_fuel (opening : Char) (first : Bool) (ts : List (List Char)) (rest : List Char) :
    ts.length < (opening :: (separated first ts ++ rest)).length + 1 := by
  rw [List.length_cons, List.length_append]
  have hcommas : ∀ ts, ts.length ≤ (separated false ts).length := by
    intro ts
    induction ts with
    | nil => exact Nat.le_refl 0
    | cons t ts ih =>
      simp only [separated, Bool.false_eq_true, if_false, List.length_append, List.length_cons]
      omega
  cases ts with
  | nil => exact Nat.succ_pos _
  | cons t ts =>
    have hts := hcommas ts
    rw [separated, List.length_append, List.length_cons]
    omega

lemma writeArray_append (ts : List (List Char)) (rest : List Char) :
    writeArray ts ++ rest = '[' :: (separated true ts ++ ']' :: rest) := by
  simp [writeArray, separated_true]

section Items

variable {α : Type} {item : Cursor → Except Fault (α × Cursor)} {t : List Char} {v : α}

/-- An item begins where it stands, or behind the comma in front of it. -/
lemma Reads.nextItem (h : Reads item t v) (first : Bool) (ts : List (List Char)) (rest : List Char)
    (p : Position) :
    ∃ q, Cursor.nextItem first ⟨separated first (t :: ts) ++ rest, p⟩ =
      .ok (some ⟨t ++ (separated false ts ++ rest), q⟩) := by
  obtain ⟨ch, t', rfl, hblank, hclosing⟩ := h.starts
  cases first with
  | true =>
    exact ⟨p, by simp [Cursor.nextItem, separated, Cursor.skipBlanks_of_not_blank hblank, hclosing]⟩
  | false =>
    have hcomma := @Cursor.skipBlanks_of_not_blank ',' (ch :: (t' ++ (separated false ts ++ rest)))
      p (by decide)
    exact ⟨p.after ',', by
      simp [Cursor.nextItem, separated, hcomma, Cursor.skipBlanks_of_not_blank hblank, hclosing]⟩

/-- The items of an array are read back, from the first one on or behind it. -/
lemma readItems_separated {ts : List (List Char)} {vs : List α}
    (h : List.Forall₂ (Reads item) ts vs) {fuel : ℕ} (hfuel : ts.length < fuel) (first : Bool)
    (rest : List Char) (p : Position) :
    ∃ q, readItems item fuel first ⟨separated first ts ++ ']' :: rest, p⟩ =
      .ok (vs, ⟨rest, q⟩) := by
  induction h generalizing fuel first p with
  | nil =>
    obtain ⟨fuel, rfl⟩ := Nat.exists_eq_add_one.2 hfuel
    exact ⟨_, rfl⟩
  | @cons t v ts vs ht hts ih =>
    obtain ⟨fuel, rfl⟩ := Nat.exists_eq_add_one.2 (Nat.zero_lt_of_lt hfuel)
    -- what stands behind the item is a comma or the bracket, so that the item can be read
    obtain ⟨q, hnext⟩ := ht.nextItem first ts (']' :: rest) p
    obtain ⟨q', hitem⟩ := ht.reads q _ (stops_separated (.inl rfl) ts rest)
    obtain ⟨q'', hitems⟩ := ih (Nat.lt_of_succ_lt_succ hfuel) false q'
    refine ⟨q'', ?_⟩
    simp only [readItems, hnext, hitem, hitems, ok_bind]
    rfl

/-- **The items of a written array are read back.** -/
theorem readItems_writeArray {ts : List (List Char)} {vs : List α}
    (h : List.Forall₂ (Reads item) ts vs) (rest : List Char) (p : Position) :
    ∃ q, readItems item ((writeArray ts ++ rest).length + 1) true
      (Cursor.next ⟨writeArray ts ++ rest, p⟩) = .ok (vs, ⟨rest, q⟩) := by
  rw [writeArray_append]
  exact readItems_separated h (length_lt_fuel '[' true ts (']' :: rest)) true rest (p.after '[')

end Items

end ScriptStage.Json
