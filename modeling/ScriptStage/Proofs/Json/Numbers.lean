import Mathlib.Data.List.TakeWhile
import ScriptStage.Proofs.Json.Reading

/-!
# Numbers that are read back

An integer is read back digit by digit, since 64 bits hold it. A double is read back if its text is
when it stands alone: what can stand behind a number takes no part in reading it. That a text with
the fewest digits denotes the double that it was made of is not said here, for the reader rounds
more than once.

## Main definitions

* `ScriptStage.Json.Ahead` — a cursor with more text at its end.
* `ScriptStage.Json.Longer` — a reading that goes on in the same way before more text.
* `ScriptStage.Json.NoBlanks` — a text without blanks.
* `ScriptStage.Json.ReadsBack` — a number is the one that its text denotes.

## Main results

* `ScriptStage.Json.reads_int` — integers are read back.
* `ScriptStage.Json.reads_double` — a double is read back if it is when it stands alone.
-/

set_option autoImplicit false

namespace ScriptStage.Json

open Decimal

variable {rest : List Char}

/-! ## Digits -/

lemma isDigit_of_mem_digitsOf {n : ℕ} {c : Char} (h : c ∈ Notation.digitsOf n) :
    Text.isDigit c = true := by
  have hc := Nat.isDigit_of_mem_toDigits (by decide) (by decide) h
  simpa [Text.isDigit, Char.isDigit, Char.le_def] using hc

lemma natOf_digitsOf (n : ℕ) : Text.natOf (Notation.digitsOf n) = n := by
  have h := @Nat.ofDigitChars_ten_toDigits n
  rw [Nat.ofDigitChars_eq_foldl] at h
  have hdigit : (fun n c => n * 10 + Text.digitValue c) =
      fun (n : ℕ) (c : Char) => 10 * n + (c.toNat - '0'.toNat) := by
    funext n c
    rw [Nat.mul_comm, Text.digitValue]
  rw [Text.natOf, hdigit]
  exact h

/-- Only zero starts with the digit zero. -/
lemma head_digitsOf {n : ℕ} (hn : 0 < n) : (Notation.digitsOf n).head? ≠ some '0' := by
  induction n using Nat.strongRecOn with
  | ind n ih =>
    unfold Notation.digitsOf
    rcases Nat.lt_or_ge n 10 with h | h
    · rw [Nat.toDigits_of_lt_base h]
      simpa [Nat.digitChar_eq_zero] using Nat.ne_of_gt hn
    · have hrest := ih (n / 10) (Nat.div_lt_self hn (by decide)) (Nat.div_pos h (by decide))
      obtain ⟨c, t, ht⟩ := List.exists_cons_of_ne_nil (@Nat.toDigits_ne_nil (n / 10) 10)
      rw [Notation.digitsOf, ht] at hrest
      rw [Nat.toDigits_of_base_le (by decide) h, ht]
      exact hrest

/-- Digits that 64 bits hold are all absorbed. -/
lemma absorb_eq {s : ℕ} {ds : List Char}
    (h : ds.foldl (fun n c => n * 10 + Text.digitValue c) s < 0x10000000000000000) :
    absorb s ds = (ds.foldl (fun n c => n * 10 + Text.digitValue c) s, []) := by
  have grows : ∀ (ds : List Char) (s : ℕ),
      s ≤ ds.foldl (fun n c => n * 10 + Text.digitValue c) s := by
    intro ds
    induction ds with
    | nil => exact fun s => Nat.le_refl s
    | cons c ds ih =>
      intro s
      have hs : s ≤ s * 10 + Text.digitValue c := by omega
      exact Nat.le_trans hs (ih _)
  induction ds generalizing s with
  | nil => rfl
  | cons c ds ih =>
    rw [List.foldl_cons] at h ⊢
    have hlonger := Nat.lt_of_le_of_lt (grows ds _) h
    rw [absorb, if_pos hlonger, ih h]

lemma ofDigits_digitsOf {n : ℕ} (h : n < 0x10000000000000000) :
    Scaled.ofDigits (Notation.digitsOf n) = ⟨n, 0⟩ := by
  have hn : (Notation.digitsOf n).foldl (fun n c => n * 10 + Text.digitValue c) 0 = n :=
    natOf_digitsOf n
  rw [Scaled.ofDigits, absorb_eq (by rw [hn]; exact h), hn]
  rfl

/-! ## Numbers before more text -/

/-- **A cursor with more text at its end.** -/
def Ahead (rest : List Char) (c c' : Cursor) : Prop :=
  c'.rest = c.rest ++ rest

/-- Nothing that can stand behind a number takes part in it. -/
lemma nextIs_of_stops (stops : Stops rest) {test : Char → Bool}
    (h : test ',' = false ∧ test ']' = false ∧ test '\x7d' = false) (p : Position) :
    Cursor.nextIs ⟨rest, p⟩ test = false := by
  cases rest with
  | nil => rfl
  | cons ch rest => rcases stops ch rfl with rfl | rfl | rfl <;> simp [h]

/-- No digits stand behind a number. -/
lemma digits_append (stops : Stops rest) (t : List Char) :
    (t ++ rest).takeWhile Text.isDigit = t.takeWhile Text.isDigit ∧
      (t ++ rest).dropWhile Text.isDigit = t.dropWhile Text.isDigit ++ rest := by
  induction t with
  | nil =>
    cases rest with
    | nil => exact ⟨rfl, rfl⟩
    | cons ch rest => rcases stops ch rfl with rfl | rfl | rfl <;> exact ⟨rfl, rfl⟩
  | cons ch t ih =>
    obtain ⟨htake, hdrop⟩ := ih
    cases h : Text.isDigit ch <;> simp [h, htake, hdrop]

namespace Ahead

variable {c c' : Cursor}

/-- What comes next is the same, unless it is what stands behind the number. -/
lemma nextIs (h : Ahead rest c c') (stops : Stops rest) {test : Char → Bool}
    (ht : test ',' = false ∧ test ']' = false ∧ test '\x7d' = false) :
    c'.nextIs test = c.nextIs test := by
  obtain ⟨t, p⟩ := c
  obtain ⟨t', p'⟩ := c'
  obtain rfl : t' = t ++ rest := h
  cases t with
  | nil => exact nextIs_of_stops stops ht p'
  | cons ch t => rfl

/-- Both can go on behind the next character. -/
lemma next (h : Ahead rest c c') {test : Char → Bool} (hc : c.nextIs test = true) :
    Ahead rest c.next c'.next ∧ c.next.rest <:+ c.rest := by
  obtain ⟨t, p⟩ := c
  obtain ⟨t', p'⟩ := c'
  obtain rfl : t' = t ++ rest := h
  cases t with
  | nil => exact nomatch hc
  | cons ch t => exact ⟨rfl, List.suffix_cons ch t⟩

/-- The same digits are taken. -/
lemma takeDigits (h : Ahead rest c c') (stops : Stops rest) :
    ∃ ds d d', c.takeDigits = (ds, d) ∧ c'.takeDigits = (ds, d') ∧ Ahead rest d d' ∧
      d.rest <:+ c.rest := by
  obtain ⟨t, p⟩ := c
  obtain ⟨t', p'⟩ := c'
  obtain rfl : t' = t ++ rest := h
  obtain ⟨htake, hdrop⟩ := digits_append stops t
  exact ⟨_, _, _, rfl, Prod.ext htake rfl, hdrop, List.dropWhile_suffix _⟩

/-- The same sign is taken. -/
lemma exponentSign (h : Ahead rest c c') (stops : Stops rest) :
    ∃ down d d', c.exponentSign = (down, d) ∧ c'.exponentSign = (down, d') ∧ Ahead rest d d' ∧
      d.rest <:+ c.rest := by
  obtain ⟨t, p⟩ := c
  obtain ⟨t', p'⟩ := c'
  obtain rfl : t' = t ++ rest := h
  cases t with
  | nil =>
    have hnone : Cursor.exponentSign ⟨rest, p'⟩ = (false, ⟨rest, p'⟩) := by
      cases rest with
      | nil => rfl
      | cons ch rest => rcases stops ch rfl with rfl | rfl | rfl <;> rfl
    exact ⟨_, _, _, rfl, hnone, rfl, List.suffix_rfl⟩
  | cons ch t =>
    by_cases hplus : ch = '+'
    · subst hplus
      exact ⟨_, _, _, rfl, rfl, rfl, List.suffix_cons _ t⟩
    by_cases hminus : ch = '-'
    · subst hminus
      exact ⟨_, _, _, rfl, rfl, rfl, List.suffix_cons _ t⟩
    · refine ⟨false, ⟨ch :: t, p⟩, ⟨ch :: t ++ rest, p'⟩, ?_, ?_, rfl, List.suffix_rfl⟩ <;>
        simp [Cursor.exponentSign, hplus, hminus]

end Ahead

/-- What makes no number of anything reads no number. -/
lemma map_ne_num {β : Type} {r : Except Fault β} {f : β → Json × Cursor}
    (hf : ∀ b n, (f b).1 ≠ .num n) {n : Number} {c : Cursor} :
    (r >>= fun b => .ok (f b)) ≠ .ok (.num n, c) := by
  cases r with
  | error e => exact nofun
  | ok b => exact fun h => hf b n (congrArg Prod.fst (Except.ok.inj h))

/-- **A reading that goes on in the same way** before more text, and leaves some of its own text or
none. -/
def Longer {α : Type} (rest t : List Char) (r r' : Except Fault (α × Cursor)) : Prop :=
  ∀ v c, r = .ok (v, c) → c.rest <:+ t ∧ ∃ c', r' = .ok (v, c') ∧ Ahead rest c c'

namespace Longer

variable {c c' : Cursor} {t : List Char}

lemma error {α : Type} (f : Fault) (r' : Except Fault (α × Cursor)) : Longer rest t (.error f) r' :=
  fun _ _ h => nomatch h

lemma ok {α : Type} (h : Ahead rest c c') (ht : c.rest <:+ t) (v : α) :
    Longer rest t (.ok (v, c)) (.ok (v, c')) := by
  intro w d hd
  obtain ⟨rfl, rfl⟩ := Prod.mk.inj (Except.ok.inj hd)
  exact ⟨ht, c', rfl, h⟩

lemma finishFloat (h : Ahead rest c c') (ht : c.rest <:+ t) (negative : Bool) (v : Scaled) :
    Longer rest t (finishFloat negative v c) (finishFloat negative v c') := by
  unfold Json.finishFloat
  split
  · exact ok h ht _
  · exact error _ _

lemma readExponent (h : Ahead rest c c') (ht : c.rest <:+ t) (stops : Stops rest)
    (negative : Bool) (v : Scaled) :
    Longer rest t (readExponent negative v c) (readExponent negative v c') := by
  unfold Json.readExponent
  rw [h.nextIs stops (by decide)]
  split
  · next he =>
    obtain ⟨hnext, ht₁⟩ := h.next he
    obtain ⟨down, c₁, c₁', hc₁, hc₁', h₁, ht₂⟩ := hnext.exponentSign stops
    obtain ⟨ds, c₂, c₂', hc₂, hc₂', h₂, ht₃⟩ := h₁.takeDigits stops
    have hleft : c₂.rest <:+ t := ht₃.trans (ht₂.trans (ht₁.trans ht))
    simp only [hc₁, hc₁', hc₂, hc₂']
    split
    · exact error _ _
    · split
      · split
        · exact error _ _
        · exact ok h₂ hleft _
      · exact finishFloat h₂ hleft negative _
  · exact finishFloat h ht negative v

/-- **A number is read in the same way** before what can stand behind it. -/
lemma readNumber (h : Ahead rest c c') (ht : c.rest <:+ t) (stops : Stops rest)
    (negative : Bool) :
    Longer rest t (readNumber negative c) (readNumber negative c') := by
  unfold Json.readNumber
  obtain ⟨ds, c₁, c₁', hc₁, hc₁', h₁, ht₁⟩ := h.takeDigits stops
  simp only [hc₁, hc₁']
  split
  · exact error _ _
  · exact error _ _
  rw [h₁.nextIs stops (by decide)]
  split
  · next hpoint =>
    obtain ⟨hnext, ht₂⟩ := h₁.next hpoint
    obtain ⟨fs, c₂, c₂', hc₂, hc₂', h₂, ht₃⟩ := hnext.takeDigits stops
    simp only [hc₂, hc₂']
    split
    · exact error _ _
    · exact readExponent h₂ (ht₃.trans (ht₂.trans (ht₁.trans ht))) stops negative _
  · rw [h₁.nextIs stops (by decide)]
    split
    · exact ok h₁ (ht₁.trans ht) _
    · exact readExponent h₁ (ht₁.trans ht) stops negative _

/-- A scalar that is a number is the same number before what can stand behind it. -/
lemma readScalar {ch : Char} {u : List Char} {n : Number} {p : Position}
    (h : readScalar ⟨ch :: u, p⟩ = .ok (.num n, c)) (stops : Stops rest) (p' : Position) :
    c.rest <:+ ch :: u ∧ ∃ c', Json.readScalar ⟨ch :: u ++ rest, p'⟩ = .ok (.num n, c') ∧
      Ahead rest c c' := by
  unfold Json.readScalar at h ⊢
  simp only [List.cons_append] at h ⊢
  split at h
  · exact absurd h (map_ne_num fun _ _ => Json.noConfusion)
  split at h
  · exact absurd h (map_ne_num fun _ _ => Json.noConfusion)
  split at h
  · exact absurd h (map_ne_num fun _ _ => Json.noConfusion)
  next hnull htrue hfalse =>
  simp only [hnull, htrue, hfalse, if_false]
  split at h
  · next hminus =>
    have ahead : Ahead rest ⟨u, p.after ch⟩ ⟨u ++ rest, p'.after ch⟩ := rfl
    rw [if_pos hminus]
    exact readNumber ahead (List.suffix_cons ch u) stops true _ _ h
  next hminus =>
  rw [if_neg hminus]
  split at h
  · next hdigit =>
    have ahead : Ahead rest ⟨ch :: u, p⟩ ⟨ch :: (u ++ rest), p'⟩ := rfl
    rw [if_pos hdigit]
    exact readNumber ahead List.suffix_rfl stops false _ _ h
  next hdigit =>
  split at h
  · exact absurd h (map_ne_num fun _ _ => Json.noConfusion)
  · exact nomatch h

end Longer

/-! ## Numbers as values -/

/-- What starts neither an array nor an object is a scalar. -/
lemma readValue_eq_readScalar {ch : Char} (hblank : Cursor.isBlank ch = false) (harr : ch ≠ '[')
    (hobj : ch ≠ '\x7b') (depth : ℕ) (t : List Char) (p : Position) :
    readValue depth ⟨ch :: t, p⟩ = readScalar ⟨ch :: t, p⟩ := by
  unfold readValue
  simp [Cursor.skipBlanks_of_not_blank hblank, harr, hobj]

/-- The digits of an integer that 64 bits hold. -/
lemma readNumber_digitsOf {n : ℕ} (hn : n < 0x10000000000000000) (negative : Bool)
    (stops : Stops rest) (p : Position) :
    ∃ q, readNumber negative ⟨Notation.digitsOf n ++ rest, p⟩ =
      .ok (ofSigned negative n, ⟨rest, q⟩) := by
  have hall : ∀ c ∈ Notation.digitsOf n, Text.isDigit c = true := fun _ => isDigit_of_mem_digitsOf
  obtain ⟨htake, hdrop⟩ := digits_append stops (Notation.digitsOf n)
  rw [List.takeWhile_eq_self_iff.2 hall] at htake
  rw [List.dropWhile_eq_nil_iff.2 hall, List.nil_append] at hdrop
  have hdigits : Cursor.takeDigits ⟨Notation.digitsOf n ++ rest, p⟩ =
      (Notation.digitsOf n, ⟨rest, p.afterAll (Notation.digitsOf n)⟩) := by
    simp only [Cursor.takeDigits, htake, hdrop]
  refine ⟨p.afterAll (Notation.digitsOf n), ?_⟩
  simp only [readNumber, hdigits]
  split
  · next h => exact absurd h Nat.toDigits_ne_nil
  · next d ds h =>
    -- only zero starts with the digit zero, and it has no other digits
    rcases Nat.eq_zero_or_pos n with rfl | hpos
    · exact nomatch h
    · exact absurd (by rw [h]; rfl) (head_digitsOf hpos)
  · rw [ofDigits_digitsOf hn, nextIs_of_stops stops (by decide), nextIs_of_stops stops (by decide)]
    rfl

/-- A digit starts a number and nothing else. -/
lemma readScalar_digit {ch : Char} (h : Text.isDigit ch = true) (t : List Char) (p : Position) :
    Cursor.isBlank ch = false ∧ ch ≠ ']' ∧ ch ≠ '[' ∧ ch ≠ '\x7b' ∧
      readScalar ⟨ch :: t, p⟩ = readNumber false ⟨ch :: t, p⟩ := by
  have hne : ∀ d, Text.isDigit d = false → ch ≠ d := by
    rintro d hd rfl
    exact nomatch h.symm.trans hd
  refine ⟨?_, hne _ (by decide), hne _ (by decide), hne _ (by decide), ?_⟩
  · simp [Cursor.isBlank, hne ' ' (by decide), hne '\n' (by decide), hne '\t' (by decide),
      hne '\r' (by decide)]
  · simp [readScalar, hne 'n' (by decide), hne 't' (by decide), hne 'f' (by decide),
      hne '-' (by decide), h]

/-- An integer with its sign. -/
lemma ofSigned_natAbs {n : ℤ} (fits : Fits n) :
    ofSigned (decide (n < 0)) n.natAbs = .num (.int n fits) := by
  have hof : ofInt n = .num (.int n fits) := dif_pos fits
  obtain ⟨hlow, hhigh⟩ := fits
  unfold ofSigned
  by_cases hneg : n < 0
  · rw [decide_eq_true hneg, if_pos rfl, if_neg (by omega), if_pos (by omega), ← hof]
    congr 1
    omega
  · rw [decide_eq_false hneg, if_neg Bool.false_ne_true, ← hof]
    congr 1
    omega

/-- **Integers are read back.** -/
theorem reads_int (n : ℤ) (fits : Fits n) (depth : ℕ) :
    Reads (readValue depth) (writeNumber (.int n fits)) (.num (.int n fits)) := by
  have hlt : n.natAbs < 0x10000000000000000 := by
    obtain ⟨hlow, hhigh⟩ := fits
    omega
  have hsigned := ofSigned_natAbs fits
  rw [writeNumber, writeInt]
  split
  · next hneg =>
    rw [decide_eq_true hneg] at hsigned
    refine ⟨⟨'-', _, rfl, by decide, by decide⟩, fun p rest stops => ?_⟩
    obtain ⟨q, hq⟩ := readNumber_digitsOf hlt true stops (p.after '-')
    refine ⟨q, ?_⟩
    rw [List.cons_append, readValue_eq_readScalar (by decide) (by decide) (by decide)]
    simpa [readScalar, hsigned] using hq
  · next hpos =>
    rw [decide_eq_false hpos] at hsigned
    obtain ⟨ch, t, ht⟩ := List.exists_cons_of_ne_nil (@Nat.toDigits_ne_nil n.natAbs 10)
    have hdigit : Text.isDigit ch = true :=
      isDigit_of_mem_digitsOf (n := n.natAbs) (by rw [Notation.digitsOf, ht]; exact .head _)
    refine ⟨?_, fun p rest stops => ?_⟩
    · obtain ⟨hblank, hclosing, -⟩ := readScalar_digit hdigit t .start
      exact ⟨ch, t, ht, hblank, hclosing⟩
    · obtain ⟨q, hq⟩ := readNumber_digitsOf hlt false stops p
      obtain ⟨hblank, -, harr, hobj, hread⟩ := readScalar_digit hdigit (t ++ rest) p
      refine ⟨q, ?_⟩
      rw [Notation.digitsOf, ht, List.cons_append, hsigned] at hq
      rw [Notation.digitsOf, ht, List.cons_append, readValue_eq_readScalar hblank harr hobj, hread,
        hq]

/-! ## Doubles -/

/-- A text without blanks. -/
def NoBlanks (t : List Char) : Prop :=
  ∀ ch ∈ t, Cursor.isBlank ch = false

instance (t : List Char) : Decidable (NoBlanks t) :=
  List.decidableBAll (fun ch => Cursor.isBlank ch = false) t

namespace NoBlanks

lemma append {s t : List Char} (hs : NoBlanks s) (ht : NoBlanks t) : NoBlanks (s ++ t) :=
  List.forall_mem_append.2 ⟨hs, ht⟩

lemma cons {ch : Char} {t : List Char} (hch : Cursor.isBlank ch = false) (ht : NoBlanks t) :
    NoBlanks (ch :: t) :=
  List.forall_mem_cons.2 ⟨hch, ht⟩

lemma zeros (n : ℕ) : NoBlanks (List.replicate n '0') := by
  intro ch h
  rw [List.eq_of_mem_replicate h]
  rfl

lemma digitsOf (n : ℕ) : NoBlanks (Notation.digitsOf n) :=
  fun _ h => (readScalar_digit (isDigit_of_mem_digitsOf h) [] .start).1

/-- A cursor behind blanks that are none stays where it is. -/
lemma rest_eq_nil {c : Cursor} (h : NoBlanks c.rest) (hend : c.skipBlanks.rest.isEmpty = true) :
    c.rest = [] := by
  obtain ⟨t, p⟩ := c
  cases t with
  | nil => rfl
  | cons ch t =>
    rw [Cursor.skipBlanks_of_not_blank (h ch (.head t))] at hend
    exact nomatch hend

end NoBlanks

section Layout

variable (f : Notation)

lemma noBlanks_exponentPart (e : ℤ) : NoBlanks (f.exponentPart e) := by
  have hdigits : NoBlanks (Notation.padZeros f.exponentWidth (Notation.digitsOf e.natAbs)) :=
    .append (.zeros _) (.digitsOf _)
  have hsign : NoBlanks (if e < 0 then ['-'] else if f.exponentPlus then ['+'] else []) := by
    split_ifs <;> decide
  exact .cons rfl (hsign.append hdigits)

/-- A laid out value has digits, a point and an exponent, but no blanks. -/
lemma noBlanks_layout (d : Digits) : NoBlanks (f.layout d) := by
  have hdigits : NoBlanks (Notation.digitsOf d.digits) := .digitsOf _
  unfold Notation.layout
  dsimp only
  split
  · split
    · have hpoint : NoBlanks (if f.pointZero then ['.', '0'] else []) := by
        split_ifs <;> decide
      exact (hdigits.append (.zeros _)).append hpoint
    split
    · exact .append (fun ch h => hdigits ch (List.mem_of_mem_take h))
        (.cons rfl fun ch h => hdigits ch (List.mem_of_mem_drop h))
    · exact .cons rfl (.cons rfl (.append (.zeros _) hdigits))
  · split
    · next c h => exact .cons (hdigits c (by simp [h])) (noBlanks_exponentPart f _)
    · next c cs _ h =>
      rw [h] at hdigits
      obtain ⟨hc, hcs⟩ := List.forall_mem_cons.1 hdigits
      exact .cons hc (.cons rfl (.append hcs (noBlanks_exponentPart f _)))
    · exact nofun

end Layout

/-- There are no blanks in the text of a double. -/
lemma noBlanks_render (x : Float) : NoBlanks (number.render x) := by
  have hnull : NoBlanks "null".toList := by decide
  have hsign : ∀ signed : Bool, NoBlanks (if signed then ['-'] else []) := by decide
  unfold Notation.render
  split
  · exact hnull
  · dsimp only
    split
    · exact .append (hsign _) hnull
    · exact .append (hsign _) (noBlanks_layout _ _)

/-- What is read as a number starts neither an array nor an object. -/
lemma readScalar_of_readValue_num {ch : Char} (hblank : Cursor.isBlank ch = false) {depth : ℕ}
    {u : List Char} {p : Position} {n : Number} {c : Cursor}
    (h : readValue depth ⟨ch :: u, p⟩ = .ok (.num n, c)) :
    ch ≠ '[' ∧ ch ≠ '\x7b' ∧ readScalar ⟨ch :: u, p⟩ = .ok (.num n, c) := by
  unfold readValue at h
  simp only [Cursor.skipBlanks_of_not_blank hblank, Cursor.nextIs_cons, decide_eq_true_eq] at h
  split at h
  · cases depth with
    | zero => exact nomatch h
    | succ depth => exact absurd h (map_ne_num fun _ _ => Json.noConfusion)
  next harr =>
  split at h
  · cases depth with
    | zero => exact nomatch h
    | succ depth => exact absurd h (map_ne_num fun _ _ => Json.noConfusion)
  next hobj => exact ⟨harr, hobj, h⟩

/-- **A number is the one that its text denotes.** For a double this is up to what the reader makes
of the digits. -/
def ReadsBack (n : Number) : Prop :=
  parse (writeNumber n) = .ok (num n)

/-- **A double is read back** if it is when its text stands alone.

**Proof sketch.** There are no blanks in the text, so that the number takes all of it, and it is
read in the same way when something stands behind it. -/
theorem reads_double {x : Float} {finite : x.isFinite = true} (alone : ReadsBack (.float x finite))
    (depth : ℕ) :
    Reads (readValue depth) (writeNumber (.float x finite)) (.num (.float x finite)) := by
  have hblanks : NoBlanks (writeNumber (.float x finite)) := noBlanks_render x
  obtain ⟨c, hread, hend⟩ := ok_of_readAll alone
  cases ht : writeNumber (.float x finite) with
  | nil =>
    rw [ht] at hread
    exact nomatch hread
  | cons ch u =>
    rw [ht] at hread hblanks
    have hblank : Cursor.isBlank ch = false := hblanks ch (.head u)
    obtain ⟨harr, hobj, hscalar⟩ := readScalar_of_readValue_num hblank hread
    have hclosing : ch ≠ ']' := by
      rintro rfl
      exact nomatch hscalar
    refine ⟨⟨ch, u, rfl, hblank, hclosing⟩, fun p rest stops => ?_⟩
    obtain ⟨hleft, ⟨rest', q⟩, hc', ahead⟩ := Longer.readScalar hscalar stops p
    -- the number takes all of its text, for nothing but blanks could be left of it
    have hnil : c.rest = [] := NoBlanks.rest_eq_nil (fun d hd => hblanks d (hleft.subset hd)) hend
    obtain rfl : rest' = rest := by simpa [Ahead, hnil] using ahead
    exact ⟨q, by rw [← hc', List.cons_append, readValue_eq_readScalar hblank harr hobj]⟩

/-- One and a half is a double that is read back. -/
lemma readsBack_three_halves (finite : (1.5 : Float).isFinite = true) :
    ReadsBack (.float 1.5 finite) := by
  have htext : number.render 1.5 = ['1', '.', '5'] := by decide +kernel
  have hdouble : Scaled.toFloat? ⟨15, -1⟩ false = some 1.5 := by
    rw [Scaled.toFloat?, Scaled.scale]
    decide +kernel
  have hread : readValue depthLimit ⟨['1', '.', '5'], .start⟩ =
      finishFloat false ⟨15, -1⟩ ⟨[], ⟨1, 3⟩⟩ := rfl
  have hfinish : finishFloat false ⟨15, -1⟩ ⟨[], ⟨1, 3⟩⟩ =
      .ok (num (.float 1.5 finite), ⟨[], ⟨1, 3⟩⟩) := by
    rw [finishFloat, hdouble]
    exact congrArg (fun v => Except.ok (v, _)) (dif_pos finite)
  rw [ReadsBack, writeNumber, htext, parse, readAll, Cursor.ofText, hread, hfinish]
  rfl

end ScriptStage.Json
