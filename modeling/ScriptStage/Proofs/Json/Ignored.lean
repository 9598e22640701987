import Mathlib.Data.List.TakeWhile
import ScriptStage.Proofs.Json.Grammar

/-!
# Values that are read past

The value of a field that nobody asks for is read past. This file shows that this never fails,
whatever the value is, and that it ends exactly behind the value: nothing of what stands behind a
value is taken for a part of it.

**Proof sketch.** The fuel is three times the length of the text. A container has two characters for
its brackets and takes two calls to get between them; each item has a character at least and takes
one call besides those for its value. So three times the length of a value is enough for it.

## Main definitions

* `ScriptStage.Json.Ignored` — a text is read past.

## Main results

* `ScriptStage.Json.IsScalar.ignored` — scalars are read past.
* `ScriptStage.Json.IsValue.ignored` — all values are.
* `ScriptStage.Json.IsValue.ignoreValue` — and there is enough fuel for it.
-/

set_option autoImplicit false

namespace ScriptStage.Json

variable {rest : List Char}

/-! ## Strings -/

lemma IsBody.ignoreChars {t : List Char} (h : IsBody t) {fuel : ℕ} (hfuel : t.length < fuel)
    (rest : List Char) (p : Position) :
    ∃ q, Json.ignoreChars fuel ⟨t ++ '"' :: rest, p⟩ = .ok ⟨rest, q⟩ := by
  have hquote : '\\' ≠ '"' := by decide
  induction h generalizing fuel p with
  | nil =>
    obtain ⟨fuel, rfl⟩ := Nat.exists_eq_add_one.2 hfuel
    exact ⟨_, rfl⟩
  | @plain c t quote backslash control _ ih =>
    obtain ⟨fuel, rfl⟩ := Nat.exists_eq_add_one.2 (Nat.zero_lt_of_lt hfuel)
    obtain ⟨q, hq⟩ := ih (Nat.lt_of_succ_lt_succ hfuel) (p.after c)
    refine ⟨q, ?_⟩
    simp only [Json.ignoreChars, List.cons_append, Cursor.next_cons, if_neg quote,
      if_neg backslash, control, Bool.false_eq_true, if_false, hq]
  | @simple d t hd _ ih =>
    obtain ⟨fuel, rfl⟩ := Nat.exists_eq_add_one.2 (Nat.zero_lt_of_lt hfuel)
    have hu : d ≠ 'u' := by
      rintro rfl
      exact nomatch hd
    have hlt : t.length < fuel := Nat.lt_of_succ_lt_succ (Nat.lt_of_succ_lt hfuel)
    obtain ⟨q, hq⟩ := ih hlt ((p.after '\\').after d)
    refine ⟨q, ?_⟩
    simp only [Json.ignoreChars, List.cons_append, Cursor.next_cons, if_neg hquote, if_pos,
      ignoreEscape, if_neg hu, hd, ok_bind, hq]
  | @number x y z w t hn _ ih =>
    obtain ⟨fuel, rfl⟩ := Nat.exists_eq_add_one.2 (Nat.zero_lt_of_lt hfuel)
    obtain ⟨n, hn⟩ := Option.isSome_iff_exists.1 hn
    have hlt : t.length < fuel := by
      simp only [List.length_cons] at hfuel
      omega
    obtain ⟨q, hq⟩ := ih hlt (((p.after '\\').after 'u').afterAll [x, y, z, w])
    refine ⟨q, ?_⟩
    simp only [Json.ignoreChars, List.cons_append, Cursor.next_cons, if_neg hquote, if_pos,
      ignoreEscape, readHex_cons hn, Except.map, ok_bind, hq]

/-- **A string is read past**, behind its opening quote. -/
lemma IsBody.ignoreString {t : List Char} (h : IsBody t) (rest : List Char) (p : Position) :
    ∃ q, Json.ignoreString ⟨t ++ '"' :: rest, p⟩ = .ok ⟨rest, q⟩ := by
  refine h.ignoreChars ?_ rest p
  rw [List.length_append]
  omega

/-! ## Numbers -/

/-- No digit comes next. -/
def NoDigit (rest : List Char) : Prop :=
  ∀ ch, rest.head? = some ch → Text.isDigit ch = false

lemma Delimits.noDigit (h : Delimits rest) : NoDigit rest :=
  fun _ hch => h.head_eq_false rfl hch

/-- All the digits are taken. -/
lemma IsDigits.takeDigits {ds : List Char} (h : IsDigits ds) (hrest : NoDigit rest) (p : Position) :
    Cursor.takeDigits ⟨ds ++ rest, p⟩ = (ds, ⟨rest, p.afterAll ds⟩) := by
  have htake : rest.takeWhile Text.isDigit = [] ∧ rest.dropWhile Text.isDigit = rest := by
    cases rest with
    | nil => exact ⟨rfl, rfl⟩
    | cons ch rest =>
      have hch := hrest ch rfl
      simp [hch]
  simp only [Cursor.takeDigits, List.takeWhile_append_of_pos h.2, List.dropWhile_append_of_pos h.2,
    htake, List.append_nil]

/-- A digit comes next. -/
lemma IsDigits.head {ds : List Char} (h : IsDigits ds) :
    ∃ d ds', ds = d :: ds' ∧ Text.isDigit d = true := by
  obtain ⟨d, ds', rfl⟩ := List.exists_cons_of_ne_nil h.1
  exact ⟨d, ds', rfl, h.2 d List.mem_cons_self⟩

/-- The sign of an exponent is taken. -/
lemma exponentSign_append {sign ds : List Char} (signed : sign ∈ [[], ['+'], ['-']])
    (h : IsDigits ds) (rest : List Char) (p : Position) :
    ∃ q, Cursor.exponentSign ⟨sign ++ (ds ++ rest), p⟩ =
      (decide (sign = ['-']), ⟨ds ++ rest, q⟩) := by
  obtain ⟨d, ds', rfl, hd⟩ := h.head
  have hplus : d ≠ '+' := by
    rintro rfl
    cases hd
  have hminus : d ≠ '-' := by
    rintro rfl
    cases hd
  simp only [List.mem_cons, List.not_mem_nil, or_false] at signed
  rcases signed with rfl | rfl | rfl
  · exact ⟨p, by simp [Cursor.exponentSign, hplus, hminus]⟩
  · exact ⟨_, rfl⟩
  · exact ⟨_, rfl⟩

/-- **An exponent is read past.** -/
lemma IsExponent.ignoreExponent {t : List Char} (h : IsExponent t) (hrest : Delimits rest)
    (p : Position) : ∃ q, Json.ignoreExponent ⟨t ++ rest, p⟩ = .ok ⟨rest, q⟩ := by
  cases h with
  | absent =>
    refine ⟨p, ?_⟩
    have hnext : Cursor.nextIs ⟨rest, p⟩ (fun ch => ch = 'e' || ch = 'E') = false :=
      hrest.nextIs rfl p
    simp only [List.nil_append, Json.ignoreExponent, hnext, Bool.false_eq_true, if_false]
  | @given e sign ds letter signed digits =>
    have he : (decide (e = 'e') || decide (e = 'E')) = true := by
      simpa using letter
    obtain ⟨q, hsign⟩ := exponentSign_append signed digits rest (p.after e)
    refine ⟨q.afterAll ds, ?_⟩
    have hempty : ds.isEmpty = false := by simpa using digits.1
    simp only [List.cons_append, List.append_assoc, Json.ignoreExponent, Cursor.nextIs_cons, he,
      if_true, Cursor.next_cons, hsign, digits.takeDigits hrest.noDigit, hempty, Bool.false_eq_true,
      if_false]

/-- Neither a digit nor a point stands in front of an exponent. -/
lemma IsExponent.head {t : List Char} (h : IsExponent t) (hrest : Delimits rest) :
    NoDigit (t ++ rest) ∧ ∀ p, Cursor.nextIs ⟨t ++ rest, p⟩ (· = '.') = false := by
  cases h with
  | absent => exact ⟨hrest.noDigit, hrest.nextIs rfl⟩
  | @given e sign ds letter signed digits =>
    have he : Text.isDigit e = false ∧ decide (e = '.') = false := by
      simp only [List.mem_cons, List.not_mem_nil, or_false] at letter
      rcases letter with rfl | rfl <;> decide
    refine ⟨fun ch hch => ?_, fun p => he.2⟩
    obtain rfl := Option.some.inj hch
    exact he.1

/-- **A number is read past**, behind its sign. -/
lemma ignoreNumber_append {whole fraction exponent : List Char} (digits : IsDigits whole)
    (zero : whole.head? = some '0' → whole = ['0']) (isFraction : IsFraction fraction)
    (isExponent : IsExponent exponent) (hrest : Delimits rest) (p : Position) :
    ∃ q, ignoreNumber ⟨whole ++ (fraction ++ (exponent ++ rest)), p⟩ = .ok ⟨rest, q⟩ := by
  obtain ⟨noDigit, noPoint⟩ := isExponent.head hrest
  have hfraction : NoDigit (fraction ++ (exponent ++ rest)) := by
    cases isFraction with
    | absent => exact noDigit
    | given => exact fun ch hch => Option.some.inj hch ▸ rfl
  simp only [ignoreNumber, digits.takeDigits hfraction]
  split
  · exact absurd rfl digits.1
  · exact nomatch zero rfl
  · cases isFraction with
    | absent =>
      obtain ⟨q, hq⟩ := isExponent.ignoreExponent hrest (p.afterAll whole)
      refine ⟨q, ?_⟩
      simp only [List.nil_append, noPoint, Bool.false_eq_true, if_false, hq]
    | @given ds hds =>
      obtain ⟨q, hq⟩ :=
        isExponent.ignoreExponent hrest (((p.afterAll whole).after '.').afterAll ds)
      refine ⟨q, ?_⟩
      have hempty : ds.isEmpty = false := by simpa using hds.1
      simp only [List.cons_append, Cursor.nextIs_cons, decide_true, if_true, Cursor.next_cons,
        hds.takeDigits noDigit, hempty, Bool.false_eq_true, if_false, hq]

/-! ## Scalars -/

/-- What a number begins with. -/
def BeginsNumber (ch : Char) : Prop :=
  ch = '-' ∨ Text.isDigit ch = true

/-- **What a scalar begins with.** -/
def BeginsScalar (ch : Char) : Prop :=
  ch ∈ ['n', 't', 'f', '"'] ∨ BeginsNumber ch

lemma BeginsNumber.ne {ch d : Char} (h : BeginsNumber ch)
    (hd : d ≠ '-' ∧ Text.isDigit d = false) : ch ≠ d := by
  rintro rfl
  rcases h with h | h
  · exact hd.1 h
  · exact Bool.false_ne_true (hd.2.symm.trans h)

/-- No other character begins a scalar. -/
lemma BeginsScalar.ne {ch d : Char} (h : BeginsScalar ch)
    (hd : d ∉ ['n', 't', 'f', '"'] ∧ d ≠ '-' ∧ Text.isDigit d = false) : ch ≠ d := by
  rcases h with h | h
  · exact fun heq => hd.1 (heq ▸ h)
  · exact h.ne hd.2

lemma BeginsScalar.isBlank {ch : Char} (h : BeginsScalar ch) : Cursor.isBlank ch = false := by
  simp [Cursor.isBlank, h.ne (d := ' ') (by decide), h.ne (d := '\n') (by decide),
    h.ne (d := '\t') (by decide), h.ne (d := '\r') (by decide)]

lemma IsNumber.head {t : List Char} (h : IsNumber t) : ∃ ch u, t = ch :: u ∧ BeginsNumber ch := by
  obtain ⟨signed, digits, -, -, -⟩ := h
  obtain ⟨d, ds, rfl, hd⟩ := digits.head
  simp only [List.mem_cons, List.not_mem_nil, or_false] at signed
  rcases signed with rfl | rfl
  · exact ⟨d, _, rfl, .inr hd⟩
  · exact ⟨'-', _, rfl, .inl rfl⟩

lemma IsScalar.head {t : List Char} (h : IsScalar t) : ∃ ch u, t = ch :: u ∧ BeginsScalar ch := by
  cases h with
  | null => exact ⟨_, _, rfl, .inl (by decide)⟩
  | bool b => cases b <;> exact ⟨_, _, rfl, .inl (by decide)⟩
  | text => exact ⟨_, _, rfl, .inl (by decide)⟩
  | number h =>
    obtain ⟨ch, u, rfl, hch⟩ := h.head
    exact ⟨ch, u, rfl, .inr hch⟩

/-- Words and strings do not begin like a number. -/
lemma ignoreScalar_digit {d : Char} (hd : Text.isDigit d = true) (u : List Char) (p : Position) :
    ignoreScalar ⟨d :: u, p⟩ = ignoreNumber ⟨d :: u, p⟩ := by
  have hne : ∀ e, Text.isDigit e = false → d ≠ e := by
    rintro e he rfl
    exact Bool.false_ne_true (he.symm.trans hd)
  simp only [ignoreScalar, if_neg (hne 'n' rfl), if_neg (hne 't' rfl), if_neg (hne 'f' rfl),
    if_neg (hne '-' rfl), hd, if_true]

/-- **A scalar is read past.** -/
theorem IsScalar.ignored {t : List Char} (h : IsScalar t) (hrest : Delimits rest) (p : Position) :
    ∃ q, ignoreScalar ⟨t ++ rest, p⟩ = .ok ⟨rest, q⟩ := by
  cases h with
  | null => exact ⟨_, rfl⟩
  | bool b => cases b <;> exact ⟨_, rfl⟩
  | @text t h =>
    have hread : ∀ u, ignoreScalar ⟨'"' :: u, p⟩ = ignoreString ⟨u, p.after '"'⟩ := fun _ => rfl
    rw [List.cons_append, List.append_assoc, List.singleton_append, hread]
    exact h.ignoreString rest _
  | number h =>
    obtain ⟨signed, digits, zero, isFraction, isExponent⟩ := h
    have hnumber := ignoreNumber_append digits zero isFraction isExponent hrest
    simp only [List.append_assoc]
    simp only [List.mem_cons, List.not_mem_nil, or_false] at signed
    rcases signed with rfl | rfl
    · obtain ⟨d, ds, rfl, hd⟩ := digits.head
      rw [List.nil_append, List.cons_append, ignoreScalar_digit hd]
      exact hnumber p
    · exact hnumber (p.after '-')

/-! ## Items -/

/-- **A text is read past**, whatever blanks stand in front of it. -/
def Ignored (t : List Char) : Prop :=
  ∀ {fuel : ℕ}, 3 * t.length ≤ fuel → ∀ {b : List Char}, Blanks b → ∀ {rest : List Char},
    Delimits rest → ∀ p, ∃ q, ignoreFrom fuel ⟨b ++ (t ++ rest), p⟩ = .ok ⟨rest, q⟩

variable {k : Container}

/-- A colon is found behind blanks. -/
lemma Blanks.colon {b : List Char} (h : Blanks b) (t : List Char) (p : Position) :
    ∃ q, Cursor.colon ⟨b ++ ':' :: t, p⟩ = .ok ⟨t, q⟩ := by
  obtain ⟨q, hq⟩ := h.skip ':' (by decide) t p
  refine ⟨q.after ':', ?_⟩
  simp only [Cursor.colon, hq, if_pos, Cursor.next_cons]

/-- Just blanks are left in front of the value of an item. -/
lemma IsFront.beginItem {front : List Char} (h : IsFront k front) (u : List Char) (p : Position) :
    ∃ b q, Blanks b ∧ Json.beginItem k ⟨front ++ u, p⟩ = .ok ⟨b ++ u, q⟩ := by
  cases h with
  | list h => exact ⟨_, p, h, rfl⟩
  | @object b key b' b'' lead isBody before behind =>
    obtain ⟨q, hq⟩ := lead.skip '"' (by decide) (key ++ '"' :: (b' ++ ':' :: (b'' ++ u))) p
    obtain ⟨q', hq'⟩ := isBody.ignoreString (b' ++ ':' :: (b'' ++ u)) (q.after '"')
    obtain ⟨q'', hq''⟩ := before.colon (b'' ++ u) q'
    refine ⟨b'', q'', behind, ?_⟩
    simp only [List.append_assoc, List.cons_append, Json.beginItem, ignoreKey, hq, if_pos,
      Cursor.next_cons, hq', ok_bind, hq'']

/-- Blanks in front of an item belong to it. -/
lemma IsItem.lead {v t b : List Char} (h : IsItem k v t) (hb : Blanks b) : IsItem k v (b ++ t) := by
  obtain ⟨front, back, hfront, hback, rfl⟩ := h
  refine ⟨b ++ front, back, ?_, hback, by rw [List.append_assoc]⟩
  cases hfront with
  | list h => exact .list (hb.append h)
  | object lead isBody before behind =>
    rw [← List.append_assoc]
    exact .object (hb.append lead) isBody before behind

lemma IsItem.length_le {v t : List Char} (h : IsItem k v t) : v.length ≤ t.length := by
  obtain ⟨front, back, -, -, rfl⟩ := h
  rw [List.length_append, List.length_append]
  omega

/-- One item is read past. Behind it the container ends or goes on. -/
lemma ignoreItems_item {v t : List Char} (h : IsItem k v t) (hv : Ignored v) {fuel : ℕ}
    (hfuel : 3 * v.length ≤ fuel) {ch : Char} (hch : ch = k.closing ∨ ch = ',') (u : List Char)
    (p : Position) :
    ∃ q, ignoreItems (fuel + 1) k ⟨t ++ ch :: u, p⟩ =
      if ch = k.closing then .ok ⟨u, q⟩ else ignoreItems fuel k ⟨u, q⟩ := by
  obtain ⟨front, back, hfront, hback, rfl⟩ := h
  -- the blanks behind the value end at the comma or at the closing character
  have hstop : Stops (ch :: u) := by
    refine stops_cons ?_
    rcases hch with rfl | rfl
    · cases k
      · exact .inr (.inl rfl)
      · exact .inr (.inr rfl)
    · exact .inl rfl
  have hblank : Cursor.isBlank ch = false := by
    rcases hch with rfl | rfl
    · cases k <;> rfl
    · rfl
  obtain ⟨b, q, hb, hbegin⟩ := hfront.beginItem (v ++ (back ++ ch :: u)) p
  obtain ⟨q', hq'⟩ := hv hfuel hb ((Delimits.of_stops hstop).blanks hback) q
  obtain ⟨q'', hskip⟩ := hback.skip ch hblank u q'
  refine ⟨q''.after ch, ?_⟩
  simp only [List.append_assoc, ignoreItems, hbegin, hq', ok_bind, hskip, Cursor.next_cons]
  split
  · rfl
  · next hne => rw [if_pos (hch.resolve_left hne)]

/-- **The items of a container are read past**, and its closing character with them. -/
lemma ignoreItems_items {vs ts : List (List Char)} (h : List.Forall₂ (IsItem k) vs ts)
    (hvs : ∀ v ∈ vs, Ignored v) {v t : List Char} (ht : IsItem k v t) (hv : Ignored v) {fuel : ℕ}
    (hfuel : 3 * (t ++ separated false ts).length + 1 ≤ fuel) (rest : List Char) (p : Position) :
    ∃ q, ignoreItems fuel k ⟨t ++ (separated false ts ++ k.closing :: rest), p⟩ =
      .ok ⟨rest, q⟩ := by
  have hcomma : ',' ≠ k.closing := by cases k <;> decide
  obtain ⟨fuel, rfl⟩ := Nat.exists_eq_add_one.2 (Nat.zero_lt_of_lt hfuel)
  induction h generalizing v t fuel p with
  | nil =>
    have hvalue : 3 * v.length ≤ fuel := by
      have hle := ht.length_le
      simp only [separated, List.append_nil] at hfuel
      omega
    obtain ⟨q, hq⟩ := ignoreItems_item ht hv hvalue (.inl rfl) rest p
    exact ⟨q, by rw [separated, List.nil_append, hq, if_pos rfl]⟩
  | @cons v' t' vs ts ht' hts ih =>
    obtain ⟨hv', hvs⟩ := List.forall_mem_cons.1 hvs
    have htext : ∀ u, separated false (t' :: ts) ++ u =
        ',' :: (t' ++ (separated false ts ++ u)) := by
      simp [separated]
    have hlength : 3 * v.length ≤ fuel ∧ 3 * (t' ++ separated false ts).length + 1 ≤ fuel := by
      have hle := ht.length_le
      have htext := congrArg List.length (htext [])
      simp only [List.length_append, List.length_cons, List.append_nil] at htext hfuel ⊢
      omega
    obtain ⟨q, hq⟩ := ignoreItems_item ht hv hlength.1 (.inr rfl)
      (t' ++ (separated false ts ++ k.closing :: rest)) p
    obtain ⟨fuel, rfl⟩ := Nat.exists_eq_add_one.2 (Nat.zero_lt_of_lt hlength.2)
    obtain ⟨q', hq'⟩ := ih hvs ht' hv' q fuel hlength.2
    exact ⟨q', by rw [htext, hq, if_neg hcomma, hq']⟩

/-! ## Values -/

/-- The character that a value begins with is neither a blank nor a closing one. -/
lemma IsValue.head {t : List Char} (h : IsValue t) :
    ∃ ch u, t = ch :: u ∧ Cursor.isBlank ch = false ∧ ∀ k : Container, ch ≠ k.closing := by
  cases h with
  | scalar h =>
    obtain ⟨ch, u, rfl, hch⟩ := h.head
    refine ⟨ch, u, rfl, hch.isBlank, fun k => ?_⟩
    cases k <;> exact hch.ne (by decide)
  | container k => cases k <;> exact ⟨_, _, rfl, by decide, fun k => by cases k <;> decide⟩

/-- What an item begins with, behind blanks, does not close the container. -/
lemma IsItem.head {v t : List Char} (h : IsItem k v t) (hv : IsValue v) (u : List Char)
    (p : Position) : ∃ ch u' q, Cursor.skipBlanks ⟨t ++ u, p⟩ = ⟨ch :: u', q⟩ ∧ ch ≠ k.closing := by
  obtain ⟨front, back, hfront, -, rfl⟩ := h
  cases hfront with
  | list h =>
    obtain ⟨ch, v, rfl, hblank, hclosing⟩ := hv.head
    obtain ⟨q, hq⟩ := h.skip ch hblank (v ++ (back ++ u)) p
    exact ⟨ch, _, q, by simpa using hq, hclosing .list⟩
  | @object b key b' b'' lead =>
    obtain ⟨q, hq⟩ := lead.skip '"' (by decide)
      (key ++ '"' :: (b' ++ ':' :: (b'' ++ (v ++ (back ++ u))))) p
    exact ⟨'"', _, q, by simpa using hq, by decide⟩

lemma Cursor.skipBlanks_skipBlanks (c : Cursor) : c.skipBlanks.skipBlanks = c.skipBlanks := by
  obtain ⟨t, p⟩ := c
  induction t generalizing p with
  | nil => rfl
  | cons ch t ih =>
    by_cases hch : isBlank ch = true
    · simpa [skipBlanks, skipFrom, hch] using ih (p.after ch)
    · rw [skipBlanks_of_not_blank (Bool.eq_false_iff.2 hch), skipBlanks_of_not_blank
        (Bool.eq_false_iff.2 hch)]

/-- Blanks that are skipped in front of an item need not be there. -/
lemma ignoreItems_skipBlanks (fuel : ℕ) (k : Container) (c : Cursor) :
    ignoreItems (fuel + 2) k c.skipBlanks = ignoreItems (fuel + 2) k c := by
  cases k with
  | list =>
    simp only [ignoreItems, beginItem, ok_bind, ignoreFrom, Cursor.skipBlanks_skipBlanks]
  | object =>
    simp only [ignoreItems, beginItem, ignoreKey, Cursor.skipBlanks_skipBlanks]

/-- What stands between the brackets of a container is read past, and the closing character with
it. -/
lemma ignoreFirst_items {vs ts : List (List Char)} (h : List.Forall₂ (IsItem k) vs ts)
    (values : ∀ v ∈ vs, IsValue v) (hvs : ∀ v ∈ vs, Ignored v) {b : List Char} (hb : Blanks b)
    {fuel : ℕ} (hfuel : 3 * (b ++ commaSeparated ts).length + 3 ≤ fuel) (rest : List Char)
    (p : Position) :
    ∃ q, ignoreFirst fuel k ⟨b ++ (commaSeparated ts ++ k.closing :: rest), p⟩ = .ok ⟨rest, q⟩ := by
  obtain ⟨fuel, rfl⟩ := Nat.exists_eq_add_of_le' (Nat.le_trans (Nat.le_add_left 3 _) hfuel)
  cases h with
  | nil =>
    have hclosing : Cursor.isBlank k.closing = false := by cases k <;> rfl
    obtain ⟨q, hq⟩ := hb.skip k.closing hclosing rest p
    refine ⟨q.after k.closing, ?_⟩
    have htext : b ++ (commaSeparated [] ++ k.closing :: rest) = b ++ k.closing :: rest := rfl
    simp only [htext, ignoreFirst, hq, if_pos, Cursor.next_cons]
  | @cons v t vs ts ht hts =>
    obtain ⟨hv, hvs⟩ := List.forall_mem_cons.1 hvs
    -- the blanks behind the bracket are taken for a part of the first item
    have htext : b ++ (commaSeparated (t :: ts) ++ k.closing :: rest) =
        b ++ t ++ (separated false ts ++ k.closing :: rest) := by
      simp [← separated_true, separated]
    have hlength : 3 * (b ++ t ++ separated false ts).length + 1 ≤ fuel + 2 := by
      simp only [← separated_true, separated, if_true, List.length_append] at hfuel ⊢
      omega
    have hitem := ht.lead hb
    obtain ⟨q, hq⟩ := ignoreItems_items hts hvs hitem hv hlength rest p
    obtain ⟨ch, u, q', hskip, hch⟩ := hitem.head (values v (.head vs))
      (separated false ts ++ k.closing :: rest) p
    refine ⟨q, ?_⟩
    rw [← ignoreItems_skipBlanks, hskip] at hq
    simp only [htext, ignoreFirst, hskip, if_neg hch, hq]

/-- **The text of a value is read past.** The induction is on the value; what stands in a container
has less fuel by the two calls that enter it and more by the two brackets. -/
theorem IsValue.ignored {t : List Char} (h : IsValue t) : Ignored t := by
  induction h with
  | @scalar t h =>
    intro fuel hfuel b hb rest hrest p
    obtain ⟨ch, u, rfl, hch⟩ := h.head
    have hpos : 0 < fuel := by
      rw [List.length_cons] at hfuel
      omega
    obtain ⟨fuel, rfl⟩ := Nat.exists_eq_add_one.2 hpos
    obtain ⟨q, hskip⟩ := hb.skip ch hch.isBlank (u ++ rest) p
    obtain ⟨q', hq'⟩ := h.ignored hrest q
    refine ⟨q', ?_⟩
    simp only [List.cons_append] at hq' ⊢
    simp only [ignoreFrom, hskip, Cursor.nextIs_cons, hch.ne (d := '[') (by decide),
      hch.ne (d := '\x7b') (by decide), decide_false, Bool.false_eq_true, if_false, hq']
  | @container k b vs ts blanks items values ih =>
    intro fuel hfuel b₀ hb₀ rest hrest p
    have hlength : 3 * (b ++ commaSeparated ts).length + 4 ≤ fuel := by
      simp only [List.length_cons, List.length_append, List.length_nil] at hfuel ⊢
      omega
    obtain ⟨fuel, rfl⟩ := Nat.exists_eq_add_of_le' (Nat.le_trans (Nat.le_add_left 1 _) hlength)
    have htext : k.opening :: (b ++ (commaSeparated ts ++ [k.closing])) ++ rest =
        k.opening :: (b ++ (commaSeparated ts ++ k.closing :: rest)) := by
      simp
    have hopening : Cursor.isBlank k.opening = false := by cases k <;> rfl
    obtain ⟨q, hskip⟩ :=
      hb₀.skip k.opening hopening (b ++ (commaSeparated ts ++ k.closing :: rest)) p
    obtain ⟨q', hq'⟩ := ignoreFirst_items items values (fun v hv => ih v hv) blanks
      (Nat.le_of_succ_le_succ hlength) rest (q.after k.opening)
    refine ⟨q', ?_⟩
    rw [htext, ignoreFrom, hskip, ← hq']
    cases k <;> rfl

/-- **There is fuel enough to read past a value**, whatever blanks stand in front of it. -/
theorem IsValue.ignoreValue {t : List Char} (h : IsValue t) {b : List Char} (hb : Blanks b)
    (hrest : Delimits rest) (p : Position) :
    ∃ q, Json.ignoreValue ⟨b ++ (t ++ rest), p⟩ = .ok ⟨rest, q⟩ := by
  refine h.ignored ?_ hb hrest p
  simp only [List.length_append]
  omega

end ScriptStage.Json
