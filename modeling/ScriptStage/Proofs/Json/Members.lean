import Mathlib.Data.List.Forall2
import ScriptStage.Proofs.Json.Ignored
import ScriptStage.Proofs.Json.Records

/-!
# Objects with any members

A record is read from an object whose members stand in any order, among others that the record does
not have, with any blanks between its parts and with keys and strings spelled in any way. This file
says exactly when such an object is read, and as what.

`ScriptStage.Json.Leads` follows the reader from draft to draft, as `ScriptStage.Json.Drafts` does
for what the writer leaves. It holds of the members alone: neither the blanks nor the fuel, nor what
stands behind the object, matter any more.

## Main definitions

* `ScriptStage.Json.IsMember`, `IsDocument` — the texts of a member and of a whole object.
* `ScriptStage.Json.IsNullable` — a string or `null`, as it is written.
* `ScriptStage.Json.Leads` — the members of an object take a draft to another one.

## Main results

* `ScriptStage.Json.readOptional_readText`, `ok_of_readOptional_readText` — exactly strings and
  `null` are read as such.
* `ScriptStage.Json.readAll_eq_ok_iff` — when an object is read as a record.
-/

set_option autoImplicit false

namespace ScriptStage.Json

/-! ## Objects -/

/-- **The text of a member of an object**, with its key and the text of its value. -/
inductive IsMember : String × List Char → List Char → Prop
  | mk {name : String} {v b key b' b'' back : List Char} (lead : Blanks b)
      (denotes : Denotes key name.toList) (before : Blanks b') (behind : Blanks b'')
      (trail : Blanks back) :
    IsMember (name, v) (b ++ '"' :: (key ++ '"' :: (b' ++ ':' :: (b'' ++ (v ++ back)))))

/-- **The text of an object with these members**, each with its key and the text of its value, in
this order. There may be blanks around the object. -/
inductive IsDocument (ms : List (String × List Char)) : List Char → Prop
  | mk {b b' b'' : List Char} {ts : List (List Char)} (lead : Blanks b) (inner : Blanks b')
      (members : List.Forall₂ IsMember ms ts) (values : ∀ m ∈ ms, IsValue m.2)
      (trail : Blanks b'') :
    IsDocument ms (b ++ '\x7b' :: (b' ++ (commaSeparated ts ++ '\x7d' :: b'')))

lemma IsDocument.values {ms : List (String × List Char)} {t : List Char} (h : IsDocument ms t) :
    ∀ m ∈ ms, IsValue m.2 := by
  cases h with
  | mk _ _ _ values => exact values

/-- **The text of a string or of `null`.** -/
inductive IsNullable : List Char → Option String → Prop
  | null : IsNullable writeNull none
  | text {body : List Char} {s : String} (denotes : Denotes body s.toList) :
    IsNullable ('"' :: (body ++ ['"'])) (some s)

/-- What the writer leaves of fields is an object with these members. -/
lemma isDocument_writeObject {fs : List (String × List Char)} (values : ∀ f ∈ fs, IsValue f.2) :
    IsDocument fs (writeObject fs) := by
  have members : List.Forall₂ IsMember fs (fieldTexts fs) := by
    refine List.forall₂_map_right_iff.2 (List.forall₂_same.2 fun f _ => ?_)
    simpa [writeField, writeString] using IsMember.mk (v := f.2) blanks_nil
      (denotes_flatMap_escape f.1.toList) blanks_nil blanks_nil blanks_nil
  exact .mk blanks_nil blanks_nil members values blanks_nil

/-! ## Strings and `null` -/

/-- What the writer leaves of a string or of `null` is the text of that. -/
lemma isNullable_writeString? (o : Option String) : IsNullable (writeString? o) o := by
  cases o with
  | none => exact .null
  | some s => exact .text (denotes_flatMap_escape s.toList)

lemma IsNullable.isValue {v : List Char} {o : Option String} (h : IsNullable v o) : IsValue v := by
  cases h with
  | null => exact .scalar .null
  | text denotes => exact .scalar (.text denotes.isBody)

section Nullable

variable {v b rest : List Char} {expected : String} {o : Option String}

/-- A string in quotes is read. -/
lemma readOptional_quote (expected : String) (hb : Blanks b) (u : List Char) (p : Position) :
    ∃ q, readOptional (readText expected) ⟨b ++ '"' :: u, p⟩ =
      (readString ⟨u, q⟩).map fun r => (some r.1, r.2) := by
  obtain ⟨q, hq⟩ := hb.skip '"' (by decide) u p
  refine ⟨q.after '"', ?_⟩
  simp only [readOptional, hq]
  rfl

/-- **Strings and `null` are read**, whatever stands around them. -/
lemma readOptional_readText (expected : String) (h : IsNullable v o) (hb : Blanks b)
    (rest : List Char) (p : Position) :
    ∃ q, readOptional (readText expected) ⟨b ++ (v ++ rest), p⟩ = .ok (o, ⟨rest, q⟩) := by
  cases h with
  | null =>
    obtain ⟨q, hq⟩ := hb.skip 'n' (by decide) ('u' :: 'l' :: 'l' :: rest) p
    have htext : b ++ (writeNull ++ rest) = b ++ 'n' :: 'u' :: 'l' :: 'l' :: rest := rfl
    simp only [htext, readOptional, hq]
    exact ⟨_, rfl⟩
  | @text body s denotes =>
    obtain ⟨q, hq⟩ := readOptional_quote expected hb (body ++ '"' :: rest) p
    obtain ⟨q', hq'⟩ := denotes.readString rest q
    refine ⟨q', ?_⟩
    have htext : '"' :: (body ++ ['"']) ++ rest = '"' :: (body ++ '"' :: rest) := by simp
    rw [htext, hq, hq']
    rfl

/-- What begins like no string and like no `null` is refused. -/
lemma readOptional_readText_ne {ch : Char} (hblank : Cursor.isBlank ch = false) (hn : ch ≠ 'n')
    (hquote : ch ≠ '"') (hb : Blanks b) (u : List Char) (p : Position)
    (r : Option String × Cursor) : readOptional (readText expected) ⟨b ++ ch :: u, p⟩ ≠ .ok r := by
  obtain ⟨q, hq⟩ := hb.skip ch hblank u p
  intro h
  simp only [readOptional, hq, Cursor.nextIs_cons, decide_eq_false hn, Bool.false_eq_true, if_false,
    readText, Cursor.skipBlanks_of_not_blank hblank, decide_eq_false hquote] at h
  exact nomatch h

/-- **Nothing else is read.** -/
lemma ok_of_readOptional_readText (h : IsValue v) (hb : Blanks b) {p : Position} {c : Cursor}
    (hread : readOptional (readText expected) ⟨b ++ (v ++ rest), p⟩ = .ok (o, c)) :
    c.rest = rest ∧ IsNullable v o := by
  cases h with
  | container k =>
    cases k <;> exact absurd hread
      (readOptional_readText_ne (by decide) (by decide) (by decide) hb _ p _)
  | scalar h =>
    cases h with
    | null =>
      obtain ⟨q, hq⟩ := readOptional_readText expected .null hb rest p
      obtain ⟨rfl, rfl⟩ := Prod.mk.inj (Except.ok.inj (hq.symm.trans hread))
      exact ⟨rfl, .null⟩
    | bool a =>
      cases a <;> exact absurd hread
        (readOptional_readText_ne (by decide) (by decide) (by decide) hb _ p _)
    | @text body h =>
      have htext : '"' :: (body ++ ['"']) ++ rest = '"' :: (body ++ '"' :: rest) := by simp
      obtain ⟨q, hq⟩ := readOptional_quote expected hb (body ++ '"' :: rest) p
      rw [htext, hq] at hread
      cases hstring : readString ⟨body ++ '"' :: rest, q⟩ with
      | error f =>
        rw [hstring] at hread
        exact nomatch hread
      | ok r =>
        rw [hstring] at hread
        obtain ⟨rfl, rfl⟩ := Prod.mk.inj (Except.ok.inj hread)
        obtain ⟨hrest, denotes⟩ := h.of_readString hstring
        exact ⟨hrest, .text denotes⟩
    | number h =>
      obtain ⟨ch, u, rfl, hch⟩ := h.head
      exact absurd hread (readOptional_readText_ne (BeginsScalar.isBlank (.inr hch))
        (hch.ne (by decide)) (hch.ne (by decide)) hb _ p _)

end Nullable

/-! ## Members -/

section Records

variable {δ α : Type} {s : Shape δ α} {depth : ℕ}

/-- **A field reads the text of a value into a draft**, whatever blanks stand in front of it and
whatever stands behind it. -/
def Field.Takes (f : Field δ) (depth : ℕ) (d : δ) (v : List Char) (d' : δ) : Prop :=
  ∀ b, Blanks b → ∀ rest p, ∃ q, f.read depth d ⟨b ++ (v ++ rest), p⟩ = .ok (d', ⟨rest, q⟩)

/-- **A field is read by its value**: once the text of a value is read, it is read to its end, and
it is read like that wherever it stands. -/
def Field.ByValue (f : Field δ) (depth : ℕ) : Prop :=
  ∀ {d v b rest p d' c}, IsValue v → Blanks b →
    f.read depth d ⟨b ++ (v ++ rest), p⟩ = .ok (d', c) → c.rest = rest ∧ f.Takes depth d v d'

/-- **The members of an object take a draft to another one.** What the record does not have changes
nothing, and no key denotes what the draft has. -/
inductive Leads (s : Shape δ α) (depth : ℕ) : List (String × List Char) → δ → δ → Prop
  | nil (d : δ) : Leads s depth [] d d
  | known {f : Field δ} {k : String} {v : List Char} {ms : List (String × List Char)} {d d' d'' : δ}
      (field : s.field? k = some f) (unset : f.isSet d = false) (takes : f.Takes depth d v d')
      (more : Leads s depth ms d' d'') : Leads s depth ((k, v) :: ms) d d''
  | unknown {k : String} {v : List Char} {ms : List (String × List Char)} {d d' : δ}
      (field : s.field? k = none) (more : Leads s depth ms d d') : Leads s depth ((k, v) :: ms) d d'

/-- What is left of an object behind a value: blanks, the other members, and the closing brace. -/
def tailOf (back : List Char) (ts : List (List Char)) (rest : List Char) : List Char :=
  back ++ (separated false ts ++ '\x7d' :: rest)

lemma delimits_tailOf {back : List Char} (h : Blanks back) (ts : List (List Char))
    (rest : List Char) : Delimits (tailOf back ts rest) :=
  (Delimits.of_stops (stops_separated (.inr rfl) ts rest)).blanks h

/-- The key of a member is read behind its quote, and a colon stands behind it. -/
lemma IsMember.key {m : String × List Char} {t : List Char} (h : IsMember m t) :
    ∃ b u b' back, Blanks b ∧ Blanks b' ∧ Blanks back ∧ t = b ++ '"' :: u ∧
      ∀ rest p, ∃ c q, readString ⟨u ++ rest, p⟩ = .ok (m.1, c) ∧
        c.colon = .ok ⟨b' ++ (m.2 ++ (back ++ rest)), q⟩ := by
  obtain ⟨lead, denotes, before, behind, trail⟩ := h
  rename_i name v b key b' b'' back
  refine ⟨b, _, b'', back, lead, behind, trail, rfl, fun rest p => ?_⟩
  obtain ⟨q, hq⟩ := denotes.readString (b' ++ ':' :: (b'' ++ (v ++ (back ++ rest)))) p
  obtain ⟨q', hq'⟩ := before.colon (b'' ++ (v ++ (back ++ rest))) q
  exact ⟨_, q', by simpa using hq, hq'⟩

/-- **A member is read up to its value**, the first one or behind a comma. -/
lemma nextKey_member {m : String × List Char} {t : List Char} (h : IsMember m t) (first : Bool)
    {b : List Char} (hb : Blanks b) (ts : List (List Char)) (rest : List Char) (p : Position) :
    ∃ c c' b' back q, Blanks b' ∧ Blanks back ∧
      Cursor.nextKey first ⟨b ++ (separated first (t :: ts) ++ '\x7d' :: rest), p⟩ =
        .ok (some c) ∧
      readString c.next = .ok (m.1, c') ∧
      c'.colon = .ok ⟨b' ++ (m.2 ++ tailOf back ts rest), q⟩ := by
  obtain ⟨b₀, u, b', back, hb₀, hb', hback, rfl, hkey⟩ := h.key
  have hquote : Cursor.isBlank '"' = false := rfl
  cases first with
  | true =>
    obtain ⟨q, hskip⟩ :=
      (hb.append hb₀).skip '"' hquote (u ++ (separated false ts ++ '\x7d' :: rest)) p
    obtain ⟨c', q', hread, hcolon⟩ := hkey (separated false ts ++ '\x7d' :: rest) (q.after '"')
    refine ⟨⟨'"' :: (u ++ (separated false ts ++ '\x7d' :: rest)), q⟩, c', b', back, q', hb', hback,
      ?_, hread, hcolon⟩
    have htext : b ++ (separated true ((b₀ ++ '"' :: u) :: ts) ++ '\x7d' :: rest) =
        b ++ b₀ ++ '"' :: (u ++ (separated false ts ++ '\x7d' :: rest)) := by
      simp [separated]
    rw [htext, Cursor.nextKey, hskip]
    rfl
  | false =>
    obtain ⟨q, hcomma⟩ :=
      hb.skip ',' rfl (b₀ ++ '"' :: (u ++ (separated false ts ++ '\x7d' :: rest))) p
    obtain ⟨q', hskip⟩ :=
      hb₀.skip '"' hquote (u ++ (separated false ts ++ '\x7d' :: rest)) (q.after ',')
    obtain ⟨c', q'', hread, hcolon⟩ := hkey (separated false ts ++ '\x7d' :: rest) (q'.after '"')
    refine ⟨⟨'"' :: (u ++ (separated false ts ++ '\x7d' :: rest)), q'⟩, c', b', back, q'', hb',
      hback, ?_, hread, hcolon⟩
    have htext : b ++ (separated false ((b₀ ++ '"' :: u) :: ts) ++ '\x7d' :: rest) =
        b ++ ',' :: (b₀ ++ '"' :: (u ++ (separated false ts ++ '\x7d' :: rest))) := by
      simp [separated]
    rw [htext]
    simp only [Cursor.nextKey, hcomma, Cursor.next_cons, hskip]
    rfl

/-- **One member of an object is read.** What the record does not have is read past. Of the rest,
what the draft has already is refused, and the others go into the draft. -/
lemma readMembers_member (s : Shape δ α) (depth : ℕ) {m : String × List Char} {t : List Char}
    (h : IsMember m t) (hm : IsValue m.2) (fuel : ℕ) (first : Bool) (d : δ) {b : List Char}
    (hb : Blanks b) (ts : List (List Char)) (rest : List Char) (p : Position) :
    ∃ b' back c q, Blanks b' ∧ Blanks back ∧
      s.readMembers depth (fuel + 1) first d
          ⟨b ++ (separated first (t :: ts) ++ '\x7d' :: rest), p⟩ =
        match s.field? m.1 with
        | some f =>
          if f.isSet d then .ok (.error (.duplicateField f.name), c)
          else f.read depth d ⟨b' ++ (m.2 ++ tailOf back ts rest), q⟩ >>= fun r =>
            s.readMembers depth fuel false r.1 r.2
        | none => s.readMembers depth fuel false d ⟨tailOf back ts rest, q⟩ := by
  obtain ⟨c, c', b', back, q, hb', hback, hnext, hread, hcolon⟩ :=
    nextKey_member h first hb ts rest p
  obtain ⟨q', hq'⟩ := hm.ignoreValue hb' (delimits_tailOf hback ts rest) q
  cases hfield : s.field? m.1 with
  | none =>
    refine ⟨b', back, c', q', hb', hback, ?_⟩
    simp only [Shape.readMembers, hnext, hread, hfield, hcolon, hq', ok_bind]
  | some f =>
    refine ⟨b', back, c', q, hb', hback, ?_⟩
    simp only [Shape.readMembers, hnext, hread, hfield, hcolon, ok_bind]
    rfl

/-- **Members that lead from one draft to another are read**, up to the closing brace. -/
lemma readMembers_leads {ms : List (String × List Char)} {d d' : δ} (h : Leads s depth ms d d')
    {ts : List (List Char)} (members : List.Forall₂ IsMember ms ts)
    (values : ∀ m ∈ ms, IsValue m.2) {fuel : ℕ} (hfuel : ms.length < fuel) (first : Bool)
    {b : List Char} (hb : Blanks b) (rest : List Char) (p : Position) :
    ∃ b' q, Blanks b' ∧
      s.readMembers depth fuel first d ⟨b ++ (separated first ts ++ '\x7d' :: rest), p⟩ =
        .ok (.ok d', ⟨b' ++ '\x7d' :: rest, q⟩) := by
  induction h generalizing ts fuel first b p with
  | nil d =>
    cases members
    obtain ⟨fuel, rfl⟩ := Nat.exists_eq_add_one.2 hfuel
    obtain ⟨q, hq⟩ := hb.skip '\x7d' rfl rest p
    refine ⟨b, p, hb, ?_⟩
    simp only [separated, List.nil_append, Shape.readMembers, Cursor.nextKey, hq]
    rfl
  | @known f k v ms d d' d'' field unset takes _ ih =>
    obtain ⟨fuel, rfl⟩ := Nat.exists_eq_add_one.2 (Nat.zero_lt_of_lt hfuel)
    cases members with
    | @cons m t ms ts ht hts =>
      obtain ⟨hv, hvs⟩ := List.forall_mem_cons.1 values
      obtain ⟨b', back, c, q, hb', hback, hread⟩ :=
        readMembers_member s depth ht hv fuel first d hb ts rest p
      obtain ⟨q', htakes⟩ := takes b' hb' (tailOf back ts rest) q
      obtain ⟨b'', q'', hb'', hmore⟩ :=
        ih hts hvs (Nat.lt_of_succ_lt_succ hfuel) false hback q'
      rw [← tailOf] at hmore
      refine ⟨b'', q'', hb'', ?_⟩
      simp only [hread, field, unset, Bool.false_eq_true, if_false, htakes, ok_bind, hmore]
  | @unknown k v ms d d' field _ ih =>
    obtain ⟨fuel, rfl⟩ := Nat.exists_eq_add_one.2 (Nat.zero_lt_of_lt hfuel)
    cases members with
    | @cons m t ms ts ht hts =>
      obtain ⟨hv, hvs⟩ := List.forall_mem_cons.1 values
      obtain ⟨b', back, c, q, hb', hback, hread⟩ :=
        readMembers_member s depth ht hv fuel first d hb ts rest p
      obtain ⟨b'', q', hb'', hmore⟩ :=
        ih hts hvs (Nat.lt_of_succ_lt_succ hfuel) false hback q
      refine ⟨b'', q', hb'', ?_⟩
      simp only [hread, field, tailOf, hmore]

/-- **Members that are read lead from one draft to another**, if each field is read by its value. -/
lemma leads_of_readMembers (byValue : ∀ f ∈ s.fields, f.ByValue depth)
    {ms : List (String × List Char)} {ts : List (List Char)}
    (members : List.Forall₂ IsMember ms ts) (values : ∀ m ∈ ms, IsValue m.2) {fuel : ℕ}
    {first : Bool} {b rest : List Char} (hb : Blanks b) {p : Position} {d d' : δ} {c : Cursor}
    (hread : s.readMembers depth fuel first d ⟨b ++ (separated first ts ++ '\x7d' :: rest), p⟩ =
      .ok (.ok d', c)) : Leads s depth ms d d' := by
  induction members generalizing fuel first b p d with
  | nil =>
    cases fuel with
    | zero => cases hread
    | succ fuel =>
      obtain ⟨q, hq⟩ := hb.skip '\x7d' rfl rest p
      simp only [separated, List.nil_append, Shape.readMembers, Cursor.nextKey, hq] at hread
      obtain ⟨hd, -⟩ := Prod.mk.inj (Except.ok.inj hread)
      obtain rfl := Except.ok.inj hd
      exact .nil d
  | @cons m t ms ts ht hts ih =>
    obtain ⟨hv, hvs⟩ := List.forall_mem_cons.1 values
    cases fuel with
    | zero => cases hread
    | succ fuel =>
      obtain ⟨b', back, c', q, hb', hback, hmember⟩ :=
        readMembers_member s depth ht hv fuel first d hb ts rest p
      rw [hmember] at hread
      cases hfield : s.field? m.1 with
      | none =>
        simp only [hfield] at hread
        exact .unknown hfield (ih hvs hback hread)
      | some f =>
        simp only [hfield] at hread
        cases hset : f.isSet d with
        | true =>
          simp only [hset, if_true] at hread
          cases hread
        | false =>
          simp only [hset, Bool.false_eq_true, if_false] at hread
          obtain ⟨⟨d₁, c₁⟩, hvalue, hmore⟩ := ok_of_bind hread
          obtain ⟨hrest, htakes⟩ := byValue f (List.mem_of_find?_eq_some hfield) hv hb' hvalue
          obtain ⟨_, q₁⟩ := c₁
          subst hrest
          exact .known hfield hset htakes (ih hvs hback hmore)

/-! ## Records -/

/-- The members of an object are read behind its opening brace. -/
lemma readRecord_brace (s : Shape δ α) (depth : ℕ) {b : List Char} (hb : Blanks b) (u : List Char)
    (p : Position) :
    ∃ q, readRecord s (depth + 1) ⟨b ++ '\x7b' :: u, p⟩ =
      (s.readMembers depth (('\x7b' :: u).length + 1) true s.start ⟨u, q⟩ >>= fun r =>
        s.settle '\x7d' Cursor.closeObject r.1 r.2) := by
  obtain ⟨q, hq⟩ := hb.skip '\x7b' rfl u p
  refine ⟨q.after '\x7b', ?_⟩
  simp only [readRecord, hq]
  rfl

/-- What is settled comes from a draft that could be finished. -/
lemma of_settle {draft : Except Cause δ} {close : Cursor → Except Fault Cursor} {c c' : Cursor}
    {v : α} (h : s.settle '\x7d' close draft c = .ok (v, c')) :
    ∃ d, draft = .ok d ∧ s.finish d = .ok v := by
  cases draft with
  | error cause => cases h
  | ok d =>
    simp only [Shape.settle] at h
    cases hv : s.finish d with
    | error name =>
      rw [hv] at h
      cases h
    | ok w =>
      rw [hv] at h
      cases hclose : close c with
      | error f =>
        rw [hclose] at h
        cases h
      | ok c'' =>
        rw [hclose] at h
        exact ⟨d, rfl, hv.trans (congrArg Except.ok (Prod.mk.inj (Except.ok.inj h)).1)⟩

/-- A draft is settled at the closing brace. -/
lemma settle_brace {d : δ} {v : α} (hv : s.finish d = .ok v) {b : List Char} (hb : Blanks b)
    (rest : List Char) (p : Position) :
    ∃ q, s.settle '\x7d' Cursor.closeObject (.ok d) ⟨b ++ '\x7d' :: rest, p⟩ =
      .ok (v, ⟨rest, q⟩) := by
  obtain ⟨q, hq⟩ := hb.skip '\x7d' rfl rest p
  refine ⟨q.after '\x7d', ?_⟩
  simp only [Shape.settle, hv, Cursor.closeObject, hq]
  rfl

/-- **When an object is read as a record, and as which**: exactly if its members lead to a draft
that can be finished. -/
theorem readAll_eq_ok_iff (byValue : ∀ f ∈ s.fields, f.ByValue depth)
    {ms : List (String × List Char)} {t : List Char} (h : IsDocument ms t) {v : α} :
    readAll (readRecord s (depth + 1)) t = .ok v ↔
      ∃ d, Leads s depth ms s.start d ∧ s.finish d = .ok v := by
  obtain ⟨lead, inner, members, values, trail⟩ := h
  rename_i b b' b'' ts
  obtain ⟨q, hrecord⟩ := readRecord_brace s depth lead
    (b' ++ (commaSeparated ts ++ '\x7d' :: b'')) .start
  rw [← separated_true] at hrecord ⊢
  constructor
  · intro hall
    obtain ⟨c, hread, -⟩ := ok_of_readAll hall
    rw [hrecord] at hread
    obtain ⟨⟨draft, c'⟩, hmembers, hsettle⟩ := ok_of_bind hread
    obtain ⟨d, rfl, hv⟩ := of_settle hsettle
    exact ⟨d, leads_of_readMembers byValue members values inner hmembers, hv⟩
  · rintro ⟨d, hleads, hv⟩
    -- each member has a character at least, so that there is fuel for all of them
    have hfuel : ms.length <
        ('\x7b' :: (b' ++ (separated true ts ++ '\x7d' :: b''))).length + 1 := by
      have hts := length_lt_fuel '\x7b' true ts ('\x7d' :: b'')
      rw [members.length_eq]
      simp only [List.length_cons, List.length_append] at hts ⊢
      omega
    obtain ⟨back, q', hback, hmembers⟩ :=
      readMembers_leads hleads members values hfuel true inner b'' q
    obtain ⟨q'', hsettle⟩ := settle_brace hv hback b'' q'
    -- the blanks at the end are left to the reader of the whole text
    have htext : b ++ '\x7b' :: (b' ++ (separated true ts ++ '\x7d' :: b'')) =
        b ++ '\x7b' :: (b' ++ (separated true ts ++ ['\x7d'])) ++ b'' := by
      simp
    rw [htext] at hrecord ⊢
    refine readAll_append ⟨q'', ?_⟩ trail
    rw [hrecord, hmembers, ok_bind, hsettle]

end Records

end ScriptStage.Json
