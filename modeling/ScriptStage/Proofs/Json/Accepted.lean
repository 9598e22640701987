import ScriptStage.Proofs.Json.Members
import ScriptStage.Proofs.Json.Range

/-!
# Texts that are accepted

Whatever is JSON text is read as some value, with three exceptions: arrays and objects that nest too
deep, halves of surrogate pairs in strings and keys, and numbers that are out of range for the
reader. This file shows that there is no fourth one. Which value it is does not matter here, so that
none has to be followed along.

Whether a number is out of range is a matter of the reader's own arithmetic, and this is not the
same as being greater than the greatest double. So it is left open what is asked of the numbers in a
text.

## Main definitions

* `ScriptStage.Json.IsBounded` — the text of a value that nests no deeper than some bound, with
  characters in its strings and with numbers of some kind.
* `ScriptStage.Json.Accepted` — a reader reads a text as some value.

## Main results

* `ScriptStage.Json.IsBounded.accepted` — values are accepted if they fit.
* `ScriptStage.Json.readRecord_member` — objects with one member are accepted as records.
* `ScriptStage.Json.IsBounded.of_member` — the value of the one member of an object nests less deep.
-/

set_option autoImplicit false

namespace ScriptStage.Json

/-! ## Values -/

/-- **The text of a value that fits**: arrays and objects nest at most so deep, strings and keys
stand for characters, and each number is of the given kind. -/
inductive IsBounded (number : List Char → Prop) : ℕ → List Char → Prop
  | null {n : ℕ} : IsBounded number n writeNull
  | bool {n : ℕ} (b : Bool) : IsBounded number n (writeBool b)
  | number {n : ℕ} {t : List Char} (h : IsNumber t) (kind : number t) : IsBounded number n t
  | text {n : ℕ} {body : List Char} {s : String} (denotes : Denotes body s.toList) :
    IsBounded number n ('"' :: (body ++ ['"']))
  | list {n : ℕ} {b : List Char} {vs ts : List (List Char)} (blanks : Blanks b)
      (items : List.Forall₂ (IsItem .list) vs ts) (values : ∀ v ∈ vs, IsBounded number n v) :
    IsBounded number (n + 1) ('[' :: (b ++ (commaSeparated ts ++ [']'])))
  | object {n : ℕ} {b : List Char} {ms : List (String × List Char)} {ts : List (List Char)}
      (blanks : Blanks b) (members : List.Forall₂ IsMember ms ts)
      (values : ∀ m ∈ ms, IsBounded number n m.2) :
    IsBounded number (n + 1) ('\x7b' :: (b ++ (commaSeparated ts ++ ['\x7d'])))

/-- A member is an item of an object. -/
lemma IsMember.isItem {m : String × List Char} {t : List Char} (h : IsMember m t) :
    IsItem .object m.2 t := by
  obtain ⟨lead, denotes, before, behind, trail⟩ := h
  exact ⟨_, _, .object lead denotes.isBody before behind, trail, by simp⟩

/-- What fits is the text of a value. -/
lemma IsBounded.isValue {number : List Char → Prop} {n : ℕ} {t : List Char}
    (h : IsBounded number n t) : IsValue t := by
  induction h with
  | null => exact .scalar .null
  | bool b => exact .scalar (.bool b)
  | number h => exact .scalar (.number h)
  | text denotes => exact .scalar (.text denotes.isBody)
  | list blanks items _ ih => exact .container .list blanks items ih
  | @object n b ms ts blanks members _ ih =>
    have items : List.Forall₂ (IsItem .object) (ms.map (·.2)) ts :=
      List.forall₂_map_left_iff.2 (members.imp fun _ _ => IsMember.isItem)
    exact .container .object blanks items (List.forall_mem_map.2 ih)

/-- What begins with a quote is a string. -/
lemma IsBounded.of_quote {number : List Char → Prop} {n : ℕ} {u : List Char}
    (h : IsBounded number n ('"' :: u)) :
    ∃ (body : List Char) (s : String), u = body ++ ['"'] ∧ Denotes body s.toList := by
  generalize htext : '"' :: u = text at h
  cases h with
  | null => exact nomatch htext
  | bool b => cases b <;> exact nomatch htext
  | number h =>
    obtain ⟨ch, u, rfl, hch⟩ := h.head
    exact absurd (List.cons.inj htext).1.symm (hch.ne (by decide))
  | text denotes => exact ⟨_, _, (List.cons.inj htext).2, denotes⟩
  | list => exact nomatch htext
  | object => exact nomatch htext

/-- **A reader accepts a text**, whatever blanks stand in front of it and whatever ends it. -/
def Accepted {α : Type} (reader : Cursor → Except Fault (α × Cursor)) (t : List Char) : Prop :=
  ∀ {b : List Char}, Blanks b → ∀ {rest : List Char}, Delimits rest → ∀ p, ∃ v q,
    reader ⟨b ++ (t ++ rest), p⟩ = .ok (v, ⟨rest, q⟩)

/-- What begins like a scalar is read as one. -/
lemma accepted_scalar {ch : Char} {u : List Char} (hch : BeginsScalar ch)
    (h : ∀ {rest}, Delimits rest → ∀ p, ∃ v q,
      readScalar ⟨ch :: u ++ rest, p⟩ = .ok (v, ⟨rest, q⟩)) (n : ℕ) :
    Accepted (readValue n) (ch :: u) := by
  intro b hb rest hrest p
  obtain ⟨q, hskip⟩ := hb.skip ch hch.isBlank (u ++ rest) p
  obtain ⟨v, q', hv⟩ := h hrest q
  refine ⟨v, q', ?_⟩
  rw [← hv]
  unfold readValue
  simp only [List.cons_append, hskip, Cursor.nextIs_cons, hch.ne (d := '[') (by decide),
    hch.ne (d := '\x7b') (by decide), decide_false, Bool.false_eq_true, if_false]

section Items

variable {α : Type} {item : Cursor → Except Fault (α × Cursor)}

/-- What is left of an array behind a value: blanks, the other items, and the closing bracket. -/
def behindItem (back : List Char) (ts : List (List Char)) (rest : List Char) : List Char :=
  back ++ (separated false ts ++ ']' :: rest)

lemma delimits_behindItem {back : List Char} (h : Blanks back) (ts : List (List Char))
    (rest : List Char) : Delimits (behindItem back ts rest) :=
  (Delimits.of_stops (stops_separated (.inl rfl) ts rest)).blanks h

/-- **An item is found**, the first one or behind a comma. -/
lemma nextItem_item {v t : List Char} (h : IsItem .list v t) (hv : IsValue v) (first : Bool)
    {b : List Char} (hb : Blanks b) (ts : List (List Char)) (rest : List Char) (p : Position) :
    ∃ back q, Blanks back ∧
      Cursor.nextItem first ⟨b ++ (separated first (t :: ts) ++ ']' :: rest), p⟩ =
        .ok (some ⟨v ++ behindItem back ts rest, q⟩) := by
  obtain ⟨front, back, hfront, hback, rfl⟩ := h
  obtain ⟨ch, v, rfl, hblank, hclosing⟩ := hv.head
  have hclosing : ch ≠ ']' := hclosing .list
  cases hfront with
  | list hfront =>
    cases first with
    | true =>
      obtain ⟨q, hq⟩ := (hb.append hfront).skip ch hblank (v ++ behindItem back ts rest) p
      refine ⟨back, q, hback, ?_⟩
      have htext : b ++ (separated true ((front ++ (ch :: v ++ back)) :: ts) ++ ']' :: rest) =
          b ++ front ++ ch :: (v ++ behindItem back ts rest) := by
        simp [separated, behindItem]
      simp only [htext, Cursor.nextItem, hq, if_neg hclosing, if_true]
      rfl
    | false =>
      obtain ⟨q, hcomma⟩ := hb.skip ',' rfl (front ++ ch :: (v ++ behindItem back ts rest)) p
      obtain ⟨q', hq'⟩ := hfront.skip ch hblank (v ++ behindItem back ts rest) (q.after ',')
      refine ⟨back, q', hback, ?_⟩
      have htext : b ++ (separated false ((front ++ (ch :: v ++ back)) :: ts) ++ ']' :: rest) =
          b ++ ',' :: (front ++ ch :: (v ++ behindItem back ts rest)) := by
        simp [separated, behindItem]
      simp only [htext, Cursor.nextItem, hcomma, Cursor.next_cons, hq', if_neg hclosing]
      rfl

/-- **The items of an array are read** if each of them is accepted. -/
lemma readItems_items {vs ts : List (List Char)} (h : List.Forall₂ (IsItem .list) vs ts)
    (values : ∀ v ∈ vs, IsValue v) (accepted : ∀ v ∈ vs, Accepted item v) {fuel : ℕ}
    (hfuel : ts.length < fuel) (first : Bool) {b : List Char} (hb : Blanks b) (rest : List Char)
    (p : Position) :
    ∃ xs q, readItems item fuel first ⟨b ++ (separated first ts ++ ']' :: rest), p⟩ =
      .ok (xs, ⟨rest, q⟩) := by
  obtain ⟨fuel, rfl⟩ := Nat.exists_eq_add_one.2 (Nat.zero_lt_of_lt hfuel)
  induction h generalizing fuel first b p with
  | nil =>
    obtain ⟨q, hq⟩ := hb.skip ']' rfl rest p
    refine ⟨[], q.after ']', ?_⟩
    simp only [separated, List.nil_append, readItems, Cursor.nextItem, hq, if_true]
    rfl
  | @cons v t vs ts ht _ ih =>
    obtain ⟨hv, hvs⟩ := List.forall_mem_cons.1 values
    obtain ⟨av, avs⟩ := List.forall_mem_cons.1 accepted
    obtain ⟨back, q, hback, hnext⟩ := nextItem_item ht hv first hb ts rest p
    obtain ⟨x, q', hx⟩ := av blanks_nil (delimits_behindItem hback ts rest) q
    obtain ⟨fuel, rfl⟩ := Nat.exists_eq_add_one.2
      (Nat.zero_lt_of_lt (Nat.lt_of_succ_lt_succ hfuel))
    obtain ⟨xs, q'', hxs⟩ := ih hvs avs false hback q' fuel (Nat.lt_of_succ_lt_succ hfuel)
    refine ⟨x :: xs, q'', ?_⟩
    rw [List.nil_append] at hx
    rw [behindItem] at hnext hx
    rw [readItems]
    simp only [hnext, ok_bind, hx, hxs]
    rfl

/-- **The fields of an object are read** if the value of each member is accepted. -/
lemma readFields_members {ms : List (String × List Char)} {ts : List (List Char)}
    (h : List.Forall₂ IsMember ms ts) (accepted : ∀ m ∈ ms, Accepted item m.2) {fuel : ℕ}
    (hfuel : ts.length < fuel) (first : Bool) (fs : List (String × α)) {b : List Char}
    (hb : Blanks b) (rest : List Char) (p : Position) :
    ∃ gs q, readFields item fuel first fs ⟨b ++ (separated first ts ++ '\x7d' :: rest), p⟩ =
      .ok (gs, ⟨rest, q⟩) := by
  obtain ⟨fuel, rfl⟩ := Nat.exists_eq_add_one.2 (Nat.zero_lt_of_lt hfuel)
  induction h generalizing fuel first fs b p with
  | nil =>
    obtain ⟨q, hq⟩ := hb.skip '\x7d' rfl rest p
    refine ⟨fs, q.after '\x7d', ?_⟩
    simp only [separated, List.nil_append, readFields, Cursor.nextKey, hq, if_true]
    rfl
  | @cons m t ms ts hm _ ih =>
    obtain ⟨am, ams⟩ := List.forall_mem_cons.1 accepted
    obtain ⟨c, c', b', back, q, hb', hback, hnext, hkey, hcolon⟩ :=
      nextKey_member hm first hb ts rest p
    obtain ⟨x, q', hx⟩ := am hb' (delimits_tailOf hback ts rest) q
    obtain ⟨fuel, rfl⟩ := Nat.exists_eq_add_one.2
      (Nat.zero_lt_of_lt (Nat.lt_of_succ_lt_succ hfuel))
    obtain ⟨gs, q'', hgs⟩ := ih ams false (Dict.put m.1 x fs) hback q' fuel
      (Nat.lt_of_succ_lt_succ hfuel)
    refine ⟨gs, q'', ?_⟩
    rw [tailOf] at hx
    rw [readFields]
    simp only [hnext, ok_bind, hkey, hcolon, tailOf, hx, hgs]

end Items

/-- The items of an array are read behind its opening bracket. -/
lemma readValue_bracket (n : ℕ) {b : List Char} (hb : Blanks b) (u : List Char) (p : Position) :
    ∃ q, readValue (n + 1) ⟨b ++ '[' :: u, p⟩ =
      (readItems (readValue n) (('[' :: u).length + 1) true ⟨u, q⟩ >>= fun r =>
        .ok (arr r.1, r.2)) := by
  obtain ⟨q, hq⟩ := hb.skip '[' rfl u p
  refine ⟨q.after '[', ?_⟩
  unfold readValue
  rw [hq]
  rfl

/-- The members of an object are read behind its opening brace. -/
lemma readValue_brace (n : ℕ) {b : List Char} (hb : Blanks b) (u : List Char) (p : Position) :
    ∃ q, readValue (n + 1) ⟨b ++ '\x7b' :: u, p⟩ =
      (readFields (readValue n) (('\x7b' :: u).length + 1) true [] ⟨u, q⟩ >>= fun r =>
        .ok (obj r.1, r.2)) := by
  obtain ⟨q, hq⟩ := hb.skip '\x7b' rfl u p
  refine ⟨q.after '\x7b', ?_⟩
  unfold readValue
  rw [hq]
  rfl

/-- There is fuel for all texts in a container, whatever blanks stand behind its opening. -/
lemma length_lt_fuel_blanks (opening : Char) (b : List Char) (ts : List (List Char))
    (rest : List Char) :
    ts.length < (opening :: (b ++ (separated true ts ++ rest))).length + 1 := by
  have hts := length_lt_fuel opening true ts rest
  simp only [List.length_cons, List.length_append] at hts ⊢
  omega

/-- **What fits is accepted** by a reader that allows for its depth, if no number is out of
range. -/
theorem IsBounded.accepted {n : ℕ} {t : List Char} (h : IsBounded InRange n t) :
    Accepted (readValue n) t := by
  induction h with
  | @null n => exact accepted_scalar (.inl (by decide)) (fun _ _ => ⟨_, _, rfl⟩) n
  | @bool n b =>
    cases b
    · exact accepted_scalar (.inl (by decide)) (fun _ _ => ⟨_, _, rfl⟩) n
    · exact accepted_scalar (.inl (by decide)) (fun _ _ => ⟨_, _, rfl⟩) n
  | @number n t h inRange =>
    obtain ⟨ch, u, rfl, hch⟩ := h.head
    exact accepted_scalar (.inr hch) (fun hrest p => h.readScalar inRange hrest p) n
  | @text n body s denotes =>
    refine accepted_scalar (.inl (by decide)) (fun {rest} _ p => ?_) n
    obtain ⟨q, hq⟩ := denotes.readString rest (p.after '"')
    have hread : ∀ u, readScalar ⟨'"' :: u, p⟩ =
        (Json.readString ⟨u, p.after '"'⟩ >>= fun r => .ok (str r.1, r.2)) := fun _ => rfl
    refine ⟨str s, q, ?_⟩
    rw [List.cons_append, List.append_assoc, List.singleton_append, hread, hq]
    rfl
  | @list n b vs ts blanks items values ih =>
    intro b₀ hb₀ rest hrest p
    have htext : '[' :: (b ++ (commaSeparated ts ++ [']'])) ++ rest =
        '[' :: (b ++ (separated true ts ++ ']' :: rest)) := by
      simp [separated_true]
    obtain ⟨q, hread⟩ := readValue_bracket n hb₀ (b ++ (separated true ts ++ ']' :: rest)) p
    obtain ⟨xs, q', hxs⟩ := readItems_items items (fun v hv => (values v hv).isValue) ih
      (length_lt_fuel_blanks '[' b ts (']' :: rest)) true blanks rest q
    refine ⟨arr xs, q', ?_⟩
    rw [htext, hread, hxs, ok_bind]
  | @object n b ms ts blanks members values ih =>
    intro b₀ hb₀ rest hrest p
    have htext : '\x7b' :: (b ++ (commaSeparated ts ++ ['\x7d'])) ++ rest =
        '\x7b' :: (b ++ (separated true ts ++ '\x7d' :: rest)) := by
      simp [separated_true]
    obtain ⟨q, hread⟩ := readValue_brace n hb₀ (b ++ (separated true ts ++ '\x7d' :: rest)) p
    obtain ⟨gs, q', hgs⟩ := readFields_members members ih
      (length_lt_fuel_blanks '\x7b' b ts ('\x7d' :: rest)) true [] blanks rest q
    refine ⟨obj gs, q', ?_⟩
    rw [htext, hread, hgs, ok_bind]

/-! ## Objects with one member -/

/-- **An object with one member is accepted as a record**, if the field that its key denotes reads
the value into some draft that can be finished. What is known of all such records is known of the
one that is read. -/
lemma readRecord_member {δ α : Type} {s : Shape δ α} {depth : ℕ} {m : String × List Char}
    {t : List Char} (member : IsMember m t) (value : IsValue m.2) {f : Field δ}
    (field : s.field? m.1 = some f) (unset : f.isSet s.start = false) {P : α → Prop}
    (reads : ∀ {b : List Char}, Blanks b → ∀ {rest : List Char}, Delimits rest → ∀ p, ∃ d v q,
      f.read depth s.start ⟨b ++ (m.2 ++ rest), p⟩ = .ok (d, ⟨rest, q⟩) ∧ s.finish d = .ok v ∧ P v)
    (rest : List Char) (p : Position) :
    ∃ v q, P v ∧ readRecord s (depth + 1) ⟨'\x7b' :: (t ++ '\x7d' :: rest), p⟩ =
      .ok (v, ⟨rest, q⟩) := by
  have htext : t ++ '\x7d' :: rest = [] ++ (separated true [t] ++ '\x7d' :: rest) := by
    simp [separated]
  rw [htext]
  obtain ⟨q, hrecord⟩ := readRecord_brace s depth blanks_nil
    ([] ++ (separated true [t] ++ '\x7d' :: rest)) p
  obtain ⟨b, back, c, q₁, hb, hback, hmembers⟩ := readMembers_member s depth member value
    ('\x7b' :: ([] ++ (separated true [t] ++ '\x7d' :: rest))).length true s.start blanks_nil []
    rest q
  obtain ⟨d, v, q₂, hread, hfinish, hv⟩ := reads hb (delimits_tailOf hback [] rest) q₁
  -- no member is left behind the one
  have hnone : Leads s depth [] d d := .nil d
  have hfuel : 0 < ('\x7b' :: ([] ++ (separated true [t] ++ '\x7d' :: rest))).length :=
    Nat.zero_lt_succ _
  obtain ⟨b', q₃, hb', hend⟩ := readMembers_leads hnone .nil (List.forall_mem_nil _) hfuel false
    hback rest q₂
  obtain ⟨q₄, hsettle⟩ := settle_brace hfinish hb' rest q₃
  refine ⟨v, q₄, hv, ?_⟩
  rw [List.nil_append] at hrecord
  rw [← tailOf] at hend
  rw [hrecord, hmembers]
  simp only [field, unset, Bool.false_eq_true, if_false, hread, ok_bind, hend, hsettle]

/-! ## What stands in an object -/

/-- **A value is told apart from what stands around it**, since the reader that reads past it can
stop in one place only. -/
lemma IsValue.eq_of_append {v v' b b' rest rest' : List Char} (h : IsValue v) (h' : IsValue v')
    (hb : Blanks b) (hb' : Blanks b') (hrest : Delimits rest) (hrest' : Delimits rest')
    (heq : b ++ (v ++ rest) = b' ++ (v' ++ rest')) : v = v' := by
  have hvalue : v ++ rest = v' ++ rest' := by
    obtain ⟨ch, u, rfl, hch, -⟩ := h.head
    obtain ⟨ch', u', rfl, hch', -⟩ := h'.head
    obtain ⟨q, hq⟩ := hb.skip ch hch (u ++ rest) .start
    obtain ⟨q', hq'⟩ := hb'.skip ch' hch' (u' ++ rest') .start
    simp only [List.cons_append] at heq ⊢
    rw [heq, hq'] at hq
    exact (congrArg Cursor.rest hq).symm
  obtain ⟨q, hq⟩ := h.ignoreValue blanks_nil hrest .start
  obtain ⟨q', hq'⟩ := h'.ignoreValue blanks_nil hrest' .start
  rw [List.nil_append, hvalue] at hq
  rw [List.nil_append, hq] at hq'
  obtain rfl := congrArg Cursor.rest (Except.ok.inj hq')
  exact List.append_cancel_right hvalue

/-- **The value of the one member of an object nests less deep than the object.** -/
theorem IsBounded.of_member {number : List Char → Prop} {n : ℕ} {m : String × List Char}
    {t b : List Char} (hm : IsMember m t) (hv : IsValue m.2) (hb : Blanks b)
    (h : IsBounded number (n + 1) ('\x7b' :: (b ++ (t ++ ['\x7d'])))) : IsBounded number n m.2 := by
  obtain ⟨c, c', b₁, back, q, hb₁, hback, hnext, hkey, hcolon⟩ :=
    nextKey_member hm true hb [] [] .start
  generalize htext : '\x7b' :: (b ++ (t ++ ['\x7d'])) = text at h
  cases h with
  | null => cases htext
  | bool b => cases b <;> cases htext
  | number h =>
    obtain ⟨ch, u, rfl, hch⟩ := h.head
    exact absurd (List.cons.inj htext).1.symm (hch.ne (by decide))
  | text => cases htext
  | list => cases htext
  | @object _ b' ms ts blanks members values =>
    have hsame : b ++ (separated true [t] ++ ['\x7d']) = b' ++ (separated true ts ++ ['\x7d']) := by
      have htail := (List.cons.inj htext).2
      rw [separated_true ts]
      simpa [separated] using htail
    cases members with
    | nil =>
      obtain ⟨q', hq'⟩ := blanks.skip '\x7d' rfl [] .start
      rw [hsame] at hnext
      simp only [separated, List.nil_append, Cursor.nextKey, hq', if_true] at hnext
      cases hnext
    | @cons m' t' ms ts hm' hms =>
      obtain ⟨c₂, c₂', b₂, back₂, q₂, hb₂, hback₂, hnext₂, hkey₂, hcolon₂⟩ :=
        nextKey_member hm' true blanks ts [] .start
      -- both members are read by the same steps, which end in front of their values
      rw [hsame, hnext₂] at hnext
      obtain rfl := Option.some.inj (Except.ok.inj hnext)
      rw [hkey₂] at hkey
      obtain ⟨-, rfl⟩ := Prod.mk.inj (Except.ok.inj hkey)
      rw [hcolon₂] at hcolon
      have hrest := congrArg Cursor.rest (Except.ok.inj hcolon)
      obtain ⟨bounded, -⟩ := List.forall_mem_cons.1 values
      have hvalue : m'.2 = m.2 :=
        bounded.isValue.eq_of_append hv hb₂ hb₁ (delimits_tailOf hback₂ ts [])
          (delimits_tailOf hback [] []) hrest
      exact hvalue ▸ bounded

end ScriptStage.Json
