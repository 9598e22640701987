import ScriptStage.Proofs.Json.Numbers

/-!
# Values that are read back

The text of a value is read back as that value, down to the depth that the reader allows. Objects
keep their fields in ascending order of keys, so that the reader, which puts each field in its
place, puts each behind the ones before it.

Doubles are the exception that `ScriptStage.Json.reads_double` leaves: they are read back if each of
them is on its own.

## Main definitions

* `ScriptStage.Json.doubles` — the doubles in a value.
* `ScriptStage.Json.ReadsField` — a reader reads the text of a field as its value.
* `ScriptStage.Json.Loadable` — what is asked of a value that is to be read back.

## Main results

* `ScriptStage.Dict.ofList_entries` — a dictionary is made of its own entries.
* `ScriptStage.Json.readFields_writeObject` — the fields of a written object are read back.
* `ScriptStage.Json.reads_write` — a written value is read back.
-/

set_option autoImplicit false

namespace ScriptStage

/-! ## Ascending keys -/

namespace Dict

variable {α : Type}

/-- A greater key goes to the end. -/
lemma put_of_forall_lt {k : String} (v : α) {es : List (String × α)} (h : ∀ e ∈ es, e.1 < k) :
    put k v es = es ++ [(k, v)] := by
  induction es with
  | nil => rfl
  | cons e es ih =>
    obtain ⟨he, hes⟩ := List.forall_mem_cons.1 h
    rw [put, if_neg (String.lt_asymm he), if_pos he, ih hes]
    rfl

/-- Ascending entries are put behind one another. -/
lemma foldl_put {gs : List (String × α)} {es : List (String × α)}
    (h : (es ++ gs).Pairwise fun a b => a.1 < b.1) :
    gs.foldl (fun es g => put g.1 g.2 es) es = es ++ gs := by
  induction gs generalizing es with
  | nil => exact (List.append_nil es).symm
  | cons g gs ih =>
    have hg : ∀ e ∈ es, e.1 < g.1 := fun e he =>
      (List.pairwise_append.1 h).2.2 e he g (.head gs)
    rw [List.foldl_cons, put_of_forall_lt g.2 hg, ih (by simpa using h), List.append_assoc]
    rfl

lemma entries_insertAll (d : Dict α) (es : List (String × α)) :
    (d.insertAll es).entries = es.foldl (fun es g => put g.1 g.2 es) d.entries := by
  induction es generalizing d with
  | nil => rfl
  | cons e es ih => exact ih (d.insert e.1 e.2)

/-- **A dictionary is made of its own entries.** -/
theorem ofList_entries (d : Dict α) : ofList d.entries = d := by
  have h : (ofList d.entries).entries = d.entries :=
    (entries_insertAll empty d.entries).trans (foldl_put d.ascending)
  obtain ⟨es, hes⟩ := d
  cases hd : ofList es
  simp_all

end Dict

namespace Json

variable {rest : List Char}

/-! ## Fields -/

/-- The texts of fields. -/
def fieldTexts (fs : List (String × List Char)) : List (List Char) :=
  fs.map fun f => writeField f.1 f.2

lemma writeObject_append (fs : List (String × List Char)) (rest : List Char) :
    writeObject fs ++ rest = '\x7b' :: (separated true (fieldTexts fs) ++ '\x7d' :: rest) := by
  simp [writeObject, fieldTexts, separated_true]

/-- There is fuel for all fields. -/
lemma length_lt_fuel_writeObject (fs : List (String × List Char)) (rest : List Char) :
    fs.length < (writeObject fs ++ rest).length + 1 := by
  rw [writeObject_append, ← List.length_map fun f => writeField f.1 f.2]
  exact length_lt_fuel '\x7b' true (fieldTexts fs) ('\x7d' :: rest)

/-- The key of a field is read back, and a colon stands behind it. -/
lemma nextKey_separated (first : Bool) (k : String) (t : List Char) (ts : List (List Char))
    (rest : List Char) (p : Position) :
    ∃ c q, Cursor.nextKey first ⟨separated first (writeField k t :: ts) ++ rest, p⟩ = .ok (some c) ∧
      readString c.next = .ok (k, ⟨':' :: (t ++ (separated false ts ++ rest)), q⟩) := by
  have key : ∀ p, ∃ q,
      readString (Cursor.next ⟨writeField k t ++ (separated false ts ++ rest), p⟩) =
        .ok (k, ⟨':' :: (t ++ (separated false ts ++ rest)), q⟩) := by
    intro p
    rw [writeField, List.append_assoc, List.cons_append, writeString_append]
    exact readString_writeString k _ _
  rw [separated, List.append_assoc]
  cases first with
  | true =>
    obtain ⟨q, hq⟩ := key p
    exact ⟨_, q, rfl, hq⟩
  | false =>
    obtain ⟨q, hq⟩ := key (p.after ',')
    exact ⟨_, q, rfl, hq⟩

lemma colon_cons (t : List Char) (p : Position) :
    Cursor.colon ⟨':' :: t, p⟩ = .ok ⟨t, p.after ':'⟩ := rfl

section Fields

variable {α : Type} {value : Cursor → Except Fault (α × Cursor)}

/-- **A reader reads the text of a field as its value.** -/
def ReadsField (value : Cursor → Except Fault (α × Cursor)) (f : String × List Char)
    (g : String × α) : Prop :=
  f.1 = g.1 ∧ Reads value f.2 g.2

/-- The fields of an object are read back, from the first one on or behind it, and put to those in
hand. -/
lemma readFields_separated {fs : List (String × List Char)} {gs : List (String × α)}
    (h : List.Forall₂ (ReadsField value) fs gs) {fuel : ℕ} (hfuel : fs.length < fuel) (first : Bool)
    (es : List (String × α)) (rest : List Char) (p : Position) :
    ∃ q, readFields value fuel first es ⟨separated first (fieldTexts fs) ++ '\x7d' :: rest, p⟩ =
      .ok (gs.foldl (fun es g => Dict.put g.1 g.2 es) es, ⟨rest, q⟩) := by
  induction h generalizing fuel first es p with
  | nil =>
    obtain ⟨fuel, rfl⟩ := Nat.exists_eq_add_one.2 hfuel
    exact ⟨_, rfl⟩
  | @cons f g fs gs hfg hfs ih =>
    obtain ⟨fuel, rfl⟩ := Nat.exists_eq_add_one.2 (Nat.zero_lt_of_lt hfuel)
    obtain ⟨k, t⟩ := f
    obtain ⟨k, v⟩ := g
    obtain ⟨rfl, ht⟩ := hfg
    -- each pass takes one field off the text and puts it to those in hand
    obtain ⟨c, q, hnext, hkey⟩ := nextKey_separated first k t (fieldTexts fs) ('\x7d' :: rest) p
    obtain ⟨q', hvalue⟩ :=
      ht.reads (q.after ':') _ (stops_separated (.inr rfl) (fieldTexts fs) rest)
    obtain ⟨q'', hfields⟩ := ih (Nat.lt_of_succ_lt_succ hfuel) false (Dict.put k v es) q'
    refine ⟨q'', ?_⟩
    rw [fieldTexts, List.map_cons, ← fieldTexts, readFields, hnext]
    simp only [hkey, colon_cons, hvalue, hfields, ok_bind]
    rfl

/-- **The fields of a written object are read back** if their keys ascend. -/
theorem readFields_writeObject {fs : List (String × List Char)} {gs : List (String × α)}
    (h : List.Forall₂ (ReadsField value) fs gs) (ascending : gs.Pairwise fun a b => a.1 < b.1)
    (rest : List Char) (p : Position) :
    ∃ q, readFields value ((writeObject fs ++ rest).length + 1) true []
      (Cursor.next ⟨writeObject fs ++ rest, p⟩) = .ok (gs, ⟨rest, q⟩) := by
  have hfuel := length_lt_fuel_writeObject fs rest
  have hput : gs.foldl (fun es g => Dict.put g.1 g.2 es) [] = gs := Dict.foldl_put ascending
  obtain ⟨q, hq⟩ := readFields_separated h hfuel true [] rest (p.after '\x7b')
  rw [hput] at hq
  rw [writeObject_append] at hq ⊢
  exact ⟨q, hq⟩

end Fields

/-! ## Values -/

mutual

/-- **The doubles in a value.** -/
def doubles : Json → List Number
  | num (.float x finite) => [.float x finite]
  | arr items => doublesItems items
  | obj fields => doublesFields fields
  | _ => []

/-- The doubles in a list. -/
def doublesItems : List Json → List Number
  | [] => []
  | v :: vs => doubles v ++ doublesItems vs

/-- The doubles in fields. -/
def doublesFields : List (String × Json) → List Number
  | [] => []
  | (_, v) :: fs => doubles v ++ doublesFields fs

end

/-! What holds of the entries of an object, by membership. -/

lemma canonicalFields_iff {fs : List (String × Json)} :
    CanonicalFields fs ↔ ∀ f ∈ fs, f.2.Canonical := by
  induction fs with
  | nil => simp [CanonicalFields]
  | cons f fs ih => simp [CanonicalFields, ih]

lemma depthFields_le_iff {fs : List (String × Json)} {n : ℕ} :
    depthFields fs ≤ n ↔ ∀ f ∈ fs, f.2.depth ≤ n := by
  induction fs with
  | nil => simp [depthFields]
  | cons f fs ih => rw [depthFields, Nat.max_le, ih, List.forall_mem_cons]

lemma mem_doublesFields {fs : List (String × Json)} {d : Number} :
    d ∈ doublesFields fs ↔ ∃ f ∈ fs, d ∈ f.2.doubles := by
  induction fs with
  | nil => simp [doublesFields]
  | cons f fs ih => simp [doublesFields, ih]

/-- What is no container is read as the scalar that it is. -/
lemma reads_scalar {ch : Char} {t : List Char} {v : Json}
    (hch : Cursor.isBlank ch = false ∧ ch ≠ ']' ∧ ch ≠ '[' ∧ ch ≠ '\x7b')
    (h : ∀ p rest, ∃ q, readScalar ⟨ch :: t ++ rest, p⟩ = .ok (v, ⟨rest, q⟩)) (depth : ℕ) :
    Reads (readValue depth) (ch :: t) v := by
  obtain ⟨hblank, hclosing, harr, hobj⟩ := hch
  refine ⟨⟨ch, t, rfl, hblank, hclosing⟩, fun p rest _ => ?_⟩
  obtain ⟨q, hq⟩ := h p rest
  exact ⟨q, by rw [← hq, List.cons_append, readValue_eq_readScalar hblank harr hobj]⟩

lemma reads_null (depth : ℕ) : Reads (readValue depth) writeNull null :=
  reads_scalar (by decide) (fun _ _ => ⟨_, rfl⟩) depth

lemma reads_bool (b : Bool) (depth : ℕ) : Reads (readValue depth) (writeBool b) (bool b) := by
  cases b
  · exact reads_scalar (by decide) (fun _ _ => ⟨_, rfl⟩) depth
  · exact reads_scalar (by decide) (fun _ _ => ⟨_, rfl⟩) depth

lemma reads_str (s : String) (depth : ℕ) : Reads (readValue depth) (writeString s) (str s) := by
  refine reads_scalar (by decide) (fun p rest => ?_) depth
  change ∃ q, readScalar ⟨writeString s ++ rest, p⟩ = _
  have hread : ∀ t, readScalar ⟨'"' :: t, p⟩ =
      (readString ⟨t, p.after '"'⟩ >>= fun r => .ok (str r.1, r.2)) := fun _ => rfl
  obtain ⟨q, hq⟩ := readString_writeString s rest (p.after '"')
  refine ⟨q, ?_⟩
  rw [writeString_append, hread, hq]
  rfl

/-- An array of texts is read as the array of what they are read as. -/
lemma reads_arr {ts : List (List Char)} {vs : List Json} {depth : ℕ}
    (h : List.Forall₂ (Reads (readValue depth)) ts vs) :
    Reads (readValue (depth + 1)) (writeArray ts) (arr vs) := by
  refine ⟨⟨'[', _, rfl, rfl, by decide⟩, fun p rest _ => ?_⟩
  have hread : readValue (depth + 1) ⟨writeArray ts ++ rest, p⟩ =
      (readItems (readValue depth) ((writeArray ts ++ rest).length + 1) true
        (Cursor.next ⟨writeArray ts ++ rest, p⟩) >>= fun r => .ok (arr r.1, r.2)) := rfl
  obtain ⟨q, hq⟩ := readItems_writeArray h rest p
  exact ⟨q, by rw [hread, hq]; rfl⟩

/-- An object of texts is read as the object of what they are read as, whatever stands behind it. -/
lemma readValue_writeObject {fs : List (String × List Char)} {gs : List (String × Json)} {depth : ℕ}
    (h : List.Forall₂ (ReadsField (readValue depth)) fs gs)
    (ascending : gs.Pairwise fun a b => a.1 < b.1) (rest : List Char) (p : Position) :
    ∃ q, readValue (depth + 1) ⟨writeObject fs ++ rest, p⟩ = .ok (obj gs, ⟨rest, q⟩) := by
  have hread : readValue (depth + 1) ⟨writeObject fs ++ rest, p⟩ =
      (readFields (readValue depth) ((writeObject fs ++ rest).length + 1) true []
        (Cursor.next ⟨writeObject fs ++ rest, p⟩) >>= fun r => .ok (obj r.1, r.2)) := rfl
  obtain ⟨q, hq⟩ := readFields_writeObject h ascending rest p
  exact ⟨q, by rw [hread, hq]; rfl⟩

lemma reads_obj {fs : List (String × List Char)} {gs : List (String × Json)} {depth : ℕ}
    (h : List.Forall₂ (ReadsField (readValue depth)) fs gs)
    (ascending : gs.Pairwise fun a b => a.1 < b.1) :
    Reads (readValue (depth + 1)) (writeObject fs) (obj gs) :=
  ⟨⟨'\x7b', _, rfl, rfl, by decide⟩, fun p rest _ => readValue_writeObject h ascending rest p⟩

mutual

/-- **A written value is read back** by a reader that allows for its depth, if its doubles are. -/
theorem reads_write : ∀ (v : Json) {n : ℕ}, v.depth ≤ n → v.Canonical →
    (∀ d ∈ v.doubles, ReadsBack d) → Reads (readValue n) v.write v
  | null, n, _, _, _ => reads_null n
  | bool b, n, _, _, _ => reads_bool b n
  | num (.int i fits), n, _, _, _ => reads_int i fits n
  | num (.float _ _), n, _, _, hd => reads_double (hd _ (.head [])) n
  | str s, n, _, _, _ => reads_str s n
  | arr items, _ + 1, hn, hc, hd =>
    reads_arr (reads_writeItems items (Nat.le_of_succ_le_succ hn) hc hd)
  | obj fields, _ + 1, hn, hc, hd =>
    reads_obj (reads_writeFields fields (Nat.le_of_succ_le_succ hn) hc.2 hd) hc.1

/-- The items of an array are read back. -/
theorem reads_writeItems : ∀ (vs : List Json) {n : ℕ}, depthItems vs ≤ n → CanonicalItems vs →
    (∀ d ∈ doublesItems vs, ReadsBack d) → List.Forall₂ (Reads (readValue n)) (writeItems vs) vs
  | [], _, _, _, _ => .nil
  | v :: vs, _, hn, hc, hd =>
    .cons (reads_write v (Nat.le_trans (Nat.le_max_left _ _) hn) hc.1 fun d h =>
        hd d (List.mem_append_left _ h))
      (reads_writeItems vs (Nat.le_trans (Nat.le_max_right _ _) hn) hc.2 fun d h =>
        hd d (List.mem_append_right _ h))

/-- The fields of an object are read back. -/
theorem reads_writeFields : ∀ (fs : List (String × Json)) {n : ℕ}, depthFields fs ≤ n →
    CanonicalFields fs → (∀ d ∈ doublesFields fs, ReadsBack d) →
    List.Forall₂ (ReadsField (readValue n)) (writeFields fs) fs
  | [], _, _, _, _ => .nil
  | (_, v) :: fs, _, hn, hc, hd =>
    .cons ⟨rfl, reads_write v (Nat.le_trans (Nat.le_max_left _ _) hn) hc.1 fun d h =>
        hd d (List.mem_append_left _ h)⟩
      (reads_writeFields fs (Nat.le_trans (Nat.le_max_right _ _) hn) hc.2 fun d h =>
        hd d (List.mem_append_right _ h))

end

/-- **A value that can be read back** by a reader that allows for some depth. -/
structure Loadable (n : ℕ) (v : Json) : Prop where
  /-- Arrays and objects nest no deeper than that. -/
  depth : v.depth ≤ n
  /-- The keys of each object ascend, as they do in all values that are read. -/
  canonical : v.Canonical
  /-- Each double is read back from its text. -/
  doubles : ∀ d ∈ v.doubles, ReadsBack d

/-- A dictionary can be read back if each of its values can. -/
lemma loadable_ofDict {d : Dict Json} {n : ℕ} :
    (ofDict d).Loadable (n + 1) ↔ ∀ e ∈ d.entries, e.2.Loadable n := by
  constructor
  · rintro ⟨hdepth, ⟨-, hcanonical⟩, hdoubles⟩ e he
    rw [ofDict, depth, Nat.add_le_add_iff_right, depthFields_le_iff] at hdepth
    exact ⟨hdepth e he, canonicalFields_iff.1 hcanonical e he, fun x hx =>
      hdoubles x (mem_doublesFields.2 ⟨e, he, hx⟩)⟩
  · intro h
    refine ⟨?_, ⟨d.ascending, canonicalFields_iff.2 fun e he => (h e he).canonical⟩, fun x hx => ?_⟩
    · rw [ofDict, depth, Nat.add_le_add_iff_right, depthFields_le_iff]
      exact fun e he => (h e he).depth
    · obtain ⟨e, he, hx⟩ := mem_doublesFields.1 hx
      exact (h e he).doubles x hx

end Json

end ScriptStage
