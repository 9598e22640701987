import ScriptStage.Json.Reader.Record
import ScriptStage.Proofs.Json.Values

/-!
# Records that are read back

A record is written as an object. Its reader goes from draft to draft: each field takes the draft
that it finds to the one with its value. `ScriptStage.Json.Drafts` follows this along the fields of
a text, so that what remains for a type of records is one statement for each of its fields and what
is made of the last draft.

## Main definitions

* `ScriptStage.Json.Drafts` — the fields of a text take a draft to another one.

## Main results

* `ScriptStage.Json.reads_text`, `reads_flag`, `reads_dict`, `reads_listOf` — values of the simple
  types are read back.
* `ScriptStage.Json.reads_record` — what a text of fields is read as.
-/

set_option autoImplicit false

namespace ScriptStage.Json

variable {α β : Type} {t : List Char} {v : α}

/-! ## Simple types -/

/-- What is made of a value does not matter to reading it. -/
lemma Reads.map {reader : Cursor → Except Fault (α × Cursor)} (h : Reads reader t v) (f : α → β) :
    Reads (fun c => (reader c).map fun r => (f r.1, r.2)) t (f v) := by
  refine ⟨h.starts, fun p rest stops => ?_⟩
  obtain ⟨q, hq⟩ := h.reads p rest stops
  exact ⟨q, by rw [hq]; rfl⟩

/-- **Strings are read back.** -/
theorem reads_text (expected s : String) : Reads (readText expected) (writeString s) s := by
  refine ⟨⟨'"', _, rfl, rfl, by decide⟩, fun p rest _ => ?_⟩
  have hread : ∀ t, readText expected ⟨'"' :: t, p⟩ = readString ⟨t, p.after '"'⟩ := fun _ => rfl
  obtain ⟨q, hq⟩ := readString_writeString s rest (p.after '"')
  exact ⟨q, by rw [writeString_append, hread, hq]⟩

/-- **Booleans are read back.** -/
theorem reads_flag (b : Bool) : Reads readFlag (writeBool b) b := by
  cases b
  · exact ⟨⟨'f', _, rfl, rfl, by decide⟩, fun _ _ _ => ⟨_, rfl⟩⟩
  · exact ⟨⟨'t', _, rfl, rfl, by decide⟩, fun _ _ _ => ⟨_, rfl⟩⟩

/-- A string is read back where there could be `null`. -/
lemma reads_optional (expected s : String) :
    Reads (readOptional (readText expected)) (writeString s) (some s) := by
  obtain ⟨starts, reads⟩ := (reads_text expected s).map some
  exact ⟨starts, reads⟩

/-- **A dictionary is read back.** -/
theorem reads_dict {d : Dict Json} {n : ℕ} (h : (ofDict d).Loadable n) :
    Reads (readDict n) (ofDict d).write d := by
  obtain ⟨hdepth, canonical, hdoubles⟩ := h
  obtain ⟨n, rfl⟩ := Nat.exists_eq_add_one.2 (Nat.zero_lt_of_lt hdepth)
  have hfields := reads_writeFields d.entries (Nat.le_of_succ_le_succ hdepth) canonical.2 hdoubles
  refine ⟨⟨'\x7b', _, rfl, rfl, by decide⟩, fun p rest _ => ?_⟩
  have hread : readDict (n + 1) ⟨(ofDict d).write ++ rest, p⟩ =
      (readFields (readValue n) ((writeObject (writeFields d.entries) ++ rest).length + 1) true []
        (Cursor.next ⟨writeObject (writeFields d.entries) ++ rest, p⟩) >>= fun r =>
          .ok (.ofList r.1, r.2)) := rfl
  obtain ⟨q, hq⟩ := readFields_writeObject hfields d.ascending rest p
  refine ⟨q, ?_⟩
  rw [hread, hq, ok_bind, Dict.ofList_entries]

/-- **A list is read back** if its items are. -/
theorem reads_listOf {item : ℕ → Cursor → Except Fault (α × Cursor)} {depth : ℕ}
    {ts : List (List Char)} {vs : List α} (h : List.Forall₂ (Reads (item depth)) ts vs) :
    Reads (readListOf item (depth + 1)) (writeArray ts) vs := by
  refine ⟨⟨'[', _, rfl, rfl, by decide⟩, fun p rest _ => ?_⟩
  have hread : readListOf item (depth + 1) ⟨writeArray ts ++ rest, p⟩ =
      readItems (item depth) ((writeArray ts ++ rest).length + 1) true
        (Cursor.next ⟨writeArray ts ++ rest, p⟩) := rfl
  obtain ⟨q, hq⟩ := readItems_writeArray h rest p
  exact ⟨q, by rw [hread, hq]⟩

/-! ## Records -/

section Records

variable {δ : Type} {s : Shape δ α} {depth : ℕ}

/-- **The fields of a text take a draft to another one.** No key denotes what the draft has. -/
inductive Drafts (s : Shape δ α) (depth : ℕ) : List (String × List Char) → δ → δ → Prop
  | nil (d : δ) : Drafts s depth [] d d
  | cons {f : Field δ} {k : String} {t : List Char} {fs : List (String × List Char)}
      {d d' d'' : δ} (field : s.field? k = some f) (unset : f.isSet d = false)
      (reads : Reads (f.read depth d) t d') (rest : Drafts s depth fs d' d'') :
      Drafts s depth ((k, t) :: fs) d d''

lemma Drafts.append {fs gs : List (String × List Char)} {d d' d'' : δ} (h : Drafts s depth fs d d')
    (h' : Drafts s depth gs d' d'') : Drafts s depth (fs ++ gs) d d'' := by
  induction h with
  | nil d => exact h'
  | cons field unset reads _ ih => exact .cons field unset reads (ih h')

/-- One field. -/
lemma Drafts.single {f : Field δ} {k : String} {t : List Char} {d d' : δ}
    (field : s.field? k = some f) (unset : f.isSet d = false)
    (reads : Reads (f.read depth d) t d') :
    Drafts s depth [(k, t)] d d' :=
  .cons field unset reads (.nil d')

/-- A field of a record is read off the front of the fields, the first one or behind it. -/
lemma readMembers_cons {f : Field δ} {k : String} {t : List Char} {d d' : δ}
    (field : s.field? k = some f) (unset : f.isSet d = false) (ts : List (List Char))
    (rest : List Char) (reads : ∀ p, ∃ q,
      f.read depth d ⟨t ++ (separated false ts ++ '\x7d' :: rest), p⟩ =
        .ok (d', ⟨separated false ts ++ '\x7d' :: rest, q⟩))
    (fuel : ℕ) (first : Bool) (p : Position) :
    ∃ q, s.readMembers depth (fuel + 1) first d
        ⟨separated first (writeField k t :: ts) ++ '\x7d' :: rest, p⟩ =
      s.readMembers depth fuel false d' ⟨separated false ts ++ '\x7d' :: rest, q⟩ := by
  obtain ⟨c, q, hnext, hkey⟩ := nextKey_separated first k t ts ('\x7d' :: rest) p
  obtain ⟨q', hvalue⟩ := reads (q.after ':')
  refine ⟨q', ?_⟩
  rw [Shape.readMembers, hnext]
  simp only [hkey, field, unset, colon_cons, hvalue, ok_bind, Bool.false_eq_true, if_false]

/-- The fields of a record are read up to the closing brace, from the first one on or behind it. -/
lemma readMembers_separated {fs : List (String × List Char)} {d d' : δ} (h : Drafts s depth fs d d')
    {fuel : ℕ} (hfuel : fs.length < fuel) (first : Bool) (rest : List Char) (p : Position) :
    ∃ q, s.readMembers depth fuel first d
        ⟨separated first (fieldTexts fs) ++ '\x7d' :: rest, p⟩ =
      .ok (.ok d', ⟨'\x7d' :: rest, q⟩) := by
  induction h generalizing fuel first p with
  | nil d =>
    obtain ⟨fuel, rfl⟩ := Nat.exists_eq_add_one.2 hfuel
    exact ⟨_, rfl⟩
  | @cons f k t fs d d' d'' field unset reads _ ih =>
    obtain ⟨fuel, rfl⟩ := Nat.exists_eq_add_one.2 (Nat.zero_lt_of_lt hfuel)
    have hreads := fun p =>
      reads.reads p _ (stops_separated (.inr rfl) (fieldTexts fs) rest)
    obtain ⟨q, hstep⟩ := readMembers_cons field unset (fieldTexts fs) rest hreads fuel first p
    obtain ⟨q', hfields⟩ := ih (Nat.lt_of_succ_lt_succ hfuel) false q
    exact ⟨q', hstep.trans hfields⟩

/-- Once the fields of a record are read, so is the record, whatever stands behind it. -/
lemma readRecord_writeObject {fs : List (String × List Char)} {d : δ} {rest : List Char}
    (h : ∀ fuel, fs.length < fuel → ∀ p, ∃ q, s.readMembers depth fuel true s.start
      ⟨separated true (fieldTexts fs) ++ '\x7d' :: rest, p⟩ = .ok (.ok d, ⟨'\x7d' :: rest, q⟩))
    (hv : s.finish d = .ok v) (p : Position) :
    ∃ q, readRecord s (depth + 1) ⟨writeObject fs ++ rest, p⟩ = .ok (v, ⟨rest, q⟩) := by
  have hread : ∀ t, readRecord s (depth + 1) ⟨'\x7b' :: t, p⟩ =
      (s.readMembers depth (('\x7b' :: t).length + 1) true s.start ⟨t, p.after '\x7b'⟩ >>= fun r =>
        s.settle '\x7d' Cursor.closeObject r.1 r.2) := fun _ => rfl
  have hfuel : fs.length < (writeObject fs ++ rest).length + 1 := length_lt_fuel_writeObject fs rest
  obtain ⟨q, hq⟩ := h _ hfuel (p.after '\x7b')
  rw [writeObject_append] at hq
  -- the brace is still unread where the fields end
  have hsettle : s.settle '\x7d' Cursor.closeObject (.ok d) ⟨'\x7d' :: rest, q⟩ =
      .ok (v, ⟨rest, q.after '\x7d'⟩) := by
    rw [Shape.settle, hv]
    rfl
  refine ⟨q.after '\x7d', ?_⟩
  rw [writeObject_append, hread, hq, ok_bind, hsettle]

/-- **A text of fields is read as the record of the draft** that the fields lead to. -/
theorem reads_record {fs : List (String × List Char)} {d : δ} (h : Drafts s depth fs s.start d)
    (hv : s.finish d = .ok v) : Reads (readRecord s (depth + 1)) (writeObject fs) v := by
  refine ⟨⟨'\x7b', _, rfl, rfl, by decide⟩, fun p rest _ => ?_⟩
  exact readRecord_writeObject (fun _ hfuel p => readMembers_separated h hfuel true rest p) hv p

end Records

end ScriptStage.Json
