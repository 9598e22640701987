/-!
# Dictionaries with keys in ascending order

A `Dict` is a finite map from strings, kept as the list of its entries in strictly ascending
order of keys. Strings are ordered by code point, which is also the order of their UTF-8 bytes.
Two dictionaries with the same entries are equal.

## Main definitions

* `ScriptStage.Dict`: the type; `get?`, `insert`, `keys`, `contains`, `ofList`.
* `ScriptStage.Dict.put`: insertion into an ascending list, also used by JSON objects.

## Main results

* `ScriptStage.Dict.get?_insert`: reading after a write.
* `ScriptStage.Dict.keys_ascending`: the keys ascend.
-/

set_option autoImplicit false

namespace ScriptStage

universe u

/-- A finite map from strings with its entries in strictly ascending order of keys. -/
structure Dict (α : Type u) where
  /-- The entries in ascending order. -/
  entries : List (String × α)
  /-- The keys ascend strictly, so no key occurs twice. -/
  ascending : entries.Pairwise fun a b => a.1 < b.1 := by simp
  deriving DecidableEq

namespace Dict

variable {α : Type u}

/-- Writes an entry into a list with ascending keys, in its place or over the entry with that
key. -/
def put (k : String) (v : α) : List (String × α) → List (String × α)
  | [] => [(k, v)]
  | (k', v') :: rest =>
    if k < k' then (k, v) :: (k', v') :: rest
    else if k' < k then (k', v') :: put k v rest
    else (k, v) :: rest

/-- The value at a key in a list of entries. -/
def find? (k : String) : List (String × α) → Option α
  | [] => none
  | (k', v) :: rest => if k' = k then some v else find? k rest

theorem eq_of_not_lt {a b : String} (h₁ : ¬ a < b) (h₂ : ¬ b < a) : a = b :=
  String.le_antisymm (String.not_lt.mp h₂) (String.not_lt.mp h₁)

/-- Each key after a write is the one written or one that was there. -/
theorem mem_put {k : String} {v : α} {es : List (String × α)} {e : String × α}
    (h : e ∈ put k v es) : e = (k, v) ∨ e ∈ es := by
  induction es with
  | nil => simpa [put] using h
  | cons x xs ih =>
    obtain ⟨k', v'⟩ := x
    unfold put at h
    split at h
    · simpa using h
    · split at h
      · rcases List.mem_cons.1 h with h | h
        · exact Or.inr (by simp [h])
        · rcases ih h with h | h
          · exact Or.inl h
          · exact Or.inr (List.mem_cons_of_mem _ h)
      · rcases List.mem_cons.1 h with h | h
        · exact Or.inl h
        · exact Or.inr (List.mem_cons_of_mem _ h)

/-- A write keeps the keys ascending. -/
theorem put_ascending (k : String) (v : α) {es : List (String × α)}
    (h : es.Pairwise fun a b => a.1 < b.1) :
    (put k v es).Pairwise fun a b => a.1 < b.1 := by
  induction es with
  | nil => simp [put]
  | cons x xs ih =>
    obtain ⟨k', v'⟩ := x
    rw [List.pairwise_cons] at h
    obtain ⟨hx, hxs⟩ := h
    unfold put
    split
    · next hlt =>
      rw [List.pairwise_cons, List.pairwise_cons]
      refine ⟨fun b hb => ?_, hx, hxs⟩
      rcases List.mem_cons.1 hb with rfl | hb
      · exact hlt
      · exact String.lt_trans hlt (hx b hb)
    · next hnlt =>
      split
      · next hlt =>
        rw [List.pairwise_cons]
        refine ⟨fun b hb => ?_, ih hxs⟩
        rcases mem_put hb with rfl | hb
        · exact hlt
        · exact hx b hb
      · next hngt =>
        obtain rfl : k = k' := eq_of_not_lt hnlt hngt
        rw [List.pairwise_cons]
        exact ⟨hx, hxs⟩

/-- A write is read back, and every other key is read as before. -/
theorem find?_put (k k' : String) (v : α) (es : List (String × α)) :
    find? k' (put k v es) = if k = k' then some v else find? k' es := by
  induction es with
  | nil => simp [put, find?]
  | cons x xs ih =>
    obtain ⟨q, w⟩ := x
    unfold put
    split
    · simp [find?]
    · next h₁ =>
      split
      · next h₂ =>
        simp only [find?, ih]
        by_cases hq : q = k'
        · subst hq
          have : k ≠ q := fun h => String.lt_irrefl q (h ▸ h₂)
          simp [this]
        · simp [hq]
      · next h₂ =>
        obtain rfl : k = q := eq_of_not_lt h₁ h₂
        simp only [find?]
        by_cases hk : k = k' <;> simp [hk]

/-- The dictionary with no entries. -/
def empty : Dict α := ⟨[], by simp⟩

instance : Inhabited (Dict α) := ⟨empty⟩

/-- Writes an entry, over the entry with that key if there is one. -/
def insert (d : Dict α) (k : String) (v : α) : Dict α :=
  ⟨put k v d.entries, put_ascending k v d.ascending⟩

/-- The value at a key. -/
def get? (d : Dict α) (k : String) : Option α :=
  find? k d.entries

/-- Whether a key has a value. -/
def contains (d : Dict α) (k : String) : Bool :=
  (d.get? k).isSome

/-- The keys in ascending order. -/
def keys (d : Dict α) : List String :=
  d.entries.map (·.1)

/-- Writes entries one after another. -/
def insertAll (d : Dict α) (es : List (String × α)) : Dict α :=
  es.foldl (fun d e => d.insert e.1 e.2) d

/-- The dictionary of a list of entries; of two entries with one key the later counts. -/
def ofList (es : List (String × α)) : Dict α :=
  empty.insertAll es

/-- Reading after a write. -/
@[simp]
theorem get?_insert (d : Dict α) (k k' : String) (v : α) :
    (d.insert k v).get? k' = if k = k' then some v else d.get? k' :=
  find?_put k k' v d.entries

@[simp]
theorem get?_empty (k : String) : (empty : Dict α).get? k = none := rfl

/-- The keys ascend strictly. -/
theorem keys_ascending (d : Dict α) : d.keys.Pairwise (· < ·) :=
  List.pairwise_map.2 d.ascending

end Dict

end ScriptStage
