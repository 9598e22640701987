import ScriptStage.Engine.JavaScript
import ScriptStage.Proofs.Decimal.Values
import ScriptStage.Proofs.Embedded

/-!
# Doubles inside of values

A script has its result as one number, or as an array or an object with numbers at any depth. Both
ways to JSON replace doubles without a fraction by integers. This file shows that normalizing a
value is to do so at each of its leaves alone, just as it is done with a number that is the whole
result, and that all else in the value stays where it is.

A place in a value is the list of the numbers of the items and fields that lead to it from outside.

## Main definitions

* `ScriptStage.Json.at?` — the value at a place.
* `ScriptStage.Json.label` — what a value is apart from the values inside of it.
* `ScriptStage.Json.Becomes` — what a double becomes.

## Main results

* `ScriptStage.Json.at?_normalize` — what stands at a place is normalized there.
* `ScriptStage.Json.becomes_ofResult` — which doubles become integers.
* `ScriptStage.Json.normalize_normalize` — what is normalized stays.
* `ScriptStage.Json.normalize_leafwise` — values are normalized leaf by leaf.
* `ScriptStage.JavaScript.normalize_toJson_num` — a number has one value, as the result of a script
  and inside of a result.
* `ScriptStage.JavaScript.normalize_of_resultOf` — all results of scripts are normalized, whatever
  the engine is.
-/

set_option autoImplicit false

namespace ScriptStage

namespace Json

open Decimal

/-! ## Places -/

/-- **What a value is**, apart from the values inside of it. -/
inductive Label where
  /-- The value `null`. -/
  | null
  /-- A boolean. -/
  | bool (b : Bool)
  /-- An integer. -/
  | int (n : ℤ)
  /-- A double. -/
  | float (x : Float)
  /-- A string. -/
  | str (s : String)
  /-- An array, with the number of its items. -/
  | arr (length : ℕ)
  /-- An object, with its keys in their order. -/
  | obj (keys : List String)

/-- The label of a value. -/
def label : Json → Label
  | null => .null
  | bool b => .bool b
  | num (.int n _) => .int n
  | num (.float x _) => .float x
  | str s => .str s
  | arr items => .arr items.length
  | obj fields => .obj (fields.map (·.1))

/-- The values inside of a value: the items of an array, the values of the fields of an object. -/
def inside : Json → List Json
  | arr items => items
  | obj fields => fields.map (·.2)
  | _ => []

/-- **The value at a place**, if there is this place. -/
def at? (v : Json) : List ℕ → Option Json
  | [] => some v
  | i :: place => v.inside[i]?.bind fun u => u.at? place

/-! ## What a double becomes -/

/-- **What a double becomes**: the integer that it equals, if there is one below `2 ^ 53` in
magnitude, and else it stays. -/
inductive Becomes (x : Float) : Json → Prop
  /-- The integer. Conversion to 64 bits gives it as well: nothing is cut off, and no bound is
  reached. -/
  | integer {n : ℤ} {fits : Fits n} (equal : value x = n) (small : |value x| < 2 ^ 53)
      (converted : x.toModel.toInt64.toInt = n) : Becomes x (num (.int n fits))
  /-- The double. -/
  | double {finite : x.isFinite = true}
      (kept : (∀ n : ℤ, value x ≠ n) ∨ 2 ^ 53 ≤ |value x|) : Becomes x (num (.float x finite))

variable {x : Float}

lemma ofFloat_of_finite (finite : x.isFinite = true) : ofFloat x = num (.float x finite) :=
  dif_pos finite

/-- **The value of a numeric result** is what the double becomes. -/
theorem becomes_ofResult (finite : x.isFinite = true) : Becomes x (ofResult x) := by
  rw [ofResult, if_pos finite, ofFloat_of_finite finite]
  cases hinteger : (Dyadic.ofFloat x).toInt? with
  | none =>
    refine .double (.inl fun n equal => ?_)
    rw [(toInt?_ofFloat_eq_some_iff finite n).2 equal] at hinteger
    exact nomatch hinteger
  | some n =>
    have equal : value x = n := (toInt?_ofFloat_eq_some_iff finite n).1 hinteger
    have hmagnitude : |value x| = n.natAbs := by rw [equal, Nat.cast_natAbs, Int.cast_abs]
    dsimp only
    split
    · next hsmall =>
      have hbound : n.natAbs < 2 ^ 53 := hsmall
      have fits : Fits n := ⟨by omega, by omega⟩
      rw [ofInt, dif_pos fits]
      refine .integer equal ?_ (toInt_toInt64 finite equal (by omega) (by omega))
      rw [hmagnitude]
      exact_mod_cast hbound
    · next hlarge =>
      have hbound : 2 ^ 53 ≤ n.natAbs := Nat.le_of_not_lt hlarge
      refine .double (.inr ?_)
      rw [hmagnitude]
      exact_mod_cast hbound

/-- The value of a result that is not finite is null. -/
lemma ofResult_of_not_finite (h : x.isFinite ≠ true) : ofResult x = null :=
  if_neg h

/-- There is nothing inside of the value of a numeric result. -/
lemma inside_ofResult (x : Float) : (ofResult x).inside = [] := by
  by_cases finite : x.isFinite = true
  · have hbecomes := becomes_ofResult finite
    generalize ofResult x = w at hbecomes ⊢
    cases hbecomes <;> rfl
  · rw [ofResult_of_not_finite finite]
    rfl

/-- The value of a numeric result has no more doubles to replace. -/
lemma normalize_ofResult (x : Float) : normalize (ofResult x) = ofResult x := by
  by_cases finite : x.isFinite = true
  · have hbecomes := becomes_ofResult finite
    generalize hw : ofResult x = w at hbecomes ⊢
    cases hbecomes with
    | integer => rfl
    | double => exact hw
  · rw [ofResult_of_not_finite finite]
    rfl

/-- A double is normalized as a numeric result, finite or not. -/
lemma normalize_ofFloat (x : Float) : normalize (ofFloat x) = ofResult x := by
  by_cases finite : x.isFinite = true
  · rw [ofFloat_of_finite finite, normalize]
  · rw [ofResult_of_not_finite finite, ofFloat, dif_neg finite]
    rfl

/-! ## Leaf by leaf -/

lemma normalizeItems_eq_map (items : List Json) : normalizeItems items = items.map normalize := by
  induction items with
  | nil => rfl
  | cons v vs ih => rw [normalizeItems, ih, List.map_cons]

lemma normalizeFields_eq_map (fields : List (String × Json)) :
    normalizeFields fields = fields.map fun f => (f.1, normalize f.2) := by
  induction fields with
  | nil => rfl
  | cons f fs ih => rw [normalizeFields, ih, List.map_cons]

/-- What is inside of a value is normalized there. -/
lemma inside_normalize (v : Json) : (normalize v).inside = v.inside.map normalize := by
  cases v with
  | num n =>
    cases n with
    | int n fits => rfl
    | float x finite => exact inside_ofResult x
  | arr items => exact normalizeItems_eq_map items
  | obj fields =>
    rw [normalize, normalizeFields_eq_map]
    simp only [inside, List.map_map]
    rfl
  | null | bool b | str s => rfl

/-- A value that is no double keeps its label. -/
lemma label_normalize {v : Json} (h : ∀ x, v.label ≠ .float x) :
    (normalize v).label = v.label := by
  cases v with
  | num n =>
    cases n with
    | int n fits => rfl
    | float x finite => exact absurd rfl (h x)
  | arr items => rw [normalize, normalizeItems_eq_map, label, label, List.length_map]
  | obj fields =>
    rw [normalize, normalizeFields_eq_map, label, label, List.map_map]
    rfl
  | null | bool b | str s => rfl

/-- **What stands at a place is normalized there.** -/
theorem at?_normalize (v : Json) (place : List ℕ) :
    (normalize v).at? place = (v.at? place).map normalize := by
  induction place generalizing v with
  | nil => rfl
  | cons i place ih =>
    rw [at?, at?, inside_normalize, List.getElem?_map]
    cases v.inside[i]? with
    | none => rfl
    | some u => exact ih u

/-- A double that is left equals no integer, or is not below `2 ^ 53` in magnitude. -/
lemma kept_of_normalize {v : Json} {finite : x.isFinite = true}
    (h : normalize v = num (.float x finite)) :
    (∀ n : ℤ, value x ≠ n) ∨ 2 ^ 53 ≤ |value x| := by
  cases v with
  | num n =>
    cases n with
    | int n fits => exact nomatch h
    | float y finite' =>
      have hbecomes := becomes_ofResult finite'
      have hleft : ofResult y = num (.float x finite) := h
      rw [hleft] at hbecomes
      cases hbecomes with
      | double kept => exact kept
  | null | bool b | str s | arr items | obj fields => exact nomatch h

mutual

/-- **What is normalized stays** when it is normalized again. -/
theorem normalize_normalize : ∀ v : Json, normalize (normalize v) = normalize v
  | null | bool _ | str _ | num (.int _ _) => rfl
  | num (.float x _) => normalize_ofResult x
  | arr items => congrArg arr (normalizeItems_normalizeItems items)
  | obj fields => congrArg obj (normalizeFields_normalizeFields fields)

lemma normalizeItems_normalizeItems : ∀ vs : List Json,
    normalizeItems (normalizeItems vs) = normalizeItems vs
  | [] => rfl
  | v :: vs => congrArg₂ List.cons (normalize_normalize v) (normalizeItems_normalizeItems vs)

lemma normalizeFields_normalizeFields : ∀ fs : List (String × Json),
    normalizeFields (normalizeFields fs) = normalizeFields fs
  | [] => rfl
  | (k, v) :: fs =>
    congrArg₂ List.cons (congrArg (Prod.mk k) (normalize_normalize v))
      (normalizeFields_normalizeFields fs)

end

/-- **Values are normalized leaf by leaf.**

* There are the same places before and after.
* Where no double stands, the same stands afterwards: arrays with as many items, objects with the
  same keys in the same order, strings, booleans, nulls and integers.
* Where a double stands, its value as a result of its own stands afterwards. That is the integer
  that the double equals, which conversion to 64 bits gives as well, if there is one below `2 ^ 53`
  in magnitude, and else the double.
* Each double that is left equals no integer, or is not below `2 ^ 53` in magnitude.
* A second time changes nothing. -/
theorem normalize_leafwise (v : Json) :
    (∀ place, ((normalize v).at? place).isSome = (v.at? place).isSome) ∧
      (∀ place u, v.at? place = some u → (∀ x, u.label ≠ .float x) →
        ((normalize v).at? place).map label = some u.label) ∧
      (∀ place x finite, v.at? place = some (num (.float x finite)) →
        (normalize v).at? place = some (ofResult x) ∧ Becomes x (ofResult x) ∧
          ∀ (h : JavaScript.Engine) (u : h.Value), h.view u = .number x →
            h.resultOf u = pure (ofResult x)) ∧
      (∀ place x finite, (normalize v).at? place = some (num (.float x finite)) →
        (∀ n : ℤ, value x ≠ n) ∨ 2 ^ 53 ≤ |value x|) ∧
      normalize (normalize v) = normalize v := by
  refine ⟨fun place => ?_, fun place u hu hlabel => ?_, fun place x finite hx => ⟨?_, ?_, ?_⟩,
    fun place x finite hx => ?_, normalize_normalize v⟩
  · rw [at?_normalize, Option.isSome_map]
  · rw [at?_normalize, hu]
    exact congrArg some (label_normalize hlabel)
  · rw [at?_normalize, hx]
    rfl
  · exact becomes_ofResult finite
  · intro h u hu
    rw [JavaScript.Engine.resultOf, hu]
  · rw [at?_normalize, Option.map_eq_some_iff] at hx
    obtain ⟨u, -, hu⟩ := hx
    exact kept_of_normalize hu

/-- In an array inside of an object, the least double above `-2 ^ 53` becomes the integer that it
equals, `2 ^ 53` stays a double, and an integer stays as it is. -/
theorem normalize_leafwise_boundary :
    let v := obj [("a", arr [ofFloat (-9007199254740991.0), ofFloat 9007199254740992.0,
      num (.int 7 (by decide))])]
    ((normalize v).at? [0, 0] = some (num (.int (-9007199254740991) (by decide))) ∧
        value (-9007199254740991.0) = (-9007199254740991 : ℤ) ∧
        JavaScript.engine.resultOf (.num (-9007199254740991.0)) =
          pure (num (.int (-9007199254740991) (by decide)))) ∧
      ((normalize v).at? [0, 1] = some (num (.float 9007199254740992.0 (by decide +kernel))) ∧
        ((∀ n : ℤ, value 9007199254740992.0 ≠ n) ∨ 2 ^ 53 ≤ |value 9007199254740992.0|)) ∧
      ((normalize v).at? [0, 2]).map label = some (.int 7) ∧
      normalize (normalize v) = normalize v := by
  intro v
  obtain ⟨-, kept, replaced, left, again⟩ := normalize_leafwise v
  obtain ⟨hplace, hbecomes, hresult⟩ :=
    replaced [0, 0] (-9007199254740991.0) (by decide +kernel) rfl
  have hinteger : ofResult (-9007199254740991.0) = num (.int (-9007199254740991) (by decide)) := rfl
  rw [hinteger] at hplace hbecomes hresult
  have hdouble : (normalize v).at? [0, 1] =
      some (num (.float 9007199254740992.0 (by decide +kernel))) := rfl
  refine ⟨⟨hplace, ?_, hresult JavaScript.engine _ rfl⟩, ⟨hdouble, left _ _ _ hdouble⟩,
    kept [0, 2] _ rfl nofun, again⟩
  cases hbecomes with
  | integer equal => exact equal

end Json

/-! ## Results of scripts -/

namespace JavaScript

/-- **A number inside of a result** has the value that it has as the whole result. -/
theorem normalize_toJson_num (objects : Array Object) (fuel : ℕ) (x : Float) :
    Json.normalize <$> toJson objects (fuel + 1) (.num x) = pure (Json.ofResult x) :=
  congrArg (fun v => (pure v : ExceptT RunFault Embedded.Outcome Json)) (Json.normalize_ofFloat x)

/-- **All results are normalized**, whatever the engine is. -/
theorem normalize_of_resultOf {h : Engine} {v : h.Value} {c c' : h.Context} {w : Json}
    (hw : (h.resultOf v).run.run c = .returned (.ok w, c')) : w.normalize = w := by
  unfold Engine.resultOf at hw
  split at hw
  · cases hw
    rfl
  · cases hw
    exact Json.normalize_ofResult _
  · cases hw
    rfl
  · cases hw
    rfl
  · obtain ⟨j, c₁, -, hj⟩ := Embedded.Operation.bind_eq_ok hw
    cases hj
    exact Json.normalize_normalize j

end JavaScript

end ScriptStage
