import Mathlib.Data.List.Forall2
import ScriptStage.Proofs.Json.Ignored
import ScriptStage.Proofs.Json.Layout
import ScriptStage.Proofs.Worker.Wire
import ScriptStage.Worker.Document

/-!
# What interpreters write

An interpreter writes documents as JSON text on one line. In strings everything is escaped that is
no printable character of ASCII. A text of units can therefore be written even if half of a
surrogate pair stands alone in it.

## Main results

* `ScriptStage.Worker.Document.isBody_units` — every text of units can stand in a string.
* `ScriptStage.Worker.Document.isValue_write` — the text of every document is that of a value.
* `ScriptStage.Worker.Document.oneLine_write` — it stands on one line.
-/

set_option autoImplicit false

namespace ScriptStage

/-! ## Hexadecimal digits -/

namespace Text

/-- Digits denote a number, and nothing else does. -/
lemma natIn?_isSome_iff {base : ℕ} {ds : List Char} :
    (natIn? base ds).isSome = true ↔ ds ≠ [] ∧ ∀ c ∈ ds, (digitIn? base c).isSome = true := by
  have hfold : ∀ (ds : List Char) (n : ℕ),
      (ds.foldlM (fun n c => (digitIn? base c).map (n * base + ·)) n).isSome = true ↔
        ∀ c ∈ ds, (digitIn? base c).isSome = true := by
    intro ds
    induction ds with
    | nil => simp
    | cons c ds ih =>
      intro n
      rw [List.foldlM_cons, List.forall_mem_cons]
      cases hc : digitIn? base c with
      | none => simp
      | some m => simpa using ih (n * base + m)
  unfold natIn?
  cases ds with
  | nil => simp
  | cons c ds => simpa using hfold (c :: ds) 0

lemma digitIn?_of_mem_toDigits {n : ℕ} :
    ∀ c ∈ Nat.toDigits 16 n, (digitIn? 16 c).isSome = true := by
  have hdigit : ∀ k < 16, (digitIn? 16 (Nat.digitChar k)).isSome = true := by decide
  induction n using Nat.strongRecOn with
  | ind n ih =>
    rcases Nat.lt_or_ge n 16 with h | h
    · rw [Nat.toDigits_of_lt_base h]
      exact List.forall_mem_singleton.2 (hdigit n h)
    · rw [Nat.toDigits_of_base_le (by decide) h]
      exact List.forall_mem_append.2 ⟨ih _ (Nat.div_lt_self (by omega) (by decide)),
        List.forall_mem_singleton.2 (hdigit _ (Nat.mod_lt n (by decide)))⟩

end Text

namespace Worker.Document

open Json

/-! ## Strings -/

/-- The number of a unit is written with four digits. -/
lemma exists_four_digits (u : UInt16) :
    ∃ x y z w, Decimal.Notation.padZeros 4 (Nat.toDigits 16 u.toNat) = [x, y, z, w] ∧
      (Text.natIn? 16 [x, y, z, w]).isSome = true := by
  set ds := Decimal.Notation.padZeros 4 (Nat.toDigits 16 u.toNat) with hds
  have hlength : ds.length = 4 := by
    have hle := (Nat.length_toDigits_le_iff (b := 16) (k := 4) (by decide) (by decide)).2 u.toNat_lt
    rw [hds, Decimal.Notation.padZeros, List.length_append, List.length_replicate]
    omega
  have hdigits : ∀ c ∈ ds, (Text.digitIn? 16 c).isSome = true := by
    refine List.forall_mem_append.2 ⟨fun c hc => ?_, Text.digitIn?_of_mem_toDigits⟩
    rw [List.eq_of_mem_replicate hc]
    decide
  obtain ⟨x, y, z, w, hfour⟩ := List.length_eq_four.1 hlength
  rw [hfour] at hdigits
  exact ⟨x, y, z, w, hfour, Text.natIn?_isSome_iff.2 ⟨by simp, hdigits⟩⟩

/-- What a unit is written as: a character with a backslash, a printable one, or four digits. -/
inductive Escaped : List Char → Prop
  | simple {d : Char} (h : (simpleEscape? d).isSome = true) : Escaped ['\\', d]
  | plain {c : Char} (quote : c ≠ '"') (backslash : c ≠ '\\') (control : isControl c = false) :
    Escaped [c]
  | number {x y z w : Char} (h : (Text.natIn? 16 [x, y, z, w]).isSome = true) :
    Escaped ['\\', 'u', x, y, z, w]

lemma escaped_escape (u : UInt16) : Escaped (escape u) := by
  have hnumber : Escaped ('\\' :: 'u' ::
      Decimal.Notation.padZeros 4 (Nat.toDigits 16 u.toNat)) := by
    obtain ⟨x, y, z, w, hfour, hsome⟩ := exists_four_digits u
    rw [hfour]
    exact .number hsome
  unfold escape
  dsimp only
  split
  · next h =>
    rcases h with h | h | h | h | h | h | h <;> rw [h] <;> exact .simple (by decide)
  split
  · next hshort hrange =>
    rw [not_or, not_or] at hshort
    have hchar : (Char.ofNat u.toNat).toNat = u.toNat := by
      rw [Char.ofNat, dif_pos (by unfold Nat.isValidChar; omega)]
      rfl
    refine .plain hshort.1 hshort.2.1 (decide_eq_false ?_)
    rw [hchar]
    omega
  · exact hnumber

lemma Escaped.isBody {s t : List Char} (h : Escaped s) (more : IsBody t) : IsBody (s ++ t) := by
  cases h with
  | simple h => exact .simple h more
  | plain quote backslash control => exact .plain quote backslash control more
  | number h => exact .number h more

/-- **Every text of units can stand between the quotes of a string.** -/
theorem isBody_units (us : List UInt16) : IsBody (us.flatMap escape) := by
  induction us with
  | nil => exact .nil
  | cons u us ih => exact (escaped_escape u).isBody ih

lemma writeUnits_eq (us : List UInt16) : writeUnits us = '"' :: (us.flatMap escape ++ ['"']) := rfl

lemma isValue_writeUnits (us : List UInt16) : IsValue (writeUnits us) :=
  .scalar (.text (isBody_units us))

/-- There are no line feeds in a string. -/
lemma oneLine_of_isBody {t : List Char} (h : IsBody t) : OneLine t := by
  induction h with
  | nil => exact .nil
  | plain quote backslash control _ ih =>
    refine .cons ?_ ih
    rintro rfl
    exact nomatch control
  | @simple d t h _ ih =>
    refine .cons (by decide) (.cons ?_ ih)
    rintro rfl
    exact nomatch h
  | @number x y z w t h _ ih =>
    have hdigits : OneLine [x, y, z, w] := by
      intro c hc
      have hsome := (Text.natIn?_isSome_iff.1 h).2 c hc
      rintro rfl
      exact nomatch hsome
    exact .cons (by decide) (.cons (by decide) (hdigits.append ih))

lemma oneLine_writeUnits (us : List UInt16) : OneLine (writeUnits us) := by
  have hquote : '"' ≠ '\n' := by decide
  exact .cons hquote ((oneLine_of_isBody (isBody_units us)).append (.cons hquote .nil))

/-- There are no line feeds in a number. -/
lemma oneLine_of_isNumber {t : List Char} (h : IsNumber t) : OneLine t := by
  have hdigits : ∀ {ds}, IsDigits ds → OneLine ds := by
    rintro ds h c hc rfl
    exact nomatch h.2 _ hc
  obtain ⟨signed, digits, -, isFraction, isExponent⟩ := h
  have hsign : ∀ s ∈ [[], ['+'], ['-']], OneLine s := by
    refine List.forall_mem_cons.2 ⟨.nil, List.forall_mem_cons.2 ⟨.of_noBlanks (by decide),
      List.forall_mem_singleton.2 (.of_noBlanks (by decide))⟩⟩
  refine .append (hsign _ ?_) ((hdigits digits).append (.append ?_ ?_))
  · simp only [List.mem_cons, List.not_mem_nil, or_false] at signed ⊢
    exact signed.imp_right .inr
  · cases isFraction with
    | absent => exact .nil
    | given digits => exact .cons (by decide) (hdigits digits)
  · cases isExponent with
    | absent => exact .nil
    | given letter signed digits =>
      refine .cons ?_ ((hsign _ signed).append (hdigits digits))
      rintro rfl
      exact absurd letter (by decide)

/-! ## Documents -/

/-- Texts with a blank in front of each but the first. -/
def spaced : List (List Char) → List (List Char)
  | [] => []
  | t :: ts => t :: ts.map (' ' :: ·)

/-- A blank stands behind each comma. -/
lemma separated_eq (ts : List (List Char)) : separated ts = commaSeparated (spaced ts) := by
  have hcons : ∀ t ts, separated (t :: ts) = t ++ Json.separated false (ts.map (' ' :: ·)) := by
    intro t ts
    induction ts generalizing t with
    | nil => simp [separated, Json.separated]
    | cons u ts ih =>
      have hu : separated (u :: ts) = [',', ' '].intercalate (u :: ts) := rfl
      rw [separated, List.intercalate_cons_cons, ← hu, ih]
      simp [Json.separated]
  cases ts with
  | nil => rfl
  | cons t ts => rw [hcons, ← separated_true, spaced, Json.separated, if_pos rfl]

/-- Blanks in front of items belong to them. -/
lemma forall₂_spaced {k : Container} {vs ts : List (List Char)}
    (h : List.Forall₂ (IsItem k) vs ts) : List.Forall₂ (IsItem k) vs (spaced ts) := by
  have blank : Blanks [' '] := List.forall_mem_singleton.2 rfl
  cases h with
  | nil => exact .nil
  | cons ht hts =>
    exact .cons ht (List.forall₂_map_right_iff.2 (hts.imp fun _ _ h => IsItem.lead h blank))

/-- A container of items. -/
lemma isValue_container {k : Container} {vs ts : List (List Char)}
    (items : List.Forall₂ (IsItem k) vs ts) (values : ∀ v ∈ vs, IsValue v) :
    IsValue (k.opening :: separated ts ++ [k.closing]) := by
  have hvalue := IsValue.container k blanks_nil (forall₂_spaced items) values
  rwa [List.nil_append, ← separated_eq] at hvalue

/-- The text of a value is an item of an array. -/
lemma isItem_list (v : List Char) : IsItem .list v v :=
  ⟨[], [], .list blanks_nil, blanks_nil, by simp⟩

/-- A key, a colon, and the text of a value are an item of an object. -/
lemma isItem_object (key : String) (v : List Char) :
    IsItem .object v (writeString key ++ ':' :: ' ' :: v) := by
  have blank : Blanks [' '] := List.forall_mem_singleton.2 rfl
  refine ⟨_, [], .object blanks_nil (isBody_units (Text.units key)) blanks_nil blank, blanks_nil,
    ?_⟩
  simp [writeString, writeUnits_eq]

mutual

/-- **The text of every document is that of a value.** -/
theorem isValue_write : ∀ d : Document, IsValue d.write
  | null => .scalar .null
  | bool b => .scalar (.bool b)
  | int n => .scalar (.number (isNumber_writeInt n))
  | float _ finite => .scalar (.number (number.isNumber_render finite))
  | str s => isValue_writeUnits (Text.units s)
  | arr items =>
    isValue_container (k := .list) (List.forall₂_same.2 fun v _ => isItem_list v)
      (isValue_writeItems items)
  | obj fields =>
    let ⟨_, items, values⟩ := exists_items_writeFields fields
    isValue_container (k := .object) items values

/-- So are the texts of the items of an array. -/
theorem isValue_writeItems : ∀ ds : List Document, ∀ t ∈ writeItems ds, IsValue t
  | [] => List.forall_mem_nil _
  | d :: ds => List.forall_mem_cons.2 ⟨isValue_write d, isValue_writeItems ds⟩

/-- The texts of fields are items with such values. -/
theorem exists_items_writeFields : ∀ fs : List (String × Document),
    ∃ vs, List.Forall₂ (IsItem .object) vs (writeFields fs) ∧ ∀ v ∈ vs, IsValue v
  | [] => ⟨[], .nil, List.forall_mem_nil _⟩
  | (k, d) :: fs =>
    let ⟨vs, items, values⟩ := exists_items_writeFields fs
    ⟨d.write :: vs, .cons (isItem_object k d.write) items,
      List.forall_mem_cons.2 ⟨isValue_write d, values⟩⟩

end

lemma oneLine_separated {ts : List (List Char)} (h : ∀ t ∈ ts, OneLine t) :
    OneLine (separated ts) :=
  Text.forall_mem_intercalate (by simp) h

lemma oneLine_brackets {opening closing : Char} (ho : opening ≠ '\n') (hc : closing ≠ '\n')
    {t : List Char} (h : OneLine t) : OneLine (opening :: t ++ [closing]) :=
  (OneLine.cons ho h).append (.cons hc .nil)

mutual

/-- **The text of every document stands on one line.** -/
theorem oneLine_write : ∀ d : Document, OneLine d.write
  | null => .of_noBlanks (by decide)
  | bool true => .of_noBlanks (by decide)
  | bool false => .of_noBlanks (by decide)
  | int n => oneLine_of_isNumber (isNumber_writeInt n)
  | float _ finite => oneLine_of_isNumber (number.isNumber_render finite)
  | str s => oneLine_writeUnits (Text.units s)
  | arr items =>
    oneLine_brackets (by decide) (by decide) (oneLine_separated (oneLine_writeItems items))
  | obj fields =>
    oneLine_brackets (by decide) (by decide) (oneLine_separated (oneLine_writeFields fields))

/-- So do the texts of the items of an array. -/
theorem oneLine_writeItems : ∀ ds : List Document, ∀ t ∈ writeItems ds, OneLine t
  | [] => List.forall_mem_nil _
  | d :: ds => List.forall_mem_cons.2 ⟨oneLine_write d, oneLine_writeItems ds⟩

/-- So do the texts of fields. -/
theorem oneLine_writeFields : ∀ fs : List (String × Document), ∀ t ∈ writeFields fs, OneLine t
  | [] => List.forall_mem_nil _
  | (k, d) :: fs => by
    have hcolon : ':' ≠ '\n' := by decide
    have hblank : ' ' ≠ '\n' := by decide
    refine List.forall_mem_cons.2 ⟨?_, oneLine_writeFields fs⟩
    exact (oneLine_writeUnits (Text.units k)).append
      (.cons hcolon (.cons hblank (oneLine_write d)))

end

end Worker.Document

end ScriptStage
