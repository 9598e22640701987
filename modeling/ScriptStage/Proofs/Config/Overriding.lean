import Mathlib.Data.List.Induction
import ScriptStage.Config.Properties
import ScriptStage.Proofs.Config.Equivalent
import ScriptStage.Proofs.Properties.Entries
import ScriptStage.Proofs.Properties.Separators

/-!
# Properties that override others

A properties text can set a field of the configuration more than once, under different spellings of
its key. This file says which line counts: the last one that sets the field. So a text that stands
behind another one overrides it field by field, whatever is at the seam between them. Keys that
spell no field are reported in the order in which they stand.

## Main definitions

* `ScriptStage.Config.Key.SpelledBy` — how the key of a field can be spelled.
* `ScriptStage.Config.Sets`, `LastSet` — a line sets a field, and it is the last one to do so.
* `ScriptStage.Config.UnknownKeys` — the keys on the lines that set no field.

## Main results

* `ScriptStage.Config.Key.ofText?_eq_some_iff` — a key is read as the field that it spells.
* `ScriptStage.Config.loadEntries_append` — the configuration of entries that are put together.
* `ScriptStage.Config.ofProperties_composes` — how texts compose, and what each line counts for.
-/

set_option autoImplicit false

namespace ScriptStage.Config

open Properties

/-! ## Spellings of keys -/

namespace Key

/-- The name of a field in small letters. -/
def plainName : Key → String
  | language => "language"
  | script => "script"
  | scriptFile => "scriptfile"
  | variablesText => "variables"
  | variablesLocation => "variableslocation"

/-- **A text spells a name of small letters**: it has the letters of the name, each small or
capital, and among them dashes and underscores, which do not count. -/
inductive Spells : List Char → List Char → Prop
  | nil : Spells [] []
  | mark {c : Char} {t name : List Char} (h : c = '-' ∨ c = '_') (more : Spells t name) :
    Spells (c :: t) name
  | small {c : Char} {t name : List Char} (more : Spells t name) : Spells (c :: t) (c :: name)
  | capital {c d : Char} {t name : List Char} (h : LetterPair c d) (more : Spells t name) :
    Spells (c :: t) (d :: name)

/-- **A key spells the name of a field.** -/
def SpelledBy (k : Key) (t : List Char) : Prop :=
  Spells t k.plainName.toList

lemma normalForm_cons (c : Char) (t : List Char) :
    normalForm (c :: t) =
      if c = '-' ∨ c = '_' then normalForm t else c.toLower :: normalForm t := by
  simp only [normalForm, asciiLower, List.filter_cons]
  split_ifs <;> simp_all

/-- A letter, be it capital or small, is no mark. -/
lemma not_mark {a b : Char} (h : LetterPair a b) :
    ¬ (a = '-' ∨ a = '_') ∧ ¬ (b = '-' ∨ b = '_') := by
  obtain ⟨i, hi, ha, hb⟩ := h
  have hdash : '-'.toNat = 45 := rfl
  have hunderscore : '_'.toNat = 95 := rfl
  have hcapital : 'A'.toNat = 65 := rfl
  have hsmall : 'a'.toNat = 97 := rfl
  refine ⟨?_, ?_⟩
  · rintro (rfl | rfl) <;> omega
  · rintro (rfl | rfl) <;> omega

/-- **The normal form of a text is the name that it spells.** -/
theorem spells_iff {t name : List Char} (small : ∀ d ∈ name, ∃ c, LetterPair c d) :
    Spells t name ↔ normalForm t = name := by
  constructor
  · intro h
    induction h with
    | nil => rfl
    | mark hc _ ih => rw [normalForm_cons, if_pos hc, ih small]
    | small _ ih =>
      obtain ⟨⟨_, hpair⟩, hname⟩ := List.forall_mem_cons.1 small
      rw [normalForm_cons, if_neg (not_mark hpair).2, hpair.toLower.2, ih hname]
    | capital hpair _ ih =>
      obtain ⟨-, hname⟩ := List.forall_mem_cons.1 small
      rw [normalForm_cons, if_neg (not_mark hpair).1, hpair.toLower.1, ih hname]
  · intro h
    induction t generalizing name with
    | nil => exact h ▸ .nil
    | cons c t ih =>
      rw [normalForm_cons] at h
      split at h
      · next hc => exact .mark hc (ih small h)
      · subst h
        have hmore := ih (fun d hd => small d (.tail _ hd)) rfl
        rcases toLower_cases c with hc | hpair
        · rw [hc]
          exact .small hmore
        · exact .capital hpair hmore

/-- The names of the fields are different, and are all that a key can spell. -/
lemma find?_all {name : List Char} {k : Key} :
    (all.find? fun e => e.1.toList = name).map (·.2) = some k ↔ k.plainName.toList = name := by
  constructor
  · intro h
    obtain ⟨e, he, rfl⟩ := Option.map_eq_some_iff.1 h
    have hplain : ∀ e ∈ all, e.2.plainName = e.1 := by decide
    rw [hplain e (List.mem_of_find?_eq_some he)]
    simpa using List.find?_some he
  · rintro rfl
    cases k <;> decide +kernel

/-- **A key is read as the field that it spells.** -/
theorem ofText?_eq_some_iff {t : List Char} {k : Key} : ofText? t = some k ↔ k.SpelledBy t := by
  have small : ∀ d ∈ k.plainName.toList, ∃ c, LetterPair c d := by
    intro d hd
    have hletters : ∀ k : Key,
        (k.plainName.toList.all fun d => 97 ≤ d.toNat ∧ d.toNat < 123) = true := by
      rintro ⟨⟩ <;> decide +kernel
    obtain ⟨hlow, hhigh⟩ := of_decide_eq_true (List.all_eq_true.1 (hletters k) d hd)
    have hcapitals : ∀ i < 26, (Char.ofNat ('A'.toNat + i)).toNat = 'A'.toNat + i := by decide
    have hsmall : 'a'.toNat = 97 := rfl
    exact ⟨_, d.toNat - 97, by omega, hcapitals _ (by omega), by omega⟩
  rw [ofText?, find?_all, SpelledBy, spells_iff small, eq_comm]

end Key

/-! ## Entries -/

/-- What an entry sets a field to, if it does. -/
def assigned? (e : Entry) (k : Key) : Option String :=
  if Key.ofText? e.key = some k then some (String.ofList e.value) else none

lemma get_set_self (c : Config) (k : Key) (value : String) :
    (c.set k value).get k = some value := by
  cases k <;> rfl

lemma get_set_of_ne (c : Config) {k k' : Key} (h : k' ≠ k) (value : String) :
    (c.set k value).get k' = c.get k' := by
  cases k <;> cases k' <;> simp_all [set, get]

/-- An entry overrides the fields that were set before. -/
lemma get_loadEntry (state : Config × List Notice) (e : Entry) (k : Key) :
    (loadEntry state e).1.get k = (assigned? e k).or (state.1.get k) := by
  unfold loadEntry assigned?
  cases hkey : Key.ofText? e.key with
  | none => rfl
  | some k' =>
    by_cases hk : k = k'
    · subst hk
      simp [get_set_self]
    · simp [get_set_of_ne _ hk, Ne.symm hk]

/-- An entry is reported if it sets no field. -/
lemma notices_loadEntry (state : Config × List Notice) (e : Entry) :
    (loadEntry state e).2 =
      state.2 ++ if Key.ofText? e.key = none then [unknownKey e.key] else [] := by
  unfold loadEntry
  cases Key.ofText? e.key <;> simp

/-- **The configuration of entries that are put together**: the later ones override the earlier
ones, and the unknown keys of the earlier ones are reported first. -/
theorem loadEntries_append (es es' : List Entry) :
    (∀ k, (loadEntries (es ++ es')).1.get k =
      ((loadEntries es').1.get k).or ((loadEntries es).1.get k)) ∧
    (loadEntries (es ++ es')).2 = (loadEntries es).2 ++ (loadEntries es').2 := by
  induction es' using List.reverseRecOn with
  | nil =>
    refine ⟨fun k => ?_, ?_⟩
    · cases k <;> simp [loadEntries, empty, get]
    · simp [loadEntries]
  | append_singleton es' e ih =>
    obtain ⟨hget, hnotices⟩ := ih
    have hsnoc : ∀ es, loadEntries (es ++ [e]) = loadEntry (loadEntries es) e :=
      fun es => List.foldl_append
    rw [← List.append_assoc, hsnoc, hsnoc]
    refine ⟨fun k => ?_, ?_⟩
    · rw [get_loadEntry, get_loadEntry, hget, Option.or_assoc]
    · rw [notices_loadEntry, notices_loadEntry, hnotices, List.append_assoc]

/-! ## Lines -/

/-- **A line sets a field to a value**: it gives a key that spells the name of the field, and this
value as it stands on the line. -/
def Sets (line : List Char) (k : Key) (value : String) : Prop :=
  ∃ key, LineGives line (some ⟨key, value.toList⟩) ∧ k.SpelledBy key

/-- **The last line that sets a field** sets it to this value. -/
def LastSet (ls : List (List Char)) (k : Key) (value : String) : Prop :=
  ∃ before line later, ls = before ++ line :: later ∧ Sets line k value ∧
    ∀ l ∈ later, ∀ v, ¬ Sets l k v

/-- **The keys on lines that set no field**, in order and as they are written. -/
inductive UnknownKeys : List (List Char) → List (List Char) → Prop
  | nil : UnknownKeys [] []
  | silent {line : List Char} {ls keys : List (List Char)} (h : LineGives line none)
      (more : UnknownKeys ls keys) : UnknownKeys (line :: ls) keys
  | known {line : List Char} {ls keys : List (List Char)} {e : Entry} {k : Key}
      (h : LineGives line (some e)) (spelled : k.SpelledBy e.key) (more : UnknownKeys ls keys) :
    UnknownKeys (line :: ls) keys
  | unknown {line : List Char} {ls keys : List (List Char)} {e : Entry}
      (h : LineGives line (some e)) (spelled : ∀ k : Key, ¬ k.SpelledBy e.key)
      (more : UnknownKeys ls keys) : UnknownKeys (line :: ls) (e.key :: keys)

/-- The configuration of lines, with the notices about unknown keys. -/
def ofLines (ls : List (List Char)) : Config × List Notice :=
  loadEntries (ls.filterMap ofLine)

variable {ls : List (List Char)} {line : List Char} {k : Key} {value : String}

lemma sets_iff : Sets line k value ↔ (ofLine line).bind (assigned? · k) = some value := by
  simp only [Sets, lineGives_iff, ← Key.ofText?_eq_some_iff, Option.bind_eq_some_iff, assigned?]
  constructor
  · rintro ⟨key, hline, hkey⟩
    exact ⟨_, hline, by simp [hkey]⟩
  · rintro ⟨e, hline, he⟩
    split at he
    · next hkey =>
      obtain rfl := Option.some.inj he
      exact ⟨e.key, by simpa using hline, hkey⟩
    · exact nomatch he

/-- A single line sets what it sets. -/
lemma get_singleton (line : List Char) (k : Key) :
    (ofLines [line]).1.get k = (ofLine line).bind (assigned? · k) := by
  have hempty : empty.get k = none := by cases k <;> rfl
  unfold ofLines
  cases hline : ofLine line with
  | none => simp [hline, loadEntries, hempty]
  | some e =>
    have hload : loadEntries [e] = loadEntry (empty, []) e := rfl
    simp [hline, hload, get_loadEntry, hempty]

/-- The configuration of lines that are put together. -/
lemma ofLines_append (ls ls' : List (List Char)) :
    (∀ k, (ofLines (ls ++ ls')).1.get k = ((ofLines ls').1.get k).or ((ofLines ls).1.get k)) ∧
      (ofLines (ls ++ ls')).2 = (ofLines ls).2 ++ (ofLines ls').2 := by
  unfold ofLines
  rw [List.filterMap_append]
  exact loadEntries_append _ _

lemma get_cons (line : List Char) (ls : List (List Char)) (k : Key) :
    (ofLines (line :: ls)).1.get k =
      ((ofLines ls).1.get k).or ((ofLine line).bind (assigned? · k)) := by
  rw [← get_singleton]
  exact (ofLines_append [line] ls).1 k

lemma notices_cons (line : List Char) (ls : List (List Char)) :
    (ofLines (line :: ls)).2 = (ofLines [line]).2 ++ (ofLines ls).2 :=
  (ofLines_append [line] ls).2

/-- The last line that sets a field is found behind a line, or is that line. -/
lemma lastSet_cons :
    LastSet (line :: ls) k value ↔
      LastSet ls k value ∨ Sets line k value ∧ ∀ l ∈ ls, ∀ v, ¬ Sets l k v := by
  constructor
  · rintro ⟨before, line', later, heq, hset, hlater⟩
    rcases List.cons_eq_append_iff.1 heq with ⟨rfl, heq⟩ | ⟨before, rfl, rfl⟩
    · obtain ⟨rfl, rfl⟩ := List.cons.inj heq
      exact .inr ⟨hset, hlater⟩
    · exact .inl ⟨before, line', later, rfl, hset, hlater⟩
  · rintro (⟨before, line', later, rfl, hset, hlater⟩ | ⟨hset, hlater⟩)
    · exact ⟨line :: before, line', later, rfl, hset, hlater⟩
    · exact ⟨[], line, ls, rfl, hset, hlater⟩

/-- **Each field has the value of the last line that sets it**, and none if there is no such
line. -/
theorem get_ofLines (ls : List (List Char)) (k : Key) :
    (∀ value, (ofLines ls).1.get k = some value ↔ LastSet ls k value) ∧
      ((ofLines ls).1.get k = none ↔ ∀ l ∈ ls, ∀ v, ¬ Sets l k v) := by
  induction ls with
  | nil =>
    have hnone : (ofLines []).1.get k = none := by cases k <;> rfl
    refine ⟨fun value => ?_, by simp [hnone]⟩
    rw [hnone]
    refine iff_of_false (fun h => nomatch h) ?_
    rintro ⟨before, line, later, heq, -⟩
    exact absurd heq (by simp)
  | cons line ls ih =>
    obtain ⟨hsome, hnone⟩ := ih
    rw [get_cons]
    refine ⟨fun value => ?_, ?_⟩
    · rw [lastSet_cons, ← hsome, ← hnone, sets_iff, Option.or_eq_some_iff]
      exact or_congr_right and_comm
    · simp only [Option.or_eq_none_iff, hnone, List.forall_mem_cons, sets_iff]
      rw [and_comm, ← Option.eq_none_iff_forall_ne_some]

/-- The key on a line that is reported, if there is one. -/
def reported? (line : List Char) : Option (List Char) :=
  (ofLine line).bind fun e => if Key.ofText? e.key = none then some e.key else none

/-- A key is reported if it spells no field. -/
lemma ofText?_eq_none_iff {t : List Char} : Key.ofText? t = none ↔ ∀ k : Key, ¬ k.SpelledBy t := by
  simp only [Option.eq_none_iff_forall_ne_some, ne_eq, Key.ofText?_eq_some_iff]

lemma unknownKeys_iff {keys : List (List Char)} :
    UnknownKeys ls keys ↔ ls.filterMap reported? = keys := by
  constructor
  · intro h
    induction h with
    | nil => rfl
    | silent hline _ ih =>
      rw [lineGives_iff] at hline
      rw [List.filterMap_cons_none (by simp [reported?, hline]), ih]
    | known hline spelled _ ih =>
      rw [lineGives_iff] at hline
      rw [← Key.ofText?_eq_some_iff] at spelled
      rw [List.filterMap_cons_none (by simp [reported?, hline, spelled]), ih]
    | @unknown line ls keys e hline spelled _ ih =>
      rw [lineGives_iff] at hline
      rw [← ofText?_eq_none_iff] at spelled
      have hreported : reported? line = some e.key := by simp [reported?, hline, spelled]
      rw [List.filterMap_cons_some hreported, ih]
  · rintro rfl
    induction ls with
    | nil => exact .nil
    | cons line ls ih =>
      cases hline : ofLine line with
      | none =>
        rw [List.filterMap_cons_none (by simp [reported?, hline])]
        exact .silent ((lineGives_iff line none).2 hline) ih
      | some e =>
        have hgives := (lineGives_iff line (some e)).2 hline
        cases hkey : Key.ofText? e.key with
        | none =>
          have hreported : reported? line = some e.key := by simp [reported?, hline, hkey]
          rw [List.filterMap_cons_some hreported]
          exact .unknown hgives (ofText?_eq_none_iff.1 hkey) ih
        | some k =>
          rw [List.filterMap_cons_none (by simp [reported?, hline, hkey])]
          exact .known hgives (Key.ofText?_eq_some_iff.1 hkey) ih

/-- The unknown keys are reported line by line. -/
lemma notices_ofLines (ls : List (List Char)) :
    (ofLines ls).2 = (ls.filterMap reported?).map unknownKey := by
  induction ls with
  | nil => rfl
  | cons line ls ih =>
    have hline : (ofLines [line]).2 = (reported? line).toList.map unknownKey := by
      unfold ofLines reported?
      cases hline : ofLine line with
      | none => simp [hline, loadEntries]
      | some e =>
        have hload : loadEntries [e] = loadEntry (empty, []) e := rfl
        cases hkey : Key.ofText? e.key <;> simp [hline, hload, notices_loadEntry, hkey]
    rw [notices_cons, ih, hline, ← List.map_append]
    cases hreported : reported? line <;> simp [hreported]

lemma unknownKey_injective : Function.Injective unknownKey := by
  intro s t h
  have htext := Notice.warning.inj h
  rw [String.append_right_inj] at htext
  exact String.ofList_injective htext

/-! ## Texts -/

/-- **Properties compose.** A text behind another one and a line feed overrides it: each field has
the value that the second text sets it to, and the one that the first text does if the second one
does not set it. The unknown keys of the first text are reported in front of those of the second.

So for every text:

* a field has the value, as it is written, of the last line whose key spells its name, and none if
  there is no such line;
* exactly the keys that spell no field are reported, in order and as they are written. -/
theorem ofProperties_composes :
    (∀ t₁ t₂ : String,
      (∀ k, (ofProperties (t₁ ++ "\n" ++ t₂)).1.get k =
        ((ofProperties t₂).1.get k).or ((ofProperties t₁).1.get k)) ∧
      (ofProperties (t₁ ++ "\n" ++ t₂)).2 = (ofProperties t₁).2 ++ (ofProperties t₂).2) ∧
    ∀ t : String,
      (∀ k value, (ofProperties t).1.get k = some value ↔ LastSet (Text.lines t.toList) k value) ∧
      (∀ k, (ofProperties t).1.get k = none ↔
        ∀ line ∈ Text.lines t.toList, ∀ value, ¬ Sets line k value) ∧
      ∀ keys, UnknownKeys (Text.lines t.toList) keys ↔
        (ofProperties t).2 = keys.map unknownKey := by
  refine ⟨fun t₁ t₂ => ?_, fun t => ⟨fun k => ?_, fun k => ?_, fun keys => ?_⟩⟩
  · have hcut : ofText (t₁ ++ "\n" ++ t₂).toList = ofText t₁.toList ++ ofText t₂.toList := by
      rw [String.toList_append, String.toList_append, List.append_assoc]
      exact ofText_append t₁.toList t₂.toList
    unfold ofProperties
    rw [hcut]
    exact loadEntries_append _ _
  · exact (get_ofLines _ k).1
  · exact (get_ofLines _ k).2
  · rw [unknownKeys_iff]
    change _ ↔ (ofLines _).2 = _
    rw [notices_ofLines, (List.map_injective_iff.2 unknownKey_injective).eq_iff]

/-- Keys are compared as they are spelled, the last one counts, and a carriage return at the seam of
two texts is no part of a value. -/
example : ofProperties ("Script_File=a.js\r" ++ "\n" ++ "x-y=1\nSCRIPT-file = b.py\n! script=c") =
    ({ scriptFile := some "b.py" }, [unknownKey "x-y".toList]) := by
  decide +kernel

end ScriptStage.Config
