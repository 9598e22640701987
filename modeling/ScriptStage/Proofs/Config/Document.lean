import Mathlib.Data.List.Pairwise
import Mathlib.Tactic.FinCases
import ScriptStage.Config.Codec
import ScriptStage.Config.Properties
import ScriptStage.Proofs.Json.Members

/-!
# Configurations in JSON

The JSON text of a configuration need not be the one that is written for it. The fields can stand in
any order and among others, the two fields that hold paths have four spellings each, and what is
absent can be left out or be `null`. This file says exactly which objects are read as a
configuration, and as which.

A misspelt field would not be noticed, since members that are unknown are read past. So the
spellings are listed here once more, apart from those of the reader.

## Main definitions

* `ScriptStage.Config.Key.spellings` — the names that an object can have for a field.
* `ScriptStage.Config.NamedOnce` — an object names no field twice.
* `ScriptStage.Config.Gives` — an object gives a configuration.

## Main results

* `ScriptStage.Config.leads_iff` — what the reader makes of the members of an object.
* `ScriptStage.Config.ofJson_document` — which objects are read as a configuration.
-/

set_option autoImplicit false

namespace ScriptStage.Config

open Json

/-! ## The fields by their keys -/

namespace Key

/-- The name that is written for a field. -/
def name : Key → String
  | language => "language"
  | script => "script"
  | scriptFile => "scriptFile"
  | variablesText => "variables"
  | variablesLocation => "variablesLocation"

/-- The other names of a field. -/
def otherNames : Key → List String
  | scriptFile => ["scriptfile", "script-file", "script_file"]
  | variablesLocation => ["variableslocation", "variables-location", "variables_location"]
  | _ => []

/-- **The names that an object can have for a field.** -/
def spellings (k : Key) : List String :=
  k.name :: k.otherNames

/-- How the value of a field is described in faults. -/
def expected : Key → String
  | scriptFile | variablesLocation => "path string"
  | _ => "a string"

end Key

namespace Draft

/-- What a draft has for a field. -/
def get (d : Draft) : Key → Option (Option String)
  | .language => d.language
  | .script => d.script
  | .scriptFile => d.scriptFile
  | .variablesText => d.variablesText
  | .variablesLocation => d.variablesLocation

/-- The draft with a value for a field. -/
def set (d : Draft) : Key → Option String → Draft
  | .language, v => { d with language := some v }
  | .script, v => { d with script := some v }
  | .scriptFile, v => { d with scriptFile := some v }
  | .variablesText, v => { d with variablesText := some v }
  | .variablesLocation, v => { d with variablesLocation := some v }

/-- The draft that has the given values. -/
def of (values : Key → Option (Option String)) : Draft where
  language := values .language
  script := values .script
  scriptFile := values .scriptFile
  variablesText := values .variablesText
  variablesLocation := values .variablesLocation

variable {d d' : Draft}

lemma get_of (values : Key → Option (Option String)) (k : Key) : (of values).get k = values k := by
  cases k <;> rfl

@[simp]
lemma get_set_self (d : Draft) (k : Key) (v : Option String) : (d.set k v).get k = some v := by
  cases k <;> rfl

lemma get_set_of_ne (d : Draft) {k k' : Key} (h : k' ≠ k) (v : Option String) :
    (d.set k v).get k' = d.get k' := by
  cases k <;> cases k' <;> first | rfl | exact absurd rfl h

lemma get_empty (k : Key) : ({} : Draft).get k = none := by
  cases k <;> rfl

/-- Drafts that have the same for all fields are equal. -/
lemma ext_get (h : ∀ k, d.get k = d'.get k) : d = d' := by
  obtain ⟨_, _, _, _, _⟩ := d
  obtain ⟨_, _, _, _, _⟩ := d'
  exact congr (congr (congr (congr (congrArg mk (h .language)) (h .script)) (h .scriptFile))
    (h .variablesText)) (h .variablesLocation)

end Draft

lemma get_ofDraft (d : Draft) (k : Key) : (ofDraft d).get k = (d.get k).join := by
  cases k <;> rfl

/-- Configurations with the same value at all keys are equal. -/
lemma ext_get {c c' : Config} (h : ∀ k, c.get k = c'.get k) : c = c' := by
  obtain ⟨_, _, _, _, _⟩ := c
  obtain ⟨_, _, _, _, _⟩ := c'
  exact congr (congr (congr (congr (congrArg mk (h .language)) (h .script)) (h .scriptFile))
    (h .variablesText)) (h .variablesLocation)

/-- The field that is read for a key. -/
def Key.field (k : Key) : Json.Field Draft :=
  nullableField k.name k.otherNames k.expected (·.get k) (·.set k ·)

/-- The keys in the order in which their fields are written. -/
def Key.list : List Key :=
  [.language, .script, .scriptFile, .variablesText, .variablesLocation]

lemma Key.mem_list (k : Key) : k ∈ list := by
  cases k <;> decide

lemma fields_shape : shape.fields = Key.list.map Key.field :=
  rfl

/-- No name is one of two fields. -/
lemma Key.eq_of_mem {k k' : Key} {name : String} (h : name ∈ k.spellings)
    (h' : name ∈ k'.spellings) : k = k' := by
  have hall : ∀ k k' : Key, ∀ name ∈ k.spellings, name ∈ k'.spellings → k = k' := by
    intro k k'
    cases k <;> cases k' <;> decide
  exact hall k k' name h h'

/-- A name of a field denotes it. -/
lemma field?_of_mem {k : Key} {name : String} (h : name ∈ k.spellings) :
    shape.field? name = some k.field := by
  cases k <;> fin_cases h <;> rfl

/-- Other names denote nothing. -/
lemma field?_of_not_mem {name : String} (h : ∀ k : Key, name ∉ k.spellings) :
    shape.field? name = none := by
  refine List.find?_eq_none.2 fun f hf => ?_
  rw [fields_shape] at hf
  obtain ⟨k, -, rfl⟩ := List.mem_map.1 hf
  have hspellings : k.field.spellings = k.spellings := rfl
  simpa [hspellings] using h k

/-! ## The values of the fields -/

section Values

variable {depth : ℕ} {d d' : Draft} {k : Key} {v : List Char}

lemma ok_of_read_field {c c' : Cursor} (h : k.field.read depth d c = .ok (d', c')) :
    ∃ o, readOptional (readText k.expected) c = .ok (o, c') ∧ d' = d.set k o := by
  have hread : k.field.read depth d c =
      (readOptional (readText k.expected) c).map fun r => (d.set k r.1, r.2) := rfl
  rw [hread] at h
  cases hvalue : readOptional (readText k.expected) c with
  | error f =>
    rw [hvalue] at h
    exact nomatch h
  | ok r =>
    rw [hvalue] at h
    obtain ⟨rfl, rfl⟩ := Prod.mk.inj (Except.ok.inj h)
    exact ⟨r.1, rfl, rfl⟩

/-- A string or `null` goes into the draft. -/
lemma takes_of_isNullable {o : Option String} (h : IsNullable v o) :
    k.field.Takes depth d v (d.set k o) := by
  intro b hb rest p
  obtain ⟨q, hq⟩ := readOptional_readText k.expected h hb rest p
  have hread : ∀ c, k.field.read depth d c =
      (readOptional (readText k.expected) c).map fun r => (d.set k r.1, r.2) := fun _ => rfl
  exact ⟨q, by rw [hread, hq]; rfl⟩

/-- **The values of a field are strings and `null`.** -/
lemma takes_field_iff (hv : IsValue v) :
    k.field.Takes depth d v d' ↔ ∃ o, IsNullable v o ∧ d' = d.set k o := by
  constructor
  · intro h
    obtain ⟨q, hq⟩ := h [] blanks_nil [] .start
    obtain ⟨o, hread, rfl⟩ := ok_of_read_field hq
    exact ⟨o, (ok_of_readOptional_readText hv blanks_nil hread).2, rfl⟩
  · rintro ⟨o, ho, rfl⟩
    exact takes_of_isNullable ho

lemma byValue_of_mem_fields {f : Json.Field Draft} (hf : f ∈ shape.fields) : f.ByValue depth := by
  rw [fields_shape] at hf
  obtain ⟨k, -, rfl⟩ := List.mem_map.1 hf
  intro d v b rest p d' c hv hb hread
  obtain ⟨o, hvalue, rfl⟩ := ok_of_read_field hread
  obtain ⟨hrest, ho⟩ := ok_of_readOptional_readText hv hb hvalue
  exact ⟨hrest, takes_of_isNullable ho⟩

end Values

/-! ## The members of an object -/

/-- **An object names no field twice**, neither under one name nor under two. -/
def NamedOnce (ms : List (String × List Char)) : Prop :=
  ms.Pairwise fun m m' => ∀ k : Key, m.1 ∈ k.spellings → m'.1 ∉ k.spellings

instance (ms : List (String × List Char)) : Decidable (NamedOnce ms) :=
  decidable_of_iff
    (ms.Pairwise fun m m' => ∀ k ∈ Key.list, m.1 ∈ k.spellings → m'.1 ∉ k.spellings)
    ⟨fun h => h.imp fun h k => h k k.mem_list, fun h => h.imp fun h k _ => h k⟩

/-- Just one member names a field. -/
lemma NamedOnce.eq {ms : List (String × List Char)} (h : NamedOnce ms) {m m' : String × List Char}
    (hm : m ∈ ms) (hm' : m' ∈ ms) {k : Key} (hk : m.1 ∈ k.spellings) (hk' : m'.1 ∈ k.spellings) :
    m = m' := by
  by_contra hne
  have symm : Std.Symm fun m m' : String × List Char =>
      ∀ k : Key, m.1 ∈ k.spellings → m'.1 ∉ k.spellings :=
    ⟨fun _ _ h k hk hk' => h k hk' hk⟩
  exact h.forall hm hm' hne k hk hk'

/-- **What members make of a draft**: a member that names a field gives it its value, which the
draft did not have, and the other fields stay as they are. -/
structure Fills (ms : List (String × List Char)) (d d' : Draft) : Prop where
  once : NamedOnce ms
  value : ∀ m ∈ ms, ∀ k : Key, m.1 ∈ k.spellings →
    d.get k = none ∧ ∃ o, d'.get k = some o ∧ IsNullable m.2 o
  kept : ∀ k : Key, (∀ m ∈ ms, m.1 ∉ k.spellings) → d'.get k = d.get k

section Members

variable {ms : List (String × List Char)} {name : String} {v : List Char} {d d' : Draft} {k : Key}

lemma fills_nil : Fills [] d d' ↔ d = d' := by
  constructor
  · exact fun h => Draft.ext_get fun k => (h.kept k (List.forall_mem_nil _)).symm
  · rintro rfl
    exact ⟨.nil, List.forall_mem_nil _, fun _ _ => rfl⟩

lemma fills_cons_of_not_mem (h : ∀ k : Key, name ∉ k.spellings) :
    Fills ((name, v) :: ms) d d' ↔ Fills ms d d' := by
  constructor
  · rintro ⟨once, value, kept⟩
    refine ⟨once.of_cons, fun m hm => value m (.tail _ hm), fun k hk => kept k ?_⟩
    exact List.forall_mem_cons.2 ⟨h k, hk⟩
  · rintro ⟨once, value, kept⟩
    refine ⟨.cons (fun m _ k hk => absurd hk (h k)) once, ?_, fun k hk =>
      kept k (List.forall_mem_cons.1 hk).2⟩
    exact List.forall_mem_cons.2 ⟨fun k hk => absurd hk (h k), value⟩

/-- A member that names a field comes first: its value goes into the draft, and no other member
names the field. -/
lemma fills_cons_of_mem (h : name ∈ k.spellings) :
    Fills ((name, v) :: ms) d d' ↔
      d.get k = none ∧ ∃ o, IsNullable v o ∧ Fills ms (d.set k o) d' := by
  constructor
  · rintro ⟨once, value, kept⟩
    obtain ⟨hname, honce⟩ := List.pairwise_cons.1 once
    obtain ⟨unset, o, ho, hv⟩ := value _ (.head ms) k h
    refine ⟨unset, o, hv, honce, fun m hm k' hk' => ?_, fun k' hk' => ?_⟩
    · -- the other members name other fields
      have hne : k' ≠ k := by
        rintro rfl
        exact hname m hm k' h hk'
      rw [Draft.get_set_of_ne d hne]
      exact value m (.tail _ hm) k' hk'
    · by_cases hkk' : k' = k
      · rw [hkk', Draft.get_set_self, ho]
      · rw [Draft.get_set_of_ne d hkk']
        refine kept k' (List.forall_mem_cons.2 ⟨fun hk => ?_, hk'⟩)
        exact hkk' (Key.eq_of_mem hk h)
  · rintro ⟨unset, o, hv, once, value, kept⟩
    -- the draft has the field from here on, so that no other member names it
    have hname : ∀ m ∈ ms, m.1 ∉ k.spellings := by
      intro m hm hk
      have hnone := (value m hm k hk).1
      rw [Draft.get_set_self] at hnone
      exact nomatch hnone
    have hne : ∀ m ∈ ms, ∀ k' : Key, m.1 ∈ k'.spellings → k' ≠ k := by
      rintro m hm k' hk' rfl
      exact hname m hm hk'
    refine ⟨.cons (fun m hm k' hk' => ?_) once, List.forall_mem_cons.2 ⟨fun k' hk' => ?_,
      fun m hm k' hk' => ?_⟩, fun k' hk' => ?_⟩
    · rw [Key.eq_of_mem hk' h]
      exact hname m hm
    · obtain rfl := Key.eq_of_mem hk' h
      exact ⟨unset, o, by rw [kept k' hname, Draft.get_set_self], hv⟩
    · have hvalue := value m hm k' hk'
      rwa [Draft.get_set_of_ne d (hne m hm k' hk')] at hvalue
    · obtain ⟨hk, hms⟩ := List.forall_mem_cons.1 hk'
      have hkk' : k' ≠ k := by
        rintro rfl
        exact hk h
      rw [kept k' hms, Draft.get_set_of_ne d hkk']

/-- **What the reader makes of the members of an object.** -/
theorem leads_iff {depth : ℕ} (values : ∀ m ∈ ms, IsValue m.2) :
    Leads shape depth ms d d' ↔ Fills ms d d' := by
  induction ms generalizing d with
  | nil =>
    rw [fills_nil]
    constructor
    · rintro ⟨⟩
      rfl
    · rintro rfl
      exact .nil d
  | cons m ms ih =>
    obtain ⟨name, v⟩ := m
    obtain ⟨hv, hvs⟩ := List.forall_mem_cons.1 values
    by_cases hname : ∃ k : Key, name ∈ k.spellings
    · obtain ⟨k, hk⟩ := hname
      have hfield := field?_of_mem hk
      have hset : k.field.isSet d = (d.get k).isSome := rfl
      rw [fills_cons_of_mem hk]
      constructor
      · intro h
        cases h with
        | unknown field => cases hfield.symm.trans field
        | known field unset takes more =>
          obtain rfl := Option.some.inj (hfield.symm.trans field)
          obtain ⟨o, ho, rfl⟩ := (takes_field_iff hv).1 takes
          exact ⟨by simpa [hset] using unset, o, ho, (ih hvs).1 more⟩
      · rintro ⟨unset, o, ho, more⟩
        exact .known hfield (by simp [hset, unset]) (takes_of_isNullable ho) ((ih hvs).2 more)
    · have hk := not_exists.1 hname
      have hfield := field?_of_not_mem hk
      rw [fills_cons_of_not_mem hk, ← ih hvs]
      constructor
      · intro h
        cases h with
        | unknown field more => exact more
        | known field => cases hfield.symm.trans field
      · exact .unknown hfield

end Members

/-! ## Configurations -/

/-- **The members of an object give a configuration**: what a member names has the value of that
member, and what no member names is absent. -/
structure Gives (ms : List (String × List Char)) (c : Config) : Prop where
  value : ∀ m ∈ ms, ∀ k : Key, m.1 ∈ k.spellings → IsNullable m.2 (c.get k)
  absent : ∀ k : Key, (∀ m ∈ ms, m.1 ∉ k.spellings) → c.get k = none

section Configurations

variable {ms : List (String × List Char)} {c : Config}

/-- The configuration that members give comes from the draft that they make of the empty one. -/
lemma exists_fills_iff : (∃ d, Fills ms {} d ∧ ofDraft d = c) ↔ NamedOnce ms ∧ Gives ms c := by
  constructor
  · rintro ⟨d, ⟨once, value, kept⟩, rfl⟩
    refine ⟨once, fun m hm k hk => ?_, fun k hk => ?_⟩
    · obtain ⟨-, o, ho, hv⟩ := value m hm k hk
      rwa [get_ofDraft, ho]
    · rw [get_ofDraft, kept k hk, Draft.get_empty]
      rfl
  · rintro ⟨once, value, absent⟩
    refine ⟨.of fun k => if ∃ m ∈ ms, m.1 ∈ k.spellings then some (c.get k) else none,
      ⟨once, fun m hm k hk => ⟨Draft.get_empty k, c.get k, ?_, value m hm k hk⟩, fun k hk => ?_⟩,
      ext_get fun k => ?_⟩
    · rw [Draft.get_of, if_pos ⟨m, hm, hk⟩]
    · rw [Draft.get_of, if_neg fun ⟨m, hm, hk'⟩ => hk m hm hk', Draft.get_empty]
    · rw [get_ofDraft, Draft.get_of]
      split
      · rfl
      · next hnone =>
        exact (absent k fun m hm hk => hnone ⟨m, hm, hk⟩).symm

lemma ofJson_eq_ok_iff_parse {t : String} : ofJson t = .ok c ↔ parse t.toList = .ok c := by
  unfold ofJson
  cases parse t.toList with
  | error f => constructor <;> rintro ⟨⟩
  | ok c' => exact ⟨fun h => congrArg Except.ok (Except.ok.inj h), congrArg _⟩

/-- **Which objects are read as a configuration.** -/
lemma ofJson_eq_ok_iff {t : String} (h : IsDocument ms t.toList) :
    ofJson t = .ok c ↔ NamedOnce ms ∧ Gives ms c := by
  have hread : parse t.toList = .ok c ↔ ∃ d, Leads shape 126 ms {} d ∧ shape.finish d = .ok c :=
    readAll_eq_ok_iff (fun f hf => byValue_of_mem_fields hf) h
  rw [ofJson_eq_ok_iff_parse, hread, ← exists_fills_iff]
  refine exists_congr fun d => and_congr (leads_iff h.values) ?_
  exact ⟨Except.ok.inj, congrArg _⟩

/-- The members of the text that is written for a configuration. -/
def written (c : Config) : List (String × List Char) :=
  Key.list.map fun k => (k.name, writeString? (c.get k))

lemma mem_written {m : String × List Char} (h : m ∈ c.written) :
    ∃ k : Key, m = (k.name, writeString? (c.get k)) := by
  obtain ⟨k, -, rfl⟩ := List.mem_map.1 h
  exact ⟨k, rfl⟩

lemma isDocument_write (c : Config) : IsDocument c.written c.write := by
  refine isDocument_writeObject fun m hm => ?_
  obtain ⟨k, rfl⟩ := mem_written hm
  exact (isNullable_writeString? _).isValue

lemma namedOnce_written (c : Config) : NamedOnce c.written := by
  have nodup : Key.list.Nodup := by decide
  refine List.pairwise_map.2 (nodup.imp fun {k k'} hne k'' hk hk' => hne ?_)
  rw [Key.eq_of_mem (List.mem_cons_self) hk, Key.eq_of_mem List.mem_cons_self hk']

lemma gives_written (c : Config) : Gives c.written c := by
  constructor
  · intro m hm k hk
    obtain ⟨k', rfl⟩ := mem_written hm
    rw [Key.eq_of_mem hk List.mem_cons_self]
    exact isNullable_writeString? _
  · intro k hk
    exact absurd List.mem_cons_self (hk _ (List.mem_map_of_mem k.mem_list))

/-- Members that name no field twice give a configuration if what they name are strings and
`null`. -/
lemma exists_gives (once : NamedOnce ms)
    (nullable : ∀ m ∈ ms, ∀ k : Key, m.1 ∈ k.spellings → ∃ o, IsNullable m.2 o) :
    ∃ c, Gives ms c := by
  have hvalue : ∀ k : Key, ∃ o : Option String,
      (∀ m ∈ ms, m.1 ∈ k.spellings → IsNullable m.2 o) ∧
      ((∀ m ∈ ms, m.1 ∉ k.spellings) → o = none) := by
    intro k
    by_cases hk : ∃ m ∈ ms, m.1 ∈ k.spellings
    · obtain ⟨m, hm, hmk⟩ := hk
      obtain ⟨o, ho⟩ := nullable m hm k hmk
      refine ⟨o, fun m' hm' hmk' => ?_, fun hnone => absurd hmk (hnone m hm)⟩
      rwa [once.eq hm' hm hmk' hmk]
    · exact ⟨none, fun m hm hmk => absurd ⟨m, hm, hmk⟩ hk, fun _ => rfl⟩
  choose value hvalue using hvalue
  have hget : ∀ k, (ofDraft (.of fun k => some (value k))).get k = value k := by
    intro k
    rw [get_ofDraft, Draft.get_of]
    rfl
  refine ⟨ofDraft (.of fun k => some (value k)), fun m hm k hk => ?_, fun k hk => ?_⟩
  · rw [hget]
    exact (hvalue k).1 m hm hk
  · rw [hget]
    exact (hvalue k).2 hk

/-- **The JSON text of a configuration is read back, however it is written.** What is written for a
configuration is read as that configuration. Of every object, whatever its members are, in whatever
order, with blanks and escapes wherever they can be, and with members that name no field:

* it is read as a configuration if and only if it names no field twice and its members give this
  configuration, so that what they name is theirs and everything else is absent;
* there is such a configuration if it names no field twice and what its members name are strings and
  `null`;
* it is refused as one that cannot be deserialized if it names a field twice. -/
theorem ofJson_document :
    (∀ c : Config, ofJson c.render = .ok c) ∧
    ∀ (ms : List (String × List Char)) (t : String), IsDocument ms t.toList →
      (∀ c, ofJson t = .ok c ↔ NamedOnce ms ∧ Gives ms c) ∧
      (NamedOnce ms →
        (∀ m ∈ ms, ∀ k : Key, m.1 ∈ k.spellings → ∃ o, IsNullable m.2 o) →
        ∃ c, Gives ms c ∧ ofJson t = .ok c) ∧
      (¬ NamedOnce ms → ∃ message, ofJson t = .error (.deserialization message)) := by
  refine ⟨fun c => ?_, fun ms t h => ⟨fun c => ofJson_eq_ok_iff h, fun once nullable => ?_,
    fun twice => ?_⟩⟩
  · refine (ofJson_eq_ok_iff ?_).2 ⟨namedOnce_written c, gives_written c⟩
    rw [render, String.toList_ofList]
    exact isDocument_write c
  · obtain ⟨c, hc⟩ := exists_gives once nullable
    exact ⟨c, hc, (ofJson_eq_ok_iff h).2 ⟨once, hc⟩⟩
  · cases hparse : parse t.toList with
    | ok c => exact absurd ((ofJson_eq_ok_iff h).1 (ofJson_eq_ok_iff_parse.2 hparse)).1 twice
    | error f => exact ⟨f.message, by rw [ofJson, hparse]; rfl⟩

end Configurations

/-- An object with an escape, an unknown member and a `null` is read, and one that names the file of
the script twice is not, even though its first value has the wrong type as well. -/
theorem ofJson_document_mixed :
    ofJson " \x7b\"script_file\" : \"a\\u002epy\", \"x\":[1],\"language\":null\x7d" =
      .ok (withScriptFile "a.py") ∧
    ∃ message, ofJson "\x7b\"script_file\":1,\"scriptFile\":null\x7d" =
      .error (.deserialization message) := by
  have digits : IsDigits ['1'] := ⟨List.cons_ne_nil _ _, List.forall_mem_singleton.2 rfl⟩
  have one : IsValue ['1'] :=
    .scalar (.number (@IsNumber.mk [] _ [] [] (by decide) digits (by decide) .absent .absent))
  have path : IsNullable "\"a\\u002epy\"".toList (some "a.py") := by
    have hbody : Denotes "a\\u002epy".toList "a.py".toList := by
      have hpath : "a.py".toList = ['a', '.', 'p', 'y'] := by decide +kernel
      rw [hpath]
      exact .char (.plain (by decide) (by decide) (by decide)) (.char (.number (by decide))
        (.char (.plain (by decide) (by decide) (by decide))
          (.char (.plain (by decide) (by decide) (by decide)) .nil)))
    exact .text hbody
  have blank : Blanks [' '] := List.forall_mem_singleton.2 rfl
  constructor
  · obtain ⟨t, hdocument, ht⟩ : ∃ t, IsDocument [("script_file", "\"a\\u002epy\"".toList),
        ("x", ['[', '1', ']']), ("language", writeNull)] t ∧
        t = " \x7b\"script_file\" : \"a\\u002epy\", \"x\":[1],\"language\":null\x7d".toList := by
      refine ⟨_, .mk blank blanks_nil
        (.cons (.mk blanks_nil (denotes_flatMap_escape _) blank blank blanks_nil)
          (.cons (.mk blank (denotes_flatMap_escape _) blanks_nil blanks_nil blanks_nil)
            (.cons (.mk blanks_nil (denotes_flatMap_escape _) blanks_nil blanks_nil blanks_nil)
              .nil))) ?_ blanks_nil, by decide +kernel⟩
      refine List.forall_mem_cons.2 ⟨path.isValue, List.forall_mem_cons.2 ⟨?_,
        List.forall_mem_singleton.2 (.scalar .null)⟩⟩
      exact .container .list blanks_nil (.cons ⟨[], [], .list blanks_nil, blanks_nil, rfl⟩ .nil)
        (List.forall_mem_singleton.2 one)
    refine ((ofJson_document.2 _ _ (ht ▸ hdocument)).1 _).2 ⟨by decide +kernel, ?_, fun k hk => ?_⟩
    · refine List.forall_mem_cons.2 ⟨fun k hk => ?_, List.forall_mem_cons.2 ⟨fun k hk => ?_,
        List.forall_mem_singleton.2 fun k hk => ?_⟩⟩
      · obtain rfl := Key.eq_of_mem hk (by decide : "script_file" ∈ Key.scriptFile.spellings)
        exact path
      · cases k <;> exact absurd hk (by decide)
      · obtain rfl := Key.eq_of_mem hk (by decide : "language" ∈ Key.language.spellings)
        exact .null
    · cases k with
      | scriptFile => exact absurd (by decide) (hk _ (.head _))
      | language | script | variablesText | variablesLocation => rfl
  · obtain ⟨t, hdocument, ht⟩ : ∃ t, IsDocument [("script_file", ['1']), ("scriptFile", writeNull)]
        t ∧ t = "\x7b\"script_file\":1,\"scriptFile\":null\x7d".toList := by
      refine ⟨_, .mk blanks_nil blanks_nil
        (.cons (.mk blanks_nil (denotes_flatMap_escape _) blanks_nil blanks_nil blanks_nil)
          (.cons (.mk blanks_nil (denotes_flatMap_escape _) blanks_nil blanks_nil blanks_nil)
            .nil)) ?_ blanks_nil, by decide +kernel⟩
      exact List.forall_mem_cons.2 ⟨one, List.forall_mem_singleton.2 (.scalar .null)⟩
    exact (ofJson_document.2 _ _ (ht ▸ hdocument)).2.2 (by decide +kernel)

end ScriptStage.Config
