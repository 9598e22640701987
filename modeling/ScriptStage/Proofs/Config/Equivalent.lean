import Mathlib.Data.List.TakeWhile
import ScriptStage.Proofs.Startup

/-!
# Configurations that mean the same

A blank language counts as an absent one, and so does an empty script. A language may have blanks
around it and its letters may be in any case. This file shows that such differences between two
configurations are not seen anywhere: neither by the check, nor by the resolution, nor by the start
of a transformer.

## Main definitions

* `ScriptStage.SameLetter` — two characters that differ at most in the case of an ASCII letter.
* `ScriptStage.Config.Equivalent` — two configurations that mean the same.

## Main results

* `ScriptStage.Config.Equivalent.effectiveLanguage`, `effectiveScript` — what such configurations
  share.
* `ScriptStage.Config.Equivalent.violations`, `ScriptStage.Config.Equivalent.resolve`,
  `ScriptStage.Config.Equivalent.ofConfig` — each reader of a configuration does the same for both.
* `ScriptStage.Config.equivalent_same` — all of them together.
-/

set_option autoImplicit false

namespace ScriptStage

/-! ## The case of letters -/

/-- The same ASCII letter, first as a capital one and then as a small one. -/
def LetterPair (a b : Char) : Prop :=
  ∃ i < 26, a.toNat = 'A'.toNat + i ∧ b.toNat = 'a'.toNat + i

instance (a b : Char) : Decidable (LetterPair a b) :=
  inferInstanceAs (Decidable (∃ i < 26, _))

/-- **Two characters differ at most in the case of an ASCII letter.** -/
def SameLetter (a b : Char) : Prop :=
  a = b ∨ LetterPair a b ∨ LetterPair b a

instance (a b : Char) : Decidable (SameLetter a b) :=
  inferInstanceAs (Decidable (_ ∨ _ ∨ _))

/-- Of a pair of letters only the small one is left. -/
lemma LetterPair.toLower {a b : Char} (h : LetterPair a b) : a.toLower = b ∧ b.toLower = b := by
  obtain ⟨i, hi, ha, hb⟩ := h
  have hletters : ∀ i < 26, (Char.ofNat ('A'.toNat + i)).toLower = Char.ofNat ('a'.toNat + i) ∧
      (Char.ofNat ('a'.toNat + i)).toLower = Char.ofNat ('a'.toNat + i) := by decide
  rw [← Char.ofNat_toNat a, ← Char.ofNat_toNat b, ha, hb]
  exact hletters i hi

/-- In lower case a character is the same, unless it is a capital letter. -/
lemma toLower_cases (c : Char) : c.toLower = c ∨ LetterPair c c.toLower := by
  by_cases h : 'A'.val ≤ c.val ∧ c.val ≤ 'Z'.val
  · obtain ⟨hlow, hhigh⟩ := h
    rw [UInt32.le_iff_toNat_le] at hlow hhigh
    change 'A'.toNat ≤ c.toNat at hlow
    change c.toNat ≤ 'A'.toNat + 25 at hhigh
    have hletters : ∀ i < 26, (Char.ofNat ('A'.toNat + i)).toLower.toNat = 'a'.toNat + i := by
      decide
    have hi : c.toNat - 'A'.toNat < 26 := by omega
    have hc : c.toNat = 'A'.toNat + (c.toNat - 'A'.toNat) := by omega
    have hlower := hletters _ hi
    rw [← hc, Char.ofNat_toNat] at hlower
    exact .inr ⟨_, hi, hc, hlower⟩
  · exact .inl (dif_neg h)

lemma SameLetter.toLower_eq {a b : Char} (h : SameLetter a b) : a.toLower = b.toLower := by
  rcases h with rfl | hab | hba
  · rfl
  · rw [hab.toLower.1, hab.toLower.2]
  · rw [hba.toLower.1, hba.toLower.2]

/-- Texts that differ at most in the case of their letters are one text in lower case. -/
lemma asciiLower_eq {s t : List Char} (h : List.Forall₂ SameLetter s t) :
    asciiLower s = asciiLower t := by
  induction h with
  | nil => rfl
  | cons hc _ ih =>
    unfold asciiLower at ih ⊢
    rw [List.map_cons, List.map_cons, hc.toLower_eq, ih]

/-- A text of blanks is trimmed to nothing. -/
lemma Text.trim_of_blank {t : List Char} (h : ∀ c ∈ t, isBlank c = true) : trim t = [] := by
  have hstart : trimStart t = [] := List.dropWhile_eq_nil_iff.2 h
  rw [trim, hstart]
  rfl

namespace Config

/-! ## Equivalent configurations -/

/-- A language that is absent or blank. -/
def BlankOrAbsent (language : Option String) : Prop :=
  ∀ s, language = some s → ∀ c ∈ s.toList, Text.isBlank c = true

/-- A script that is absent or empty. -/
def EmptyOrAbsent (script : Option String) : Prop :=
  ∀ s, script = some s → s = ""

/-- **Two languages that mean the same**: both are blank or absent, or they differ, without the
blanks around them, at most in the case of their letters. -/
inductive SameLanguage : Option String → Option String → Prop
  | absent {l l' : Option String} : BlankOrAbsent l → BlankOrAbsent l' → SameLanguage l l'
  | given {s s' : String} :
      List.Forall₂ SameLetter (Text.trim s.toList) (Text.trim s'.toList) →
      SameLanguage (some s) (some s')

/-- **Two scripts that mean the same**: both are empty or absent, or they are equal. -/
inductive SameScript : Option String → Option String → Prop
  | absent {s s' : Option String} : EmptyOrAbsent s → EmptyOrAbsent s' → SameScript s s'
  | equal (s : Option String) : SameScript s s

/-- **Two configurations that mean the same.** -/
structure Equivalent (c c' : Config) : Prop where
  /-- The languages mean the same. -/
  language : SameLanguage c.language c'.language
  /-- The scripts mean the same. -/
  script : SameScript c.script c'.script
  /-- The files of the script are equal. -/
  scriptFile : c.scriptFile = c'.scriptFile
  /-- The texts of variables are equal. -/
  variablesText : c.variablesText = c'.variablesText
  /-- The files of variables are equal. -/
  variablesLocation : c.variablesLocation = c'.variablesLocation

variable {c c' : Config}

lemma effectiveLanguage_of_blank (h : BlankOrAbsent c.language) : c.effectiveLanguage = none := by
  unfold effectiveLanguage
  cases hl : c.language with
  | none => rfl
  | some s => simp [Text.onChars, Text.trim_of_blank (h s hl)]

lemma effectiveScript_of_empty (h : EmptyOrAbsent c.script) : c.effectiveScript = none := by
  unfold effectiveScript
  cases hs : c.script with
  | none => rfl
  | some s => simp [h s hs]

/-- What a given language counts as. -/
lemma effectiveLanguage_of_given {s : String} (h : c.language = some s) :
    c.effectiveLanguage =
      if Text.trim s.toList = [] then none else some (Text.onChars Text.trim s) := by
  unfold effectiveLanguage
  rw [h]
  by_cases ht : Text.trim s.toList = [] <;> simp [Text.onChars, ht]

namespace Equivalent

/-- **The languages count as the same**, in lower case. -/
lemma effectiveLanguage (h : Equivalent c c') :
    c.effectiveLanguage.map lowerCase = c'.effectiveLanguage.map lowerCase := by
  have hlanguage := h.language
  generalize hl : c.language = l at hlanguage
  generalize hl' : c'.language = l' at hlanguage
  cases hlanguage with
  | absent hblank hblank' =>
    rw [effectiveLanguage_of_blank (hl ▸ hblank), effectiveLanguage_of_blank (hl' ▸ hblank')]
  | @given s s' hsame =>
    rw [effectiveLanguage_of_given hl, effectiveLanguage_of_given hl']
    have hnil : Text.trim s.toList = [] ↔ Text.trim s'.toList = [] := by
      rw [← List.length_eq_zero_iff, ← List.length_eq_zero_iff, hsame.length_eq]
    by_cases ht : Text.trim s.toList = []
    · rw [if_pos ht, if_pos (hnil.1 ht)]
    · rw [if_neg ht, if_neg (mt hnil.2 ht)]
      simp only [Option.map_some, lowerCase, Text.onChars, String.toList_ofList,
        asciiLower_eq hsame]

/-- **The scripts count as the same.** -/
lemma effectiveScript (h : Equivalent c c') : c.effectiveScript = c'.effectiveScript := by
  have hscript := h.script
  generalize hs : c.script = s at hscript
  generalize hs' : c'.script = s' at hscript
  cases hscript with
  | absent hempty hempty' =>
    rw [effectiveScript_of_empty (hs ▸ hempty), effectiveScript_of_empty (hs' ▸ hempty')]
  | equal =>
    unfold Config.effectiveScript
    rw [hs, hs']

/-- Both languages count as absent, or both are there and the same in lower case. -/
lemma effectiveLanguage_cases (h : Equivalent c c') :
    (c.effectiveLanguage = none ∧ c'.effectiveLanguage = none) ∨
    ∃ l l', c.effectiveLanguage = some l ∧ c'.effectiveLanguage = some l' ∧
      lowerCase l = lowerCase l' := by
  have hmap := h.effectiveLanguage
  cases hl : c.effectiveLanguage with
  | none =>
    rw [hl, Option.map_none, eq_comm, Option.map_eq_none_iff] at hmap
    exact .inl ⟨rfl, hmap⟩
  | some l =>
    rw [hl, Option.map_some, eq_comm, Option.map_eq_some_iff] at hmap
    obtain ⟨l', hl', heq⟩ := hmap
    exact .inr ⟨l, l', rfl, hl', heq.symm⟩

/-! ## What reads a configuration -/

/-- **The check finds the same violations.** It only asks whether there is a language. -/
lemma violations (h : Equivalent c c') : c.violations = c'.violations := by
  have hsome : c.effectiveLanguage.isSome = c'.effectiveLanguage.isSome := by
    rw [← Option.isSome_map (f := lowerCase), h.effectiveLanguage, Option.isSome_map]
  unfold Config.violations scriptViolations languageViolations
  rw [h.effectiveScript, h.scriptFile, hsome]

lemma ensureValid (h : Equivalent c c') : c.ensureValid = c'.ensureValid := by
  unfold Config.ensureValid
  rw [h.violations]

/-- **The resolution comes to the same source, or to the same failure.** Wherever it uses a
language, it uses it in lower case. -/
lemma resolve (h : Equivalent c c') (fs : Files.Storage) :
    Source.resolve fs c = Source.resolve fs c' := by
  unfold Source.resolve
  rw [h.effectiveScript, h.scriptFile]
  rcases h.effectiveLanguage_cases with ⟨hl, hl'⟩ | ⟨l, l', hl, hl', heq⟩
  · rw [hl, hl']
  · have hinline : Source.inline l = Source.inline l' := by
      funext text
      unfold Source.inline
      rw [heq]
    have hfile : Source.fileLanguage (some l) = Source.fileLanguage (some l') := by
      funext path
      unfold Source.fileLanguage
      simp only [heq]
    rw [hl, hl', hfile]
    simp only [hinline]

/-- **The start is the same.** -/
lemma ofConfig (h : Equivalent c c') (fs : Files.Storage) (r : Registry) :
    Transformer.ofConfig fs r c = Transformer.ofConfig fs r c' := by
  unfold Transformer.ofConfig
  rw [h.ensureValid, h.resolve fs, h.variablesText, h.variablesLocation]

end Equivalent

/-- **Configurations that mean the same behave the same.** For two equivalent configurations, all
files and every registry, the check finds the same violations and ends in the same way, the
resolution ends in the same way, and either both starts fail with the same failure, or both have a
transformer. These two have the same language and the same source, they show their scripts the same
of every message, and one executor has compiled both. -/
theorem equivalent_same (h : Equivalent c c') (fs : Files.Storage) (r : Registry) :
    c.violations = c'.violations ∧ c.ensureValid = c'.ensureValid ∧
    Source.resolve fs c = Source.resolve fs c' ∧
    ((∃ f, Transformer.ofConfig fs r c = .error f ∧ Transformer.ofConfig fs r c' = .error f) ∨
      ∃ t t', Transformer.ofConfig fs r c = .ok t ∧ Transformer.ofConfig fs r c' = .ok t' ∧
        t.language = t'.language ∧ t.source = t'.source ∧
        (∀ m, t.bindingsFor m = t'.bindingsFor m) ∧
        ∃ e, r.get? t.language = some e ∧ r.get? t'.language = some e ∧
          e.compile t.source.text = .ok t.script ∧ e.compile t'.source.text = .ok t'.script) := by
  refine ⟨h.violations, h.ensureValid, h.resolve fs, ?_⟩
  have hstart := h.ofConfig fs r
  cases hc : Transformer.ofConfig fs r c with
  | error f => exact .inl ⟨f, rfl, hstart ▸ hc⟩
  | ok t =>
    obtain ⟨e, he, hcompiled⟩ := (Transformer.StartedBy.of_ofConfig hc).script
    exact .inr ⟨t, t, rfl, hstart ▸ hc, rfl, rfl, fun _ => rfl, e, he, he, hcompiled, hcompiled⟩

/-- A name of Python with a tab behind it and in capital letters is still that name, and an empty
script does not count beside a file. -/
theorem equivalent_same_spelling :
    (∃ t t',
      Transformer.ofConfig .empty (Registry.builtins .empty) (withScript " PY\t" "1") = .ok t ∧
      Transformer.ofConfig .empty (Registry.builtins .empty) (withScript "py" "1") = .ok t' ∧
      t.language = t'.language ∧ t.source = t'.source ∧
      ∀ m, t.bindingsFor m = t'.bindingsFor m) ∧
    ({ language := some " ", script := some "", scriptFile := some "a" : Config }).violations =
      (withScriptFile "a").violations := by
  have hsame : Equivalent (withScript " PY\t" "1") (withScript "py" "1") := by
    refine ⟨.given ?_, .equal _, rfl, rfl, rfl⟩
    have htrim : Text.trim " PY\t".toList = ['P', 'Y'] ∧ Text.trim "py".toList = ['p', 'y'] := by
      decide
    rw [htrim.1, htrim.2]
    exact .cons (.inr (.inl ⟨15, by decide⟩)) (.cons (.inr (.inl ⟨24, by decide⟩)) .nil)
  have hempty : Equivalent { language := some " ", script := some "", scriptFile := some "a" }
      (withScriptFile "a") := by
    refine ⟨.absent ?_ nofun, .absent ?_ nofun, rfl, rfl, rfl⟩
    · rintro s ⟨⟩
      exact List.forall_mem_singleton.2 rfl
    · rintro s ⟨⟩
      rfl
  refine ⟨?_, (equivalent_same hempty .empty .empty).1⟩
  have hstarts : ∃ t, Transformer.ofConfig .empty (Registry.builtins .empty) (withScript "py" "1") =
      .ok t := ⟨_, rfl⟩
  obtain ⟨-, -, -, hboth⟩ := equivalent_same hsame .empty (Registry.builtins .empty)
  rcases hboth with ⟨f, -, hf⟩ | ⟨t, t', ht, ht', hlanguage, hsource, hbindings, -⟩
  · obtain ⟨t, ht⟩ := hstarts
    exact nomatch ht.symm.trans hf
  · exact ⟨t, t', ht, ht', hlanguage, hsource, hbindings⟩

end Config

end ScriptStage
