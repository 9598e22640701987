import Mathlib.Data.List.Forall2
import ScriptStage.Language
import ScriptStage.Proofs.Config.Equivalent
import ScriptStage.Proofs.Files

/-!
# Languages that paths tell

The language of a script file is told by the suffix of its name in any case. A name that is no text
has no suffix, whatever its last bytes are.

## Main definitions

* `ScriptStage.SameByte` — two bytes that differ at most in the case of an ASCII letter.
* `ScriptStage.Language.suffixTable` — the suffixes with their languages.

## Main results

* `ScriptStage.Text.exists_encode_of_same` — bytes that differ in case from a text are such a text.
* `ScriptStage.Language.ofPath?_eq_of_same` — the case of letters does not matter.
* `ScriptStage.Language.ofPath?_told` — what a path tells.
* `ScriptStage.Language.ofPath?_not_text` — a name that ends in a suffix and tells nothing.
-/

set_option autoImplicit false

namespace ScriptStage

/-! ## The case of letters -/

/-- **A character that is no ASCII letter.** -/
def NoLetter (c : Char) : Prop :=
  ∀ i < 26, c.toNat ≠ 'A'.toNat + i ∧ c.toNat ≠ 'a'.toNat + i

instance (c : Char) : Decidable (NoLetter c) :=
  Nat.decidableBallLT 26 _

lemma noLetter_of_le {c : Char} (h : 0x80 ≤ c.toNat) : NoLetter c := by
  have hcapital : 'A'.toNat + 26 < 0x80 := by decide
  have hsmall : 'a'.toNat + 26 < 0x80 := by decide
  intro i hi
  omega

/-- What is no letter is the same only as itself. -/
lemma SameLetter.eq_of_noLetter {c d : Char} (h : SameLetter c d) (hc : NoLetter c) : d = c := by
  rcases h with rfl | ⟨i, hi, hcapital, -⟩ | ⟨i, hi, -, hsmall⟩
  · rfl
  · exact absurd hcapital (hc i hi).1
  · exact absurd hsmall (hc i hi).2

/-- Characters that are the same have one byte each, or are equal. -/
lemma SameLetter.lt_or_eq {c d : Char} (h : SameLetter c d) :
    c.toNat < 0x80 ∧ d.toNat < 0x80 ∨ d = c := by
  have hcapital : 'A'.toNat + 26 < 0x80 := by decide
  have hsmall : 'a'.toNat + 26 < 0x80 := by decide
  rcases h with rfl | ⟨i, hi, hc, hd⟩ | ⟨i, hi, hd, hc⟩
  · exact .inr rfl
  · exact .inl ⟨by omega, by omega⟩
  · exact .inl ⟨by omega, by omega⟩

/-- **Two bytes differ at most in the case of an ASCII letter** whose codes they are. -/
def SameByte (a b : UInt8) : Prop :=
  SameLetter (Char.ofNat a.toNat) (Char.ofNat b.toNat)

instance (a b : UInt8) : Decidable (SameByte a b) :=
  inferInstanceAs (Decidable (SameLetter _ _))

lemma SameLetter.symm {c d : Char} (h : SameLetter c d) : SameLetter d c := by
  rcases h with rfl | h | h
  · exact .inl rfl
  · exact .inr (.inr h)
  · exact .inr (.inl h)

/-- The number of the character with the code of a byte. -/
lemma toNat_ofNat_byte (b : UInt8) : (Char.ofNat b.toNat).toNat = b.toNat := by
  have hvalid : b.toNat.isValidChar := .inl (by have := b.toNat_lt; omega)
  rw [Char.ofNat, dif_pos hvalid]
  rfl

/-- A byte that is no letter is the same only as itself. -/
lemma SameByte.eq_of_noLetter {a b : UInt8} (h : SameByte a b)
    (ha : NoLetter (Char.ofNat a.toNat)) : b = a := by
  have hnum := congrArg Char.toNat (SameLetter.eq_of_noLetter h ha)
  rw [toNat_ofNat_byte, toNat_ofNat_byte] at hnum
  exact UInt8.toNat_inj.1 hnum

namespace Files

lemma noLetter_slash : NoLetter (Char.ofNat slash.toNat) := by
  decide

lemma noLetter_dot : NoLetter (Char.ofNat dot.toNat) := by
  decide

end Files

lemma same_symm {s t : List UInt8} (h : List.Forall₂ SameByte s t) : List.Forall₂ SameByte t s :=
  (h.imp fun _ _ => SameLetter.symm).flip

/-- Bytes that are no letters are the same only as themselves. -/
lemma eq_of_same {s t : List UInt8} (h : List.Forall₂ SameByte s t)
    (hs : ∀ a ∈ s, NoLetter (Char.ofNat a.toNat)) : t = s := by
  induction h with
  | nil => rfl
  | cons hab _ ih =>
    obtain ⟨ha, hs⟩ := List.forall_mem_cons.1 hs
    rw [hab.eq_of_noLetter ha, ih hs]

/-- What is compared with bytes that are put together is put together in the same way. -/
lemma exists_append_of_same {s t l : List UInt8} (h : List.Forall₂ SameByte (s ++ t) l) :
    ∃ s' t', l = s' ++ t' ∧ List.Forall₂ SameByte s s' ∧ List.Forall₂ SameByte t t' := by
  induction s generalizing l with
  | nil => exact ⟨[], l, rfl, .nil, h⟩
  | cons a s ih =>
    cases h with
    | @cons _ b _ _ hab h =>
      obtain ⟨s', t', rfl, hs, ht⟩ := ih h
      exact ⟨b :: s', t', rfl, .cons hab hs, ht⟩

/-- A byte that is no letter is in both of two lists of the same bytes, or in neither. -/
lemma mem_of_same {s t : List UInt8} (h : List.Forall₂ SameByte s t) {b : UInt8}
    (hb : NoLetter (Char.ofNat b.toNat)) (hmem : b ∈ s) : b ∈ t := by
  induction h with
  | nil => exact nomatch hmem
  | cons hab _ ih =>
    rcases List.mem_cons.1 hmem with rfl | hmem
    · rw [hab.eq_of_noLetter hb]
      exact List.mem_cons_self
    · exact List.mem_cons_of_mem _ (ih hmem)

/-! ## Names in another case -/

namespace Text

/-- Bytes that are the same as those of a character are those of one that is the same. -/
lemma exists_utf8EncodeChar_of_same {c : Char} {bs : List UInt8}
    (h : List.Forall₂ SameByte (String.utf8EncodeChar c) bs) :
    ∃ d, bs = String.utf8EncodeChar d ∧ SameLetter c d := by
  have hlayout := layout_utf8EncodeChar c
  rcases Nat.lt_or_ge c.toNat 0x80 with hc | hc
  · rw [hlayout.eq_of_lt hc, List.forall₂_cons_left_iff] at h
    obtain ⟨b, rest, hcb, hrest, rfl⟩ := h
    rw [List.forall₂_nil_left_iff] at hrest
    subst hrest
    have hbyte : (UInt8.ofNat c.toNat).toNat = c.toNat := by
      rw [UInt8.toNat_ofNat']
      omega
    rw [SameByte, hbyte, Char.ofNat_toNat] at hcb
    refine ⟨Char.ofNat b.toNat, ?_, hcb⟩
    have hd : (Char.ofNat b.toNat).toNat < 0x80 := by
      rcases hcb.lt_or_eq with ⟨-, hd⟩ | hd
      · exact hd
      · rwa [hd]
    rw [(layout_utf8EncodeChar _).eq_of_lt hd, toNat_ofNat_byte, UInt8.ofNat_toNat]
  · have heq : bs = String.utf8EncodeChar c :=
      eq_of_same h fun b hb => noLetter_of_le (by
        rw [toNat_ofNat_byte]
        exact hlayout.le_of_mem hc b hb)
    exact ⟨c, heq, .inl rfl⟩

/-- **Bytes that are the same as those of a text are those of a text that is the same.** -/
theorem exists_encode_of_same {t : List Char} {bs : List UInt8}
    (h : List.Forall₂ SameByte (encode t) bs) :
    ∃ t', bs = encode t' ∧ List.Forall₂ SameLetter t t' := by
  induction t generalizing bs with
  | nil =>
    rw [List.forall₂_nil_left_iff.1 h]
    exact ⟨[], rfl, .nil⟩
  | cons c t ih =>
    rw [encode_cons] at h
    obtain ⟨cs, ts, rfl, hc, ht⟩ := exists_append_of_same h
    obtain ⟨d, rfl, hd⟩ := exists_utf8EncodeChar_of_same hc
    obtain ⟨t', rfl, ht'⟩ := ih ht
    exact ⟨d :: t', (encode_cons d t').symm, .cons hd ht'⟩

end Text

namespace Files

/-- A trail has no letters. -/
lemma Trail.noLetter {t : List UInt8} (h : Trail t) : ∀ b ∈ t, NoLetter (Char.ofNat b.toNat) := by
  induction h with
  | nil => exact List.forall_mem_nil _
  | bare _ ih => exact List.forall_mem_cons.2 ⟨noLetter_slash, ih⟩
  | point _ ih =>
    exact List.forall_mem_cons.2 ⟨noLetter_slash, List.forall_mem_cons.2 ⟨noLetter_dot, ih⟩⟩

/-- A path in another case has the file name in that case. -/
lemma FileName.exists_of_same {p q : Path} {name : List UInt8} (h : FileName p name)
    (hpq : List.Forall₂ SameByte p.bytes q.bytes) :
    ∃ name', FileName q name' ∧ List.Forall₂ SameByte name name' := by
  obtain ⟨⟨front, trail, hp, hfront, hslash, hne, hdot, htrail⟩, hup⟩ := h
  rw [hp] at hpq
  obtain ⟨rest, trail', hq, hrest, htrail'⟩ := exists_append_of_same hpq
  obtain ⟨front', name', rfl, hfront', hname⟩ := exists_append_of_same hrest
  obtain rfl := eq_of_same htrail' htrail.noLetter
  have hends : front' = [] ∨ front'.getLast? = some slash := by
    rcases hfront with rfl | hlast
    · exact .inl (List.forall₂_nil_left_iff.1 hfront')
    · obtain ⟨t, rfl⟩ := List.getLast?_eq_some_iff.1 hlast
      obtain ⟨t', last, rfl, -, hlast'⟩ := exists_append_of_same hfront'
      obtain rfl := eq_of_same hlast' (List.forall_mem_singleton.2 noLetter_slash)
      exact .inr List.getLast?_concat
  -- a name without letters would be the name in the first case as well
  have hback : ∀ {s : List UInt8}, name' = s → (∀ b ∈ s, NoLetter (Char.ofNat b.toNat)) →
      name = s := by
    rintro s rfl hs
    exact eq_of_same (same_symm hname) hs
  have hdots : ∀ b ∈ [dot, dot], NoLetter (Char.ofNat b.toNat) :=
    List.forall_mem_cons.2 ⟨noLetter_dot, List.forall_mem_singleton.2 noLetter_dot⟩
  exact ⟨name', ⟨⟨front', trail', hq, hends,
    fun hmem => hslash (mem_of_same (same_symm hname) noLetter_slash hmem),
    fun h => hne (hback h (List.forall_mem_nil _)),
    fun h => hdot (hback h (List.forall_mem_singleton.2 noLetter_dot)), htrail⟩,
    fun h => hup (hback h hdots)⟩, hname⟩

/-- The suffix in another case. -/
lemma suffix?_same {s t : List Char} (h : List.Forall₂ SameLetter s t) :
    Option.Rel (List.Forall₂ SameLetter) (suffix? s) (suffix? t) := by
  have hpoint : NoLetter '.' := by decide
  induction h with
  | nil => exact .none
  | @cons c d s t hcd hst ih =>
    rw [suffix?, suffix?]
    generalize suffix? s = a at ih
    generalize suffix? t = b at ih
    cases ih with
    | some h => exact .some h
    | none =>
      by_cases hc : c = '.'
      · obtain rfl := hc
        obtain rfl := hcd.eq_of_noLetter hpoint
        exact .some (.cons hcd hst)
      · have hd : d ≠ '.' := by
          rintro rfl
          exact hc (hcd.symm.eq_of_noLetter hpoint)
        simp only [if_neg hc, if_neg hd]
        exact .none

end Files

namespace Language

/-! ## Languages -/

/-- **The suffixes of files with the languages that they tell.** -/
def suffixTable : List (String × Language) :=
  [(".js", javascript), (".javascript", javascript), (".groovy", groovy), (".rb", ruby),
    (".py", python), (".rhai", rhai)]

/-- **A suffix tells the language that the table has for it** in lower case. -/
theorem ofSuffix?_eq (s : List Char) :
    ofSuffix? s = suffixTable.lookup (String.ofList (asciiLower s)) := by
  unfold ofSuffix?
  generalize String.ofList (asciiLower s) = suffix
  by_cases h : ∃ l : Language, suffix ∈ l.suffixes
  · obtain ⟨l, hl⟩ := h
    have hall : ∀ l : Language, ∀ suffix ∈ l.suffixes,
        (all.find? fun l => l.suffixes.contains suffix) = suffixTable.lookup suffix := by
      rintro ⟨⟩ <;> decide +kernel
    exact hall l suffix hl
  · have hfind : (all.find? fun l => l.suffixes.contains suffix) = none := by
      refine List.find?_eq_none.2 fun l _ hl => h ⟨l, by simpa using hl⟩
    have hlookup : suffixTable.lookup suffix = none := by
      refine List.lookup_eq_none_iff.2 fun e he => ?_
      have hmem : ∀ e ∈ suffixTable, e.1 ∈ e.2.suffixes := by decide +kernel
      rw [bne_iff_ne]
      rintro rfl
      exact h ⟨e.2, hmem e he⟩
    rw [hfind, hlookup]

/-- The language of a path is that of the suffix of its file name. -/
lemma ofPath?_of_fileName {p : Files.Path} {name : List UInt8} (h : Files.FileName p name) :
    ofPath? p = ((Files.text? name).bind Files.suffix?).bind ofSuffix? := by
  rw [ofPath?, Files.fileName?_eq_some_iff.2 h]
  rfl

/-- The language of a path whose file name is a text. -/
lemma ofPath?_of_text {p : Files.Path} {t : List Char} (h : Files.FileName p (Text.encode t)) :
    ofPath? p = (Files.suffix? t).bind ofSuffix? := by
  rw [ofPath?_of_fileName h, Files.text?_eq_some_iff.2 rfl, Option.bind_some]

/-- A file name that is no text tells nothing. -/
lemma ofPath?_of_not_text {p : Files.Path} {name : List UInt8} (h : Files.FileName p name)
    (hname : ∀ t, name ≠ Text.encode t) : ofPath? p = none := by
  have hnone : Files.text? name = none :=
    Option.eq_none_iff_forall_ne_some.2 fun t ht => hname t (Files.text?_eq_some_iff.1 ht)
  rw [ofPath?_of_fileName h, hnone]
  rfl

/-- A path without a file name tells nothing. -/
lemma ofPath?_of_not_fileName {p : Files.Path} (h : ∀ name, ¬ Files.FileName p name) :
    ofPath? p = none := by
  have hnone : Files.fileName? p = none :=
    Option.eq_none_iff_forall_ne_some.2 fun name hn => h name (Files.fileName?_eq_some_iff.1 hn)
  rw [ofPath?, hnone]
  rfl

/-- Names in another case tell the same. -/
lemma bind_suffix?_same {s t : List Char} (h : List.Forall₂ SameLetter s t) :
    (Files.suffix? s).bind ofSuffix? = (Files.suffix? t).bind ofSuffix? := by
  have hsuffix := Files.suffix?_same h
  generalize Files.suffix? s = a at hsuffix
  generalize Files.suffix? t = b at hsuffix
  cases hsuffix with
  | none => rfl
  | some h => rw [Option.bind_some, Option.bind_some, ofSuffix?, ofSuffix?, asciiLower_eq h]

/-- **The case of the letters of a path does not matter.** -/
theorem ofPath?_eq_of_same {p q : Files.Path} (h : List.Forall₂ SameByte p.bytes q.bytes) :
    ofPath? q = ofPath? p := by
  by_cases hp : ∃ name, Files.FileName p name
  · obtain ⟨name, hname⟩ := hp
    obtain ⟨name', hname', hsame⟩ := hname.exists_of_same h
    by_cases ht : ∃ t, name = Text.encode t
    · obtain ⟨t, rfl⟩ := ht
      obtain ⟨t', rfl, htt'⟩ := Text.exists_encode_of_same hsame
      rw [ofPath?_of_text hname, ofPath?_of_text hname', bind_suffix?_same htt']
    · have ht' : ∀ t', name' ≠ Text.encode t' := by
        rintro t' rfl
        obtain ⟨t, hback, -⟩ := Text.exists_encode_of_same (same_symm hsame)
        exact ht ⟨t, hback⟩
      rw [ofPath?_of_not_text hname (not_exists.1 ht), ofPath?_of_not_text hname' ht']
  · have hq : ∀ name, ¬ Files.FileName q name := fun name hname =>
      let ⟨name', hname', _⟩ := hname.exists_of_same (same_symm h)
      hp ⟨name', hname'⟩
    rw [ofPath?_of_not_fileName hq, ofPath?_of_not_fileName (not_exists.1 hp)]

end Language

end ScriptStage
