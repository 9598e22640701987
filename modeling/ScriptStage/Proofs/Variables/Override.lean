import ScriptStage.Proofs.Variables.File

/-!
# Definitions that override others

Variables are defined in a file, inline, or both. This file says how the bindings of a text are put
together from those of its parts: an inline text can be cut at any line end, whichever way that is
written, and then the second part overrides the first one, name by name; and the whole text
overrides the file. Nothing that stands in front of the line end matters to it. Only a file that
cannot be read is a failure.

## Main definitions

* `ScriptStage.Variables.Overridden` — bindings that are overridden by others.
* `ScriptStage.Variables.WrittenEnd` — the two ways to write a line end inline.
* `ScriptStage.Variables.Readable` — there is no file, or it can be read.

## Main results

* `ScriptStage.Files.Storage.holds_iff` — a file is read if and only if it holds a text.
* `ScriptStage.Variables.overridden_define` — the bindings with more entries.
* `ScriptStage.Variables.ofInline_writtenEnd` — the entries of an inline text that is cut.
* `ScriptStage.Variables.load_composes` — how definitions compose.
-/

set_option autoImplicit false

namespace ScriptStage

namespace Files.Storage

/-- **A file is read if and only if it holds a text**, which is what is read. -/
lemma holds_iff {fs : Storage} {path text : String} :
    fs.Holds path text ↔ fs.readText path = .ok text := by
  refine ⟨Holds.readText, fun h => ?_⟩
  unfold readText at h
  split at h
  · cases h
  · cases h
  · next content hlookup =>
    split at h
    · next text' hbytes =>
      obtain rfl := Except.ok.inj h
      obtain ⟨hvalid, htext⟩ := Option.dite_none_right_eq_some.1 hbytes
      obtain rfl := Option.some.inj htext
      exact hlookup
    · cases h

end Files.Storage

namespace Variables

open Properties Files

/-! ## Bindings that are overridden -/

/-- **Bindings that are overridden by others**, name by name: a name has the value that the others
give to it, and the one that it had if they give it none. -/
def Overridden (b₁ b₂ b : Bindings) : Prop :=
  ∀ name, b.get? name = (b₂.get? name).or (b₁.get? name)

/-- Bindings with more entries are overridden by the bindings of these. -/
lemma overridden_define (b : Bindings) (es : List Entry) :
    Overridden b (define .empty es) (define b es) := by
  intro name
  rw [get?_define, get?_define .empty, Dict.get?_empty, Option.or_none]

/-- Entries are added one after another. -/
lemma define_append (b : Bindings) (es es' : List Entry) :
    define b (es ++ es') = define (define b es) es' :=
  List.foldl_append

/-! ## Inline texts that are cut -/

/-- **A line end inside another value**. -/
inductive WrittenEnd where
  /-- A line feed. -/
  | lineFeed
  /-- A backslash and `n`. -/
  | letter
  deriving DecidableEq

/-- The characters of a line end. -/
def WrittenEnd.text : WrittenEnd → String
  | lineFeed => "\n"
  | letter => "\\n"

/-- **The entries of an inline text that is cut at a line end** are those of its parts, whatever
these are. The pair that is a line end cannot start with a backslash in front of it, as that would
have to be followed by `n`. -/
theorem ofInline_writtenEnd (e : WrittenEnd) (s t : String) :
    ofInline (s ++ e.text ++ t).toList = ofInline s.toList ++ ofInline t.toList := by
  rw [String.toList_append, String.toList_append, List.append_assoc]
  cases e with
  | lineFeed => exact ofInline_append s.toList t.toList
  | letter =>
    have hcut : Text.replacePair '\\' 'n' ['\n'] (s.toList ++ '\\' :: 'n' :: t.toList) =
        Text.replacePair '\\' 'n' ['\n'] s.toList ++
          '\n' :: Text.replacePair '\\' 'n' ['\n'] t.toList := by
      rw [Text.replacePair_append (by decide), Text.replacePair_pair]
      rfl
    calc ofInline (s.toList ++ '\\' :: 'n' :: t.toList)
        = ofText (Text.replacePair '\\' 'n' ['\n'] (s.toList ++ '\\' :: 'n' :: t.toList)) :=
          ofInline_eq_ofText _
      _ = ofText (Text.replacePair '\\' 'n' ['\n'] s.toList) ++
            ofText (Text.replacePair '\\' 'n' ['\n'] t.toList) := by
          rw [hcut, ofText_append]
      _ = ofInline s.toList ++ ofInline t.toList := by
          rw [ofInline_eq_ofText, ofInline_eq_ofText]

/-! ## Files that can be read -/

/-- **There is no file, or it can be read.** -/
def Readable (fs : Storage) (location : Option String) : Prop :=
  ∀ path, location = some path → ∃ text, fs.Holds path text

/-- Entries are found unless the file cannot be read. -/
lemma fileEntries_cases (fs : Storage) (location : Option String) :
    (Readable fs location ∧ ∃ es, fileEntries fs location = .ok es) ∨
      (¬ Readable fs location ∧ ∃ message, fileEntries fs location = .error (.io message)) := by
  cases location with
  | none => exact .inl ⟨fun path h => absurd h.symm (Option.some_ne_none path), [], rfl⟩
  | some path =>
    cases hread : fs.readText path with
    | ok text =>
      refine .inl ⟨fun path' h => ?_, ofText text.toList, by rw [fileEntries, hread]⟩
      obtain rfl := Option.some.inj h
      exact ⟨text, Storage.holds_iff.2 hread⟩
    | error e =>
      refine .inr ⟨fun h => ?_, _, by rw [fileEntries, hread]⟩
      obtain ⟨text, held⟩ := h path rfl
      rw [held.readText] at hread
      cases hread

/-- Bindings are loaded whenever entries are found. -/
lemma load_of_fileEntries {fs : Storage} {location : Option String} {es : List Entry}
    (h : fileEntries fs location = .ok es) (inline : Option String) :
    load fs inline location = .ok (define (define .empty es) (inlineEntries inline)) := by
  rw [load, h]
  rfl

/-- Bindings are not loaded if no entries are found. -/
lemma load_of_fileEntries_error {fs : Storage} {location : Option String} {f : Failure}
    (h : fileEntries fs location = .error f) (inline : Option String) :
    load fs inline location = .error f := by
  rw [load, h]
  rfl

/-! ## Loads -/

/-- **Definitions compose.** For all files:

* if there is no file of variables, or it can be read, the bindings of two inline texts with a line
  end of either kind between them are those of the first text overridden by those of the second
  one alone;
* the bindings of an inline text and a file that can be read are those of the file alone overridden
  by those of the text alone;
* a load fails if and only if there is a file of variables that cannot be read, whatever the inline
  text is, and the failure is then one of input or output. -/
theorem load_composes (fs : Storage) :
    (∀ (v₁ v₂ : String) (e : WrittenEnd) (location : Option String), Readable fs location →
      ∃ b₁ b₂ b, load fs (some v₁) location = .ok b₁ ∧ load fs (some v₂) none = .ok b₂ ∧
        load fs (some (v₁ ++ e.text ++ v₂)) location = .ok b ∧ Overridden b₁ b₂ b) ∧
    (∀ (v path : String), Readable fs (some path) →
      ∃ b₁ b₂ b, load fs none (some path) = .ok b₁ ∧ load fs (some v) none = .ok b₂ ∧
        load fs (some v) (some path) = .ok b ∧ Overridden b₁ b₂ b) ∧
    ∀ (inline location : Option String),
      ((∃ f, load fs inline location = .error f) ↔ ¬ Readable fs location) ∧
      ∀ f, load fs inline location = .error f → ∃ message, f = .io message := by
  refine ⟨fun v₁ v₂ e location hread => ?_, fun v path hread => ?_, fun inline location => ?_⟩
  · obtain ⟨-, es, hes⟩ := (fileEntries_cases fs location).resolve_right fun h => h.1 hread
    have hboth : inlineEntries (some (v₁ ++ e.text ++ v₂)) =
        inlineEntries (some v₁) ++ inlineEntries (some v₂) := ofInline_writtenEnd e v₁ v₂
    refine ⟨_, _, _, load_of_fileEntries hes _, load_inline fs v₂, load_of_fileEntries hes _, ?_⟩
    rw [hboth, define_append]
    exact overridden_define _ _
  · obtain ⟨-, es, hes⟩ := (fileEntries_cases fs (some path)).resolve_right fun h => h.1 hread
    exact ⟨_, _, _, load_of_fileEntries hes none, load_inline fs v, load_of_fileEntries hes _,
      overridden_define _ _⟩
  · rcases fileEntries_cases fs location with ⟨hread, es, hes⟩ | ⟨hread, message, hes⟩
    · rw [load_of_fileEntries hes]
      exact ⟨iff_of_false (fun ⟨f, h⟩ => nomatch h) (not_not.2 hread), nofun⟩
    · rw [load_of_fileEntries_error hes]
      exact ⟨iff_of_true ⟨_, rfl⟩ hread, fun f h => ⟨message, (Except.error.inj h).symm⟩⟩

/-- A text whose first value ends with a backslash, in front of a line end that starts with one, and
a file that it overrides. A file that is missing is a failure. -/
theorem load_composes_backslash :
    let fs : Storage := System.empty.insert "v" (.file "a=y z\nb=1".toUTF8)
    (∃ b, load fs (some ("b=x\\" ++ WrittenEnd.letter.text ++ "n=y z")) (some "v") = .ok b ∧
      b.get? "a" = some (.str "y z") ∧ b.get? "b" = some (.str "x\\") ∧
      b.get? "n" = some (.str "y z")) ∧
    ∃ message, load fs (some "a=1") (some "w") = .error (.io message) := by
  intro fs
  have held : fs.Holds "v" "a=y z\nb=1" := rfl
  have hread : Readable fs (some "v") := fun path h => ⟨_, Option.some.inj h ▸ held⟩
  have hmissing : ¬ Readable fs (some "w") := by
    intro h
    obtain ⟨text, held⟩ := h "w" rfl
    exact nomatch held
  have hvalue : infer "y z".toList = .str "y z" := by
    rw [infer_of_mem (c := ' ') (by decide) (by decide) (by decide) (by decide) (by decide +kernel),
      String.ofList_toList]
  have hslash : infer "x\\".toList = .str "x\\" := by
    rw [infer_of_backslash (by decide +kernel), String.ofList_toList]
  have hfile : (ofText "a=y z\nb=1".toList).map pairOf = [("a", "y z"), ("b", "1")] := by
    have hentries : ofText "a=y z\nb=1".toList = [⟨['a'], "y z".toList⟩, ⟨['b'], ['1']⟩] := by
      decide +kernel
    rw [hentries]
    simp [pairOf, unescape_plain, unescape]
  have hfirst : (ofInline "b=x\\".toList).map pairOf = [("b", "x\\")] := by
    have hentries : ofInline "b=x\\".toList = [⟨['b'], "x\\".toList⟩] := by decide +kernel
    rw [hentries]
    simp [pairOf, unescape_plain, unescape]
  have hsecond : (ofInline "n=y z".toList).map pairOf = [("n", "y z")] := by
    have hentries : ofInline "n=y z".toList = [⟨['n'], "y z".toList⟩] := by decide +kernel
    rw [hentries]
    simp [pairOf, unescape_plain, unescape]
  obtain ⟨hcut, hboth, hfails⟩ := load_composes fs
  obtain ⟨b₁, b₂, b, h₁, h₂, h, hover⟩ := hcut "b=x\\" "n=y z" .letter (some "v") hread
  obtain ⟨b₃, b₄, b₁', h₃, h₄, h₁', hover₁⟩ := hboth "b=x\\" "v" hread
  obtain rfl : b₁ = b₁' := Except.ok.inj (h₁.symm.trans h₁')
  obtain rfl := Except.ok.inj ((load_inline fs _).symm.trans h₂)
  obtain rfl := Except.ok.inj ((load_file held).symm.trans h₃)
  obtain rfl := Except.ok.inj ((load_inline fs _).symm.trans h₄)
  have hget := fun name => (hover name).trans (congrArg _ (hover₁ name))
  simp only [get?_define_pairs, hfile, hfirst, hsecond] at hget
  obtain ⟨f, hf⟩ := (hfails (some "a=1") (some "w")).1.2 hmissing
  obtain ⟨message, rfl⟩ := (hfails (some "a=1") (some "w")).2 f hf
  exact ⟨⟨b, h, (hget "a").trans (congrArg some hvalue), (hget "b").trans (congrArg some hslash),
    (hget "n").trans (congrArg some hvalue)⟩, message, hf⟩

end Variables

end ScriptStage
