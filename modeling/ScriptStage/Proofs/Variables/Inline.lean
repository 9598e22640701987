import Mathlib.Data.List.Nodup
import ScriptStage.Proofs.Properties.Breaks
import ScriptStage.Proofs.Properties.Entries
import ScriptStage.Proofs.Properties.Infer
import ScriptStage.Variables

/-!
# Inline variables

Variables are written as lines, each with a name and a value whose backslashes are doubled, and the
lines are put together with line feeds. This file says when the bindings of such a text are what was
written. They are unless some value holds a backslash followed by `n`: a value is cut there, as if
the pair had been meant as a line end, so that no text written in this way stands for it.

## Main definitions

* `ScriptStage.Variables.lastValue?` — the value that is listed last for a name.
* `ScriptStage.Variables.inlineText` — the text of listed values.

## Main results

* `ScriptStage.Variables.get?_define`, `get?_define_pairs` — the value that entries give to a name.
* `ScriptStage.Variables.ofInline_inlineText`, `not_hasBreak_of_mem` — the entries of the text.
* `ScriptStage.Variables.load_inlineText` — its bindings.
-/

set_option autoImplicit false

namespace ScriptStage.Variables

open Properties

/-- The last entry with a name gives it its value. -/
lemma get?_define (b : Bindings) (es : List Entry) (name : String) :
    (define b es).get? name =
      ((es.reverse.find? fun e => String.ofList e.key = name).map valueOf).or (b.get? name) := by
  unfold define
  induction es generalizing b with
  | nil => rfl
  | cons e es ih =>
    rw [List.foldl_cons, ih, Dict.get?_insert, List.reverse_cons, List.find?_append]
    cases (es.reverse.find? fun e => String.ofList e.key = name) with
    | some e' => rfl
    | none =>
      by_cases he : String.ofList e.key = name <;> simp [he]

/-! ## Listed values -/

/-- The lines of listed values. -/
def writtenLines (ps : List (String × String)) : List (List Char) :=
  ps.map fun p => writeLine numberedLineFeed p.1.toList p.2.toList

/-- The text of listed values. -/
def inlineText (ps : List (String × String)) : String :=
  String.ofList (['\n'].intercalate (writtenLines ps))

/-- The value that is listed last for a name. -/
def lastValue? (ps : List (String × String)) (name : String) : Option String :=
  (ps.reverse.find? fun p => p.1 = name).map Prod.snd

variable {ps : List (String × String)}

/-- The name and the value of an entry. -/
def pairOf (e : Entry) : String × String :=
  (String.ofList e.key, String.ofList (unescape e.value))

/-- A name gets what is inferred from the value that the entries list last for it. -/
lemma get?_define_pairs (es : List Entry) (name : String) :
    (define .empty es).get? name =
      (lastValue? (es.map pairOf) name).map fun v => infer v.toList := by
  have hvalue : (fun p : String × String => infer p.2.toList) ∘ pairOf = valueOf := by
    funext e
    rw [Function.comp_apply, pairOf, String.toList_ofList, valueOf]
  rw [get?_define, Dict.get?_empty, Option.or_none, lastValue?, ← List.map_reverse, List.find?_map,
    Option.map_map, Option.map_map, ← hvalue]
  rfl

/-- Whatever spelling the values have, a name gets what is inferred from its last one. -/
lemma get?_define_listed {write : List Char → List Char} (hw : ∀ v, unescape (write v) = v)
    (ps : List (String × String)) (name : String) :
    (define .empty (ps.map fun p => ⟨p.1.toList, write p.2.toList⟩)).get? name =
      (lastValue? ps name).map fun v => infer v.toList := by
  have hpairs : (ps.map fun p => (⟨p.1.toList, write p.2.toList⟩ : Entry)).map pairOf = ps := by
    rw [List.map_map]
    refine List.map_id'' (fun p => ?_) ps
    rw [Function.comp_apply, pairOf, hw, String.ofList_toList, String.ofList_toList]
  rw [get?_define_pairs, hpairs]

/-- The lines come back from the text. -/
lemma lines_inlineText (names : ∀ p ∈ ps, IsName p.1.toList) :
    Text.lines (inlineText ps).toList = writtenLines ps := by
  rw [inlineText, String.toList_ofList]
  refine Text.lines_intercalate fun l hl => ?_
  obtain ⟨p, hp, rfl⟩ := List.mem_map.1 hl
  have hclean := writeLine_mem isLineFeed_numbered (names p hp) p.2.toList
  exact ⟨by simp [writeLine], fun h => (hclean _ h).2 rfl,
    fun h => (hclean _ (List.mem_of_getLast? h)).1 rfl⟩

/-- If no value holds the pair, the entries are the listed values. -/
lemma ofInline_inlineText (names : ∀ p ∈ ps, IsName p.1.toList)
    (whole : ∀ p ∈ ps, ¬ HasBreak p.2.toList) :
    ofInline (inlineText ps).toList =
      ps.map fun p => ⟨p.1.toList, writeValue numberedLineFeed p.2.toList⟩ := by
  have hline : ∀ p ∈ ps, (Text.cutAt '\\' 'n' (writeLine numberedLineFeed p.1.toList
      p.2.toList)).filterMap ofLine =
      [⟨p.1.toList, writeValue numberedLineFeed p.2.toList⟩] := by
    intro p hp
    rw [Text.cutAt_of_not_infix ((hasBreak_writeLine (names p hp) _).not.2 (whole p hp))]
    simp [ofLine_writeLine isLineFeed_numbered (names p hp)]
  rw [ofInline_eq, lines_inlineText names, List.filterMap_flatMap, writtenLines, List.flatMap_map]
  clear names whole
  induction ps with
  | nil => rfl
  | cons p ps ih =>
    rw [List.flatMap_cons, hline p List.mem_cons_self,
      ih fun q hq => hline q (List.mem_cons_of_mem _ hq)]
    rfl

/-- Whatever the values are, no entry has one that holds the pair. -/
lemma not_hasBreak_of_mem (names : ∀ p ∈ ps, IsName p.1.toList) {e : Entry}
    (he : e ∈ ofInline (inlineText ps).toList) : ¬ HasBreak (unescape e.value) := by
  rw [ofInline_eq, lines_inlineText names] at he
  obtain ⟨piece, hpiece, he⟩ := List.mem_filterMap.1 he
  obtain ⟨l, hl, hpiece⟩ := List.mem_flatMap.1 hpiece
  obtain ⟨p, hp, rfl⟩ := List.mem_map.1 hl
  have htame := (tame_writeLine (names p hp) p.2.toList).cutAt piece hpiece
  refine htame.not_hasBreak_value (fun hr => ?_) (Text.not_infix_of_mem_cutAt hpiece) he
  exact (writeLine_mem isLineFeed_numbered (names p hp) _ _ (Text.mem_of_mem_cutAt hpiece hr)).1 rfl

/-! ## Bindings -/

lemma load_inline (fs : Files.Storage) (text : String) :
    load fs (some text) none = .ok (define .empty (ofInline text.toList)) := rfl

/-- Values written in full are read as they are. -/
lemma get?_inlineText (names : ∀ p ∈ ps, IsName p.1.toList)
    (whole : ∀ p ∈ ps, ¬ HasBreak p.2.toList) (name : String) :
    (define .empty (ofInline (inlineText ps).toList)).get? name =
      (lastValue? ps name).map fun v => infer v.toList := by
  rw [ofInline_inlineText names whole]
  exact get?_define_listed (unescape_writeValue isLineFeed_numbered) ps name

/-- **A value that holds the pair is not read back.**

**Proof sketch.** Such a value would be a string, for it holds a backslash. What is bound is the
value of some entry, and no entry has a value that holds the pair. -/
lemma get?_inlineText_ne (names : ∀ p ∈ ps, IsName p.1.toList) (name : String) {v : List Char}
    (hv : HasBreak v) :
    (define .empty (ofInline (inlineText ps).toList)).get? name ≠ some (infer v) := by
  intro h
  rw [get?_define, Dict.get?_empty, Option.or_none] at h
  obtain ⟨e, hfind, he⟩ := Option.map_eq_some_iff.1 h
  have hmem : e ∈ ofInline (inlineText ps).toList :=
    List.mem_reverse.1 (List.mem_of_find?_eq_some hfind)
  have hslash : '\\' ∈ v := hv.subset List.mem_cons_self
  rw [infer_of_backslash hslash] at he
  have hvalue : unescape e.value = v := eq_of_infer_eq_str he
  exact not_hasBreak_of_mem names hmem (hvalue ▸ hv)

/-- If no name is listed twice, each value is listed last. -/
lemma lastValue?_of_mem (nodup : (ps.map Prod.fst).Nodup) {p : String × String} (hp : p ∈ ps) :
    lastValue? ps p.1 = some p.2 := by
  cases h : ps.reverse.find? fun q => q.1 = p.1 with
  | none =>
    have hne := List.find?_eq_none.1 h p (List.mem_reverse.2 hp)
    simp at hne
  | some q =>
    have hname : q.1 = p.1 := by simpa using List.find?_some h
    have hq : q ∈ ps := List.mem_reverse.1 (List.mem_of_find?_eq_some h)
    have heq : q = p := List.inj_on_of_nodup_map nodup hq hp hname
    rw [lastValue?, h, heq]
    rfl

/-- **The bindings of written values.** Whatever values are listed, their text is read without a
failure, and:

* if no value holds a backslash followed by `n`, the names that are bound are those that are
  listed, each to what is inferred from the value that is listed last for it;
* a name whose last value holds such a pair is bound to something else or to nothing;
* so if no name is listed twice, the bindings are as listed if and only if no value holds the
  pair. -/
theorem load_inlineText (fs : Files.Storage) (ps : List (String × String))
    (names : ∀ p ∈ ps, IsName p.1.toList) :
    ∃ b, load fs (some (inlineText ps)) none = .ok b ∧
      ((∀ p ∈ ps, ¬ HasBreak p.2.toList) →
        ∀ name, b.get? name = (lastValue? ps name).map fun v => infer v.toList) ∧
      (∀ name v, lastValue? ps name = some v → HasBreak v.toList →
        b.get? name ≠ some (infer v.toList)) ∧
      ((ps.map Prod.fst).Nodup →
        ((∀ name, b.get? name = (lastValue? ps name).map fun v => infer v.toList) ↔
          ∀ p ∈ ps, ¬ HasBreak p.2.toList)) := by
  refine ⟨_, load_inline fs _, get?_inlineText names, fun name v _ hv => ?_, fun nodup =>
    ⟨fun h p hp hbreak => ?_, get?_inlineText names⟩⟩
  · exact get?_inlineText_ne names name hv
  · refine get?_inlineText_ne names p.1 hbreak ?_
    rw [h, lastValue?_of_mem nodup hp]
    rfl

/-- A path and a text with blanks are read back. -/
theorem load_inlineText_path :
    ∃ b,
      load .empty (some (inlineText [("path", "C:\\data\\x"), ("a b", " 1\t2\n")])) none = .ok b ∧
      b.get? "path" = some (.str "C:\\data\\x") ∧ b.get? "a b" = some (.str " 1\t2\n") ∧
      b.get? "c" = none := by
  have names : ∀ p ∈ [("path", "C:\\data\\x"), ("a b", " 1\t2\n")], IsName p.1.toList := by
    simp only [List.forall_mem_cons]
    exact ⟨by decide +kernel, by decide +kernel, fun _ h => nomatch h⟩
  obtain ⟨b, hb, hget, -⟩ := load_inlineText .empty _ names
  have hget := hget (by decide +kernel)
  have hpath : infer "C:\\data\\x".toList = .str "C:\\data\\x" := by
    rw [infer_of_backslash (by decide +kernel), String.ofList_toList]
  have htext : infer " 1\t2\n".toList = .str " 1\t2\n" := by
    rw [infer_of_mem (c := ' ') (by decide) (by decide) (by decide) (by decide) (by decide +kernel),
      String.ofList_toList]
  exact ⟨b, hb, (hget "path").trans (congrArg some hpath), (hget "a b").trans (congrArg some htext),
    (hget "c").trans rfl⟩

/-- A path whose second part starts with `n` is cut. -/
theorem load_inlineText_cut :
    (∀ p ∈ [("path", "C:\\new")], IsName p.1.toList) ∧
    inlineText [("path", "C:\\new")] = "path=C:\\\\new" ∧
    ∃ b, load .empty (some "path=C:\\\\new") none = .ok b ∧
      b.get? "path" = some (.str "C:\\") ∧
      (lastValue? [("path", "C:\\new")] "path").map (fun v => infer v.toList) =
        some (.str "C:\\new") := by
  have names : ∀ p ∈ [("path", "C:\\new")], IsName p.1.toList := by
    simp only [List.forall_mem_cons]
    exact ⟨by decide +kernel, fun _ h => nomatch h⟩
  have entries : ofInline "path=C:\\\\new".toList = [⟨"path".toList, ['C', ':', '\\']⟩] := by
    decide +kernel
  have cut : valueOf ⟨"path".toList, ['C', ':', '\\']⟩ = .str "C:\\" := by
    have value : unescape ['C', ':', '\\'] = ['C', ':', '\\'] := by simp [unescape]
    rw [valueOf, value]
    exact infer_of_backslash (by decide)
  have listed : infer "C:\\new".toList = .str "C:\\new" := by
    rw [infer_of_backslash (by decide +kernel), String.ofList_toList]
  refine ⟨names, by decide +kernel, _, load_inline _ _, ?_, congrArg some listed⟩
  rw [get?_define, entries]
  exact congrArg some cut

end ScriptStage.Variables
