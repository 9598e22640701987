import Mathlib.Data.List.Basic
import ScriptStage.Proofs.Text.Lines
import ScriptStage.Properties.Inline

/-!
# Entries of texts that are put together

The entries of a properties text are found line by line, and nothing on a line matters to another
one. A carriage return at the end of a line never belongs to an entry, whether it is a part of the
line end or not. So a text can be cut at any of its line feeds, and it does not matter whether a
line end inside of a value is written as one or as a backslash and `n`.

## Main definitions

* `ScriptStage.Properties.LineEnd` — the two ends that a line can have.

## Main results

* `ScriptStage.Properties.ofLine_append_return` — a carriage return at the end of a line.
* `ScriptStage.Properties.ofText_append`, `ofInline_append` — the entries of a text that is cut at a
  line feed.
* `ScriptStage.Properties.ofText_line` — the entry of a line in front of a text.
* `ScriptStage.Properties.ofInline_eq_ofText` — the two ways to write a line end.
-/

set_option autoImplicit false

namespace ScriptStage.Properties

open Text

/-! ## Carriage returns -/

/-- A carriage return at the end stays behind the first separator. -/
lemma splitAtSeparator_append_return (escaped : Bool) (t : List Char) :
    splitAtSeparator escaped (t ++ ['\r']) =
      (splitAtSeparator escaped t).map fun r => (r.1, r.2 ++ ['\r']) := by
  induction t generalizing escaped with
  | nil => simp [splitAtSeparator, isSeparator]
  | cons c t ih =>
    rw [List.cons_append, splitAtSeparator, splitAtSeparator, ih]
    split
    · rfl
    · rw [Option.map_map, Option.map_map]
      rfl

/-- A carriage return at the end is no part of a value. -/
lemma valueOf_append_return (t : List Char) : valueOf (t ++ ['\r']) = valueOf t := by
  rcases trimStart_append_blank (by decide : isBlank '\r' = true) t with ⟨h, -⟩ | ⟨h, h'⟩
  · rw [valueOf, h, valueOf, dropEndWhile, List.reverse_append, List.reverse_singleton,
      List.singleton_append, List.dropWhile_cons_of_pos (by simp)]
    rfl
  · rw [valueOf, h, valueOf, h']

/-- A blank text gives no entry. -/
lemma ofLine_of_blank {t : List Char} (h : trim t = []) : ofLine t = none := by
  simp [ofLine, trimStart_of_trim h, splitAtSeparator]

/-- **A carriage return at the end of a line** is no part of its entry. -/
theorem ofLine_append_return (l : List Char) : ofLine (l ++ ['\r']) = ofLine l := by
  rcases trimStart_append_blank (by decide : isBlank '\r' = true) l with ⟨h, hne⟩ | ⟨h, h'⟩
  · obtain ⟨c, t, ht⟩ := List.exists_cons_of_ne_nil hne
    have hcomment : isComment (trimStart l ++ ['\r']) = isComment (trimStart l) := by
      rw [ht]
      rfl
    simp only [ofLine, h, hcomment, splitAtSeparator_append_return]
    cases splitAtSeparator false (trimStart l) with
    | none => rfl
    | some r => simp [valueOf_append_return]
  · simp only [ofLine, h, h']

/-! ## Texts -/

lemma ofText_eq (t : List Char) : ofText t = (lines t).flatMap fun l => (ofLine l).toList :=
  List.filterMap_eq_flatMap_toList _ _

/-- The entry of a single line. -/
lemma ofText_of_not_mem {l : List Char} (hl : '\n' ∉ l) : ofText l = (ofLine l).toList := by
  rw [ofText_eq]
  exact flatMap_lines_of_not_mem (f := fun l => (ofLine l).toList) rfl hl

/-- **The entries of a text that is cut at a line feed** are those of its parts. -/
theorem ofText_append (s t : List Char) : ofText (s ++ '\n' :: t) = ofText s ++ ofText t := by
  rw [ofText_eq, ofText_eq, ofText_eq]
  exact flatMap_lines_append rfl (fun l => by rw [ofLine_append_return]) s t

/-- **The end of a line**. -/
inductive LineEnd where
  /-- A line feed. -/
  | lineFeed
  /-- A carriage return with a line feed. -/
  | returnLineFeed
  deriving DecidableEq

/-- The characters of a line end. -/
def LineEnd.text : LineEnd → List Char
  | lineFeed => ['\n']
  | returnLineFeed => ['\r', '\n']

/-- **The entry of a line in front of a text** is the same with either end. -/
theorem ofText_line (e : LineEnd) {l : List Char} (hl : '\n' ∉ l) (t : List Char) :
    ofText (l ++ (e.text ++ t)) = (ofLine l).toList ++ ofText t := by
  cases e with
  | lineFeed =>
    have happend := ofText_append l t
    rwa [ofText_of_not_mem hl] at happend
  | returnLineFeed =>
    have hr : '\n' ∉ l ++ ['\r'] := by simpa using hl
    have happend := ofText_append (l ++ ['\r']) t
    rwa [ofText_of_not_mem hr, ofLine_append_return, List.append_assoc] at happend

/-- Lines with line feeds between them give their entries. -/
lemma ofText_intercalate {ls : List (List Char)} (h : ∀ l ∈ ls, '\n' ∉ l) :
    ofText (['\n'].intercalate ls) = ls.filterMap ofLine := by
  rw [List.filterMap_eq_flatMap_toList]
  induction ls with
  | nil => rfl
  | cons l ls ih =>
    have hl := ofText_of_not_mem (h l List.mem_cons_self)
    have ih := ih fun l' hl' => h l' (List.mem_cons_of_mem _ hl')
    cases ls with
    | nil => rw [List.intercalate_singleton, hl, List.flatMap_singleton]
    | cons l' ls =>
      rw [List.intercalate_cons_cons, List.append_assoc, List.singleton_append, ofText_append, hl,
        ih]
      rfl

/-! ## Line ends written as backslash and `n` -/

/-- The entries of a text are those on the pieces of its lines. -/
lemma ofInline_eq (t : List Char) :
    ofInline t = ((lines t).flatMap (cutAt '\\' 'n')).filterMap ofLine := by
  rw [ofInline, pieces, List.filterMap_filter]
  congr 1
  funext p
  split
  · rfl
  · next h => rw [ofLine_of_blank (by simpa using h)]

/-- The entries on a line with line ends in it. -/
def ofPieces (l : List Char) : List Entry :=
  (cutAt '\\' 'n' l).filterMap ofLine

lemma ofPieces_append_return (l : List Char) : ofPieces (l ++ ['\r']) = ofPieces l := by
  obtain ⟨ps, p, hl, hr⟩ := cutAt_append_single (a := '\\') (by decide : '\r' ≠ 'n') l
  rw [ofPieces, hr, ofPieces, hl, List.filterMap_append, List.filterMap_append]
  simp only [List.filterMap_cons, ofLine_append_return]

lemma ofInline_eq_flatMap (t : List Char) : ofInline t = (lines t).flatMap ofPieces := by
  rw [ofInline_eq, List.filterMap_flatMap]
  rfl

/-- **The entries of a text that is cut at a line feed** are those of its parts, with line ends
written in either way. -/
theorem ofInline_append (s t : List Char) :
    ofInline (s ++ '\n' :: t) = ofInline s ++ ofInline t := by
  rw [ofInline_eq_flatMap, ofInline_eq_flatMap, ofInline_eq_flatMap]
  exact flatMap_lines_append rfl ofPieces_append_return s t

/-- The pieces of a line are the lines that it becomes, since none of them has a line feed. -/
lemma ofInline_of_not_mem {l : List Char} (hl : '\n' ∉ l) :
    ofInline l = ofText (replacePair '\\' 'n' ['\n'] l) := by
  have hpieces : ∀ p ∈ cutAt '\\' 'n' l, '\n' ∉ p := fun p hp hmem =>
    hl (mem_of_mem_cutAt hp hmem)
  rw [ofInline_eq_flatMap, flatMap_lines_of_not_mem rfl hl, replacePair,
    ofText_intercalate hpieces]
  rfl

/-- **The two ways to write a line end** give the same entries.

**Proof sketch.** Line by line: each line becomes the lines that are its pieces, and a line feed
between two lines stays one. -/
theorem ofInline_eq_ofText (t : List Char) :
    ofInline t = ofText (replacePair '\\' 'n' ['\n'] t) := by
  induction t using induction_lines with
  | last l hl => exact ofInline_of_not_mem hl
  | more l t hl ih =>
    rw [ofInline_append, replacePair_append (by decide), replacePair_cons_of_ne (by decide),
      ofText_append, ofInline_of_not_mem hl, ih]

end ScriptStage.Properties
