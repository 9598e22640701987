import Mathlib.Data.List.Basic
import ScriptStage.Files.Path
import ScriptStage.Proofs.Text.Utf8

/-!
# Names of files

The name of a file is the last component of its path, where empty components and single dots do not
count, so that slashes and dots at the end of a path make no difference, and neither does any
directory in front of it. A path that ends by going up has no name. All of this is about bytes. A
name may be the bytes of a text, and then its suffix begins at the last dot of that text.

## Main definitions

* `ScriptStage.Files.Trail` — what can stand behind the last component of a path.
* `ScriptStage.Files.LastPart`, `FileName` — the last component of a path, and the file name.

## Main results

* `ScriptStage.Files.getLast?_parts_iff`, `fileName?_eq_some_iff` — what is found is the last
  component, and the file name.
* `ScriptStage.Files.text?_eq_some_iff` — the names that are text.
* `ScriptStage.Files.suffix?_append` — the suffix of a name begins at its last dot.
-/

set_option autoImplicit false

namespace ScriptStage.Files

/-! ## Components -/

/-- The components of a path are the bytes between its slashes. -/
lemma split_eq_splitOn (p : List UInt8) : split p = p.splitOn slash := by
  induction p with
  | nil => rfl
  | cons b p ih =>
    rw [split, ih, List.splitOn_cons_eq_if_modifyHead]
    by_cases hb : b = slash
    · rw [if_pos hb, if_pos (by simpa using hb)]
    · rw [if_neg hb, if_neg (by simpa using hb)]
      cases hp : p.splitOn slash with
      | nil => exact absurd hp (List.splitOn_ne_nil _ _)
      | cons part more => rfl

/-- A path that is put together at a slash has the components of its parts. -/
lemma parts_append (s t : List UInt8) : parts ⟨s ++ slash :: t⟩ = parts ⟨s⟩ ++ parts ⟨t⟩ := by
  simp only [parts, split_eq_splitOn, List.splitOn_append_cons_self, List.filter_append]

/-- A path that begins with a slash has the components behind it. -/
lemma parts_slash (t : List UInt8) : parts ⟨slash :: t⟩ = parts ⟨t⟩ :=
  parts_append [] t

/-- A path without slashes is a component, unless it names nothing. -/
lemma parts_of_not_mem {s : List UInt8} (h : slash ∉ s) :
    parts ⟨s⟩ = if isVoid s then [] else [s] := by
  rw [parts, split_eq_splitOn, List.splitOn_eq_singleton h, List.filter_singleton]
  cases isVoid s <;> rfl

/-- A path is taken apart at its slashes from the end on. -/
theorem induction_slashes {motive : List UInt8 → Prop} (last : ∀ s, slash ∉ s → motive s)
    (more : ∀ t s, slash ∉ s → motive t → motive (t ++ slash :: s)) : ∀ p, motive p := by
  intro p
  induction hn : p.length using Nat.strongRecOn generalizing p with
  | ind n ih =>
    by_cases hp : slash ∈ p
    · obtain ⟨s, t, hst, hs⟩ := List.eq_append_cons_of_mem (List.mem_reverse.2 hp)
      have hcut : p = t.reverse ++ slash :: s.reverse := by
        rw [← List.reverse_reverse p, hst]
        simp
      subst hcut
      exact more _ _ (by simpa using hs) (ih _ (by simp [← hn]) _ rfl)
    · exact last p hp

/-! ## The last component -/

/-- **What can stand behind the last component of a path**: any number of slashes, each alone or in
front of a single dot. -/
inductive Trail : List UInt8 → Prop
  | nil : Trail []
  | bare {t : List UInt8} (more : Trail t) : Trail (slash :: t)
  | point {t : List UInt8} (more : Trail t) : Trail (slash :: dot :: t)

lemma Trail.append {s t : List UInt8} (hs : Trail s) (ht : Trail t) : Trail (s ++ t) := by
  induction hs with
  | nil => exact ht
  | bare _ ih => exact .bare ih
  | point _ ih => exact .point ih

/-- A trail has no components, also behind a dot. -/
lemma Trail.parts_eq_nil {t : List UInt8} (h : Trail t) :
    parts ⟨t⟩ = [] ∧ parts ⟨dot :: t⟩ = [] := by
  induction h with
  | nil => decide
  | @bare t _ ih =>
    have hdot : parts ⟨dot :: slash :: t⟩ = parts ⟨[dot]⟩ ++ parts ⟨t⟩ := Files.parts_append [dot] t
    exact ⟨(parts_slash _).trans ih.1, hdot.trans ih.1⟩
  | @point t _ ih =>
    have hdot : parts ⟨dot :: slash :: dot :: t⟩ = parts ⟨[dot]⟩ ++ parts ⟨dot :: t⟩ :=
      Files.parts_append [dot] (dot :: t)
    exact ⟨(parts_slash _).trans ih.2, hdot.trans ih.2⟩

/-- A trail makes no difference. -/
lemma Trail.parts_append {t : List UInt8} (h : Trail t) (s : List UInt8) :
    parts ⟨s ++ t⟩ = parts ⟨s⟩ := by
  cases h with
  | nil => rw [List.append_nil]
  | bare more => rw [Files.parts_append, more.parts_eq_nil.1, List.append_nil]
  | point more => rw [Files.parts_append, more.parts_eq_nil.2, List.append_nil]

/-- **The last component of a path**, which is neither empty nor a single dot: a slash stands in
front of it unless it begins the path, and nothing but a trail behind it. -/
def LastPart (path : Path) (part : List UInt8) : Prop :=
  ∃ front trail, path.bytes = front ++ part ++ trail ∧
    (front = [] ∨ front.getLast? = some slash) ∧ slash ∉ part ∧ part ≠ [] ∧ part ≠ [dot] ∧
    Trail trail

/-- **The file name of a path**: its last component, unless that goes up. -/
def FileName (path : Path) (name : List UInt8) : Prop :=
  LastPart path name ∧ name ≠ [dot, dot]

lemma isVoid_iff {s : List UInt8} : isVoid s = true ↔ s = [] ∨ s = [dot] := by
  simp [isVoid]

/-- A path without slashes is its own last component, if it names something. -/
lemma lastPart_of_not_mem {s : List UInt8} (hs : slash ∉ s) (hvoid : isVoid s ≠ true) :
    LastPart ⟨s⟩ s := by
  rw [Ne, isVoid_iff, not_or] at hvoid
  exact ⟨[], [], (List.append_nil s).symm, .inl rfl, hs, hvoid.1, hvoid.2, .nil⟩

/-- What stands behind the last slash is the last component, if it names something. -/
lemma lastPart_append {s : List UInt8} (hs : slash ∉ s) (hvoid : isVoid s ≠ true)
    (t : List UInt8) : LastPart ⟨t ++ slash :: s⟩ s := by
  rw [Ne, isVoid_iff, not_or] at hvoid
  exact ⟨t ++ [slash], [], by simp, .inr List.getLast?_concat, hs, hvoid.1, hvoid.2, .nil⟩

/-- The last component stays the last one if what is put behind a slash names nothing. -/
lemma LastPart.append {t s part : List UInt8} (h : LastPart ⟨t⟩ part) (hvoid : isVoid s = true) :
    LastPart ⟨t ++ slash :: s⟩ part := by
  obtain ⟨front, trail, hpath, hfront, hslash, hne, hdot, htrail⟩ := h
  have hs : Trail (slash :: s) := by
    rcases isVoid_iff.1 hvoid with rfl | rfl
    · exact .bare .nil
    · exact .point .nil
  have hpath' : t ++ slash :: s = front ++ part ++ (trail ++ slash :: s) := by
    rw [show t = front ++ part ++ trail from hpath, List.append_assoc]
  exact ⟨front, _, hpath', hfront, hslash, hne, hdot, htrail.append hs⟩

/-- **The last component is the one that is found.** -/
theorem getLast?_parts_iff {path : Path} {part : List UInt8} :
    (parts path).getLast? = some part ↔ LastPart path part := by
  obtain ⟨path⟩ := path
  constructor
  · intro h
    induction path using induction_slashes with
    | last s hs =>
      rw [parts_of_not_mem hs] at h
      split at h
      · exact nomatch h
      · next hvoid =>
        obtain rfl := Option.some.inj h
        exact lastPart_of_not_mem hs hvoid
    | more t s hs ih =>
      rw [parts_append, parts_of_not_mem hs] at h
      split at h
      · next hvoid =>
        rw [List.append_nil] at h
        exact (ih h).append hvoid
      · next hvoid =>
        rw [List.getLast?_concat] at h
        obtain rfl := Option.some.inj h
        exact lastPart_append hs hvoid t
  · rintro ⟨front, trail, hpath, hfront, hslash, hne, hdot, htrail⟩
    obtain rfl : path = front ++ part ++ trail := hpath
    have hvoid : isVoid part = false := by
      rw [← Bool.not_eq_true, isVoid_iff, not_or]
      exact ⟨hne, hdot⟩
    rw [htrail.parts_append]
    rcases hfront with rfl | hfront
    · rw [List.nil_append, parts_of_not_mem hslash, hvoid]
      rfl
    · obtain ⟨t, rfl⟩ := List.getLast?_eq_some_iff.1 hfront
      rw [List.append_assoc, List.singleton_append, parts_append, parts_of_not_mem hslash, hvoid]
      simp

/-- **The file name is the one that is found.** -/
theorem fileName?_eq_some_iff {path : Path} {name : List UInt8} :
    fileName? path = some name ↔ FileName path name := by
  rw [FileName, ← getLast?_parts_iff, fileName?]
  cases (parts path).getLast? with
  | none => simp
  | some part =>
    by_cases hpart : part = [dot, dot]
    · have hparent : isParent part = true := decide_eq_true hpart
      simp only [hparent, if_true, Option.some.injEq]
      exact iff_of_false nofun fun h => h.2 (h.1 ▸ hpart)
    · have hparent : isParent part = false := decide_eq_false hpart
      simp only [hparent, Bool.false_eq_true, if_false, Option.some.injEq]
      exact ⟨fun h => ⟨h, h ▸ hpart⟩, And.left⟩

lemma LastPart.unique {path : Path} {part part' : List UInt8} (h : LastPart path part)
    (h' : LastPart path part') : part = part' := by
  rw [← getLast?_parts_iff] at h h'
  exact Option.some.inj (h.symm.trans h')

/-- A path has its file name behind any directory. -/
lemma FileName.behind {p : Path} {name : List UInt8} (h : FileName p name) (d : Path) :
    FileName ⟨d.bytes ++ slash :: p.bytes⟩ name := by
  obtain ⟨hlast, hname⟩ := h
  rw [← getLast?_parts_iff] at hlast
  refine ⟨getLast?_parts_iff.1 ?_, hname⟩
  rw [parts_append, List.getLast?_append, hlast, Option.some_or]

/-- A path has its file name in front of any trail. -/
lemma FileName.trail {p : Path} {name trail : List UInt8} (h : FileName p name)
    (htrail : Trail trail) : FileName ⟨p.bytes ++ trail⟩ name := by
  obtain ⟨hlast, hname⟩ := h
  rw [← getLast?_parts_iff] at hlast
  refine ⟨getLast?_parts_iff.1 ?_, hname⟩
  rw [htrail.parts_append, hlast]

/-- The file name is a component that is neither empty nor one or two dots. -/
lemma FileName.mem_splitOn {path : Path} {name : List UInt8} (h : FileName path name) :
    name ∈ path.bytes.splitOn slash ∧ name ∉ [[], [dot], [dot, dot]] := by
  obtain ⟨hlast, hname⟩ := h
  have hmem := List.mem_of_getLast? (getLast?_parts_iff.2 hlast)
  obtain ⟨front, trail, -, -, -, hne, hdot, -⟩ := hlast
  rw [parts, split_eq_splitOn] at hmem
  exact ⟨(List.mem_filter.1 hmem).1, by simp [hne, hdot, hname]⟩

/-! ## Names that are text -/

/-- **A name has the text whose bytes it is.** -/
theorem text?_eq_some_iff {name : List UInt8} {t : List Char} :
    text? name = some t ↔ name = Text.encode t := by
  constructor
  · intro h
    obtain ⟨s, hs, rfl⟩ := Option.map_eq_some_iff.1 h
    rw [String.fromUTF8?] at hs
    split at hs
    · next hvalid =>
      obtain rfl := Option.some.inj hs
      have hbytes : (String.fromUTF8 name.toByteArray hvalid).toList.utf8Encode =
          name.toByteArray := String.utf8Encode_toList
      have hlists := congrArg (·.data.toList) hbytes
      simp only [List.utf8Encode, List.toList_data_toByteArray] at hlists
      exact hlists.symm
    · exact nomatch hs
  · rintro rfl
    have hvalid : (Text.encode t).toByteArray.IsValidUTF8 := ByteArray.isValidUTF8_utf8Encode
    have hstring : String.fromUTF8 (Text.encode t).toByteArray hvalid = String.ofList t := rfl
    rw [text?, String.fromUTF8?, dif_pos hvalid, hstring, Option.map_some, String.toList_ofList]

/-! ## Suffixes -/

/-- A name without dots has no suffix. -/
lemma suffix?_of_not_mem {name : List Char} (h : '.' ∉ name) : suffix? name = none := by
  induction name with
  | nil => rfl
  | cons c name ih =>
    rw [List.mem_cons, not_or] at h
    simp only [suffix?, ih h.2]
    exact if_neg (Ne.symm h.1)

/-- **The suffix of a name begins at its last dot.** -/
theorem suffix?_append {t : List Char} (h : '.' ∉ t) (stem : List Char) :
    suffix? (stem ++ '.' :: t) = some ('.' :: t) := by
  induction stem with
  | nil => simp [suffix?, suffix?_of_not_mem h]
  | cons c stem ih => simp [suffix?, ih]

end ScriptStage.Files
