import ScriptStage.Text.Blank
import ScriptStage.Text.Lines

/-!
# Lines of a properties text

A properties text gives names to texts, one on each line: a key, a separator `=` or `:`, and a
value that is taken as it stands. Blank lines, comments and lines without a separator or key give
nothing. A backslash before a separator makes it part of the key.

## Main definitions

* `ScriptStage.Properties.Entry`: a key with its value.
* `ScriptStage.Properties.splitAtSeparator`: a text cut at its first separator.
* `ScriptStage.Properties.ofLine`: the entry on a line.
* `ScriptStage.Properties.ofText`: the entries of a text.

## Main results

* `ScriptStage.Properties.splitAtSeparator_append`: the two parts and the separator between them
  are the text.
-/

set_option autoImplicit false

namespace ScriptStage.Properties

open Text

/-- A key with its value as written. -/
structure Entry where
  /-- The key. -/
  key : List Char
  /-- The value as written. -/
  value : List Char
  deriving DecidableEq, Repr

/-- The characters that divide a key from its value. -/
def isSeparator (c : Char) : Bool :=
  c = '=' || c = ':'

/-- A text cut at its first separator that no backslash escapes. The flag says that the character
before the text is a backslash that escapes the next one. -/
def splitAtSeparator (escaped : Bool) : List Char → Option (List Char × List Char)
  | [] => none
  | c :: rest =>
    if !escaped && isSeparator c then some ([], rest)
    else (splitAtSeparator (!escaped && c = '\\') rest).map fun r => (c :: r.1, r.2)

/-- The two parts and the separator between them are the text. -/
theorem splitAtSeparator_append {escaped : Bool} {t k v : List Char}
    (h : splitAtSeparator escaped t = some (k, v)) :
    ∃ c, isSeparator c = true ∧ t = k ++ c :: v := by
  induction t generalizing escaped k with
  | nil => exact nomatch h
  | cons c rest ih =>
    unfold splitAtSeparator at h
    split at h
    · next hc =>
      obtain ⟨rfl, rfl⟩ := Prod.mk.inj (Option.some.inj h)
      exact ⟨c, (Bool.and_eq_true_iff.1 hc).2, rfl⟩
    · obtain ⟨⟨k', v'⟩, hr, he⟩ := Option.map_eq_some_iff.1 h
      obtain ⟨rfl, rfl⟩ := Prod.mk.inj he
      obtain ⟨d, hd, rfl⟩ := ih hr
      exact ⟨d, hd, rfl⟩

/-- A line that is only a remark: its first character is `#` or `!`. -/
def isComment (l : List Char) : Bool :=
  match l with
  | [] => false
  | c :: _ => c = '#' || c = '!'

/-- The value behind a separator: without the blanks in front and the carriage returns at the
end. -/
def valueOf (t : List Char) : List Char :=
  dropEndWhile (· = '\r') (trimStart t)

/-- The entry on a line, if there is one. -/
def ofLine (line : List Char) : Option Entry :=
  let l := trimStart line
  if isComment l then none
  else
    match splitAtSeparator false l with
    | none => none
    | some (k, v) => if (trim k).isEmpty then none else some ⟨trim k, valueOf v⟩

/-- The entries of a text in order. -/
def ofText (t : List Char) : List Entry :=
  (lines t).filterMap ofLine

end ScriptStage.Properties
