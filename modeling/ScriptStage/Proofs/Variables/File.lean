import ScriptStage.Proofs.Variables.Inline

/-!
# Variables in a file

Variables can be defined in a file or inline. A file can hold every value: each line gives a value
to a name, with the backslashes of the value doubled and its control characters as escapes, lines
end in either way, and remarks can stand between them. A text that is given inline defines the same
variables as a file in which each backslash followed by `n` is a line feed.

## Main definitions

* `ScriptStage.Files.Storage.Holds` — a file holds a text.
* `ScriptStage.Variables.writeIndented` — a value as it is written.
* `ScriptStage.Variables.Row` — a line of a file: a value with its name, or a remark.
* `ScriptStage.Variables.fileText` — the text of such lines.
* `ScriptStage.Variables.listed` — the values on such lines.

## Main results

* `ScriptStage.Variables.load_fileText` — the bindings of a file in which values are written.
* `ScriptStage.Variables.load_breakLines` — the bindings of a text inline and in a file.
-/

set_option autoImplicit false

namespace ScriptStage

/-! ## Files -/

namespace Files.Storage

/-- **A file holds a text**: its bytes are those of the text in UTF-8. -/
def Holds (fs : Storage) (path text : String) : Prop :=
  fs.lookup path = .ok (.file text.toUTF8)

/-- The text of a file is read. -/
lemma Holds.readText {fs : Storage} {path text : String} (h : fs.Holds path text) :
    fs.readText path = .ok text := by
  have hbytes : String.fromUTF8? text.toUTF8 = some text := dif_pos text.isValidUTF8
  rw [Storage.readText, h]
  simp only [hbytes]

end Files.Storage

namespace Variables

open Properties Files

lemma load_file {fs : Storage} {path text : String} (held : fs.Holds path text) :
    load fs none (some path) = .ok (define .empty (ofText text.toList)) := by
  rw [load, fileEntries, held.readText]
  rfl

/-! ## Values with blanks at the start -/

/-- The line feed by its letter. -/
lemma isLineFeed_letter : IsLineFeed ['\\', 'n'] where
  spells := .escape (d := 'n') (by decide)
  clean := by simp

/-- **A value as it is written.** Backslashes are doubled, the control characters that have a letter
are escapes, and the blanks among the first characters get a backslash. At least the first character
counts as one of them; the number of the others is free, so that there can be a backslash in front
of each blank at the start of the value, or of just the first. -/
def writeIndented (more : Nat) (v : List Char) : List Char :=
  (v.take (more + 1)).flatMap (writeFirst ['\\', 'n']) ++
    (v.drop (more + 1)).flatMap (writeChar ['\\', 'n'])

/-- A written value stands for that value. -/
lemma unescape_writeIndented (more : Nat) (v : List Char) :
    unescape (writeIndented more v) = v := by
  have hdrop := unescape_flatMap
    (fun c => (writes_writeChar _ c).spells isLineFeed_letter.spells) (v.drop (more + 1)) []
  rw [List.append_nil, unescape, List.append_nil] at hdrop
  rw [writeIndented, unescape_flatMap
    (fun c => (writes_writeFirst _ c).spells isLineFeed_letter.spells), hdrop,
    List.take_append_drop]

/-- No line end is written. -/
lemma writeIndented_mem (more : Nat) (v : List Char) :
    ∀ d ∈ writeIndented more v, d ≠ '\r' ∧ d ≠ '\n' := by
  intro d hd
  rcases List.mem_append.1 hd with hd | hd
  · obtain ⟨c, -, hd⟩ := List.mem_flatMap.1 hd
    exact (writes_writeFirst _ c).mem isLineFeed_letter.clean d hd
  · obtain ⟨c, -, hd⟩ := List.mem_flatMap.1 hd
    exact (writes_writeChar _ c).mem isLineFeed_letter.clean d hd

/-- There is no blank at the start of a written value. -/
lemma writeIndented_head (more : Nat) (v : List Char) :
    ∀ d, (writeIndented more v).head? = some d → Text.isBlank d = false := by
  intro d hd
  cases v with
  | nil => exact nomatch hd
  | cons c v =>
    obtain ⟨e, t, he, hblank⟩ := writeFirst_head isLineFeed_letter c
    rw [writeIndented, List.take_succ_cons, List.flatMap_cons, he] at hd
    rwa [← Option.some.inj hd]

/-! ## Lines of a file -/

/-- **A line of a file of variables**. -/
inductive Row where
  /-- The line gives a value to a name. So many characters of the value count as its first ones,
  besides the very first. -/
  | value (name value : String) (more : Nat)
  /-- The line is a comment or blank. -/
  | remark (text : String)

/-- **A comment or a blank line**: the first character that is not blank, if there is one, is one of
the two that begin a comment. -/
def IsRemark (t : List Char) : Prop :=
  '\n' ∉ t ∧ ∀ c, (Text.trimStart t).head? = some c → c = '#' ∨ c = '!'

namespace Row

/-- The characters of a line. -/
def text : Row → List Char
  | value n v more => n.toList ++ '=' :: writeIndented more v.toList
  | remark t => t.toList

/-- **A line that can be written**: the name is one, or the remark is one. -/
def Fits : Row → Prop
  | value n _ _ => IsName n.toList
  | remark t => IsRemark t.toList

/-- The value on a line with its name. -/
def value? : Row → Option (String × String)
  | value n v _ => some (n, v)
  | remark _ => none

/-- There is no line feed on a line. -/
lemma text_mem {r : Row} (h : r.Fits) : '\n' ∉ r.text := by
  cases r with
  | value n v more => exact fun hmem => (h.clean (writeIndented_mem more v.toList) _ hmem).2 rfl
  | remark t => exact h.1

/-- A remark gives no entry. -/
lemma ofLine_remark {t : List Char} (h : IsRemark t) : ofLine t = none := by
  simp only [ofLine]
  cases hs : Text.trimStart t with
  | nil => rfl
  | cons c s =>
    have hc : isComment (c :: s) = true := by
      simpa [isComment] using h.2 c (by rw [hs]; rfl)
    rw [hc, if_pos rfl]

/-- **The entry of a line** is that of the value on it. -/
lemma ofLine_text {r : Row} (h : r.Fits) : (ofLine r.text).map pairOf = r.value? := by
  cases r with
  | value n v more =>
    have hline : ofLine (n.toList ++ '=' :: writeIndented more v.toList) =
        some ⟨n.toList, writeIndented more v.toList⟩ := by
      refine IsName.ofLine h (writeIndented_head more _) fun hr => ?_
      exact (writeIndented_mem more _ _ (List.mem_of_getLast? hr)).1 rfl
    rw [text, hline, Option.map_some, pairOf, unescape_writeIndented, String.ofList_toList,
      String.ofList_toList]
    rfl
  | remark t =>
    rw [text, ofLine_remark h]
    rfl

end Row

/-! ## Files of lines -/

/-- **The text of a file**: lines with their ends, and a last line without one, which is empty if
all the other lines are to have an end. -/
def fileText (rows : List (Row × LineEnd)) (last : Row) : String :=
  String.ofList ((rows.flatMap fun r => r.1.text ++ r.2.text) ++ last.text)

/-- **The values on the lines of a file** with their names. -/
def listed (rows : List (Row × LineEnd)) (last : Row) : List (String × String) :=
  (rows.map Prod.fst ++ [last]).filterMap Row.value?

/-- The entries of a file are those of the values in it. -/
lemma ofText_fileText {rows : List (Row × LineEnd)} {last : Row} (fits : ∀ r ∈ rows, r.1.Fits)
    (fitsLast : last.Fits) :
    (ofText (fileText rows last).toList).map pairOf = listed rows last := by
  rw [fileText, String.toList_ofList, listed]
  induction rows with
  | nil =>
    rw [List.flatMap_nil, List.nil_append, ofText_of_not_mem (Row.text_mem fitsLast),
      ← Option.toList_map, Row.ofLine_text fitsLast]
    cases last <;> rfl
  | cons r rows ih =>
    obtain ⟨hr, hrows⟩ := List.forall_mem_cons.1 fits
    rw [List.flatMap_cons, List.append_assoc, List.append_assoc, ofText_line _ (Row.text_mem hr),
      List.map_append, ← Option.toList_map, Row.ofLine_text hr, ih hrows]
    obtain ⟨row, e⟩ := r
    cases row <;> rfl

/-- **A file can hold every value.** Take a file that gives values to names, on lines that end with
a line feed or with a carriage return and a line feed, and with any remarks between them. It is read
without a failure. The names that are bound are those that are listed, each to what is inferred from
the value that is listed last for it. -/
theorem load_fileText (fs : Storage) (path : String) (rows : List (Row × LineEnd)) (last : Row)
    (fits : ∀ r ∈ rows, r.1.Fits) (fitsLast : last.Fits)
    (held : fs.Holds path (fileText rows last)) :
    ∃ b, load fs none (some path) = .ok b ∧
      ∀ name, b.get? name = (lastValue? (listed rows last) name).map fun v => infer v.toList := by
  refine ⟨_, load_file held, fun name => ?_⟩
  rw [get?_define_pairs, ofText_fileText fits fitsLast]

/-- A file with a comment, a blank line, both line ends and values that need escapes. -/
theorem load_fileText_escaped :
    let text := " # paths\r\npath=C:\\\\new \n\t\na b=\\ \\ 1=\\t2\\n#\r\n"
    let fs : Storage := System.empty.insert "v" (.file text.toUTF8)
    fileText
        [(.remark " # paths", .returnLineFeed), (.value "path" "C:\\new " 0, .lineFeed),
          (.remark "\t", .lineFeed), (.value "a b" "  1=\t2\n#" 1, .returnLineFeed)]
        (.remark "") = text ∧
    ∃ b, load fs none (some "v") = .ok b ∧
      b.get? "path" = some (.str "C:\\new ") ∧ b.get? "a b" = some (.str "  1=\t2\n#") ∧
      b.get? "# paths" = none := by
  intro text fs
  have htext : fileText
      [(.remark " # paths", .returnLineFeed), (.value "path" "C:\\new " 0, .lineFeed),
        (.remark "\t", .lineFeed), (.value "a b" "  1=\t2\n#" 1, .returnLineFeed)]
      (.remark "") = text := by
    decide +kernel
  have fits : ∀ r ∈ [(Row.remark " # paths", LineEnd.returnLineFeed),
      (.value "path" "C:\\new " 0, .lineFeed), (.remark "\t", .lineFeed),
      (.value "a b" "  1=\t2\n#" 1, .returnLineFeed)], r.1.Fits := by
    simp only [List.forall_mem_cons]
    refine ⟨⟨by decide, ?_⟩, (by decide +kernel : IsName "path".toList), ⟨by decide, ?_⟩,
      (by decide +kernel : IsName "a b".toList), List.forall_mem_nil _⟩
    · exact fun c h => .inl (Option.some.inj h).symm
    · rintro c ⟨⟩
  obtain ⟨b, hb, hget⟩ := load_fileText fs "v" _ (.remark "") fits ⟨by decide, by rintro c ⟨⟩⟩
    (by rw [htext]; rfl)
  have hpath : infer "C:\\new ".toList = .str "C:\\new " := by
    rw [infer_of_backslash (by decide +kernel), String.ofList_toList]
  have hvalue : infer "  1=\t2\n#".toList = .str "  1=\t2\n#" := by
    rw [infer_of_mem (c := ' ') (by decide) (by decide) (by decide) (by decide) (by decide +kernel),
      String.ofList_toList]
  exact ⟨htext, b, hb, (hget "path").trans (congrArg some hpath),
    (hget "a b").trans (congrArg some hvalue), (hget "# paths").trans rfl⟩

/-! ## Inline texts -/

/-- The text with a line feed for each backslash followed by `n`. -/
def breakLines (text : String) : String :=
  Text.onChars (Text.replacePair '\\' 'n' ['\n']) text

/-- **A text defines the same variables inline and in a file** in which each backslash followed by
`n` is a line feed, and so in a file that holds the text itself if there is no such pair in it. Both
are read without a failure. -/
theorem load_breakLines (fs : Storage) (path text : String) :
    ∃ b, load fs (some text) none = .ok b ∧
      (fs.Holds path (breakLines text) → load fs none (some path) = .ok b) ∧
      (¬ HasBreak text.toList → fs.Holds path text → load fs none (some path) = .ok b) := by
  have hbreak : fs.Holds path (breakLines text) →
      load fs none (some path) = .ok (define .empty (ofInline text.toList)) := by
    intro held
    rw [load_file held, ofInline_eq_ofText, breakLines, Text.onChars, String.toList_ofList]
  refine ⟨_, load_inline fs text, hbreak, fun whole held => hbreak ?_⟩
  have htext : breakLines text = text := by
    rw [breakLines, Text.onChars, Text.replacePair, Text.cutAt_of_not_infix whole,
      List.intercalate_singleton, String.ofList_toList]
  rwa [htext]

/-- A text with a comment that ends in a carriage return, inline and in a file, and the text of that
file inline. -/
theorem load_breakLines_comment :
    let fs : Storage := System.empty.insert "v" (.file "a=x\n# no\r\nb=y z".toUTF8)
    breakLines "a=x\\n# no\r\\nb=y z" = "a=x\n# no\r\nb=y z" ∧
    ∃ b, load fs (some "a=x\\n# no\r\\nb=y z") none = .ok b ∧
      load fs (some "a=x\n# no\r\nb=y z") none = .ok b ∧ load fs none (some "v") = .ok b ∧
      b.get? "b" = some (.str "y z") := by
  intro fs
  have hbreak : breakLines "a=x\\n# no\r\\nb=y z" = "a=x\n# no\r\nb=y z" := by decide +kernel
  have held : fs.Holds "v" "a=x\n# no\r\nb=y z" := rfl
  obtain ⟨b, hinline, hfile, -⟩ := load_breakLines fs "v" "a=x\\n# no\r\\nb=y z"
  obtain ⟨b', hbroken, -, hsame⟩ := load_breakLines fs "v" "a=x\n# no\r\nb=y z"
  have hfile := hfile (hbreak ▸ held)
  have hsame := hsame (by decide +kernel) held
  have hb : b' = b := Except.ok.inj (hsame.symm.trans hfile)
  refine ⟨hbreak, b, hinline, hb ▸ hbroken, hfile, ?_⟩
  have hentries : (ofInline "a=x\\n# no\r\\nb=y z".toList).map pairOf =
      [("a", "x"), ("b", "y z")] := by
    have hofInline : ofInline "a=x\\n# no\r\\nb=y z".toList =
        [⟨['a'], ['x']⟩, ⟨['b'], "y z".toList⟩] := by
      decide +kernel
    rw [hofInline]
    simp [pairOf, unescape_plain, unescape]
  have hvalue : infer "y z".toList = .str "y z" := by
    rw [infer_of_mem (c := ' ') (by decide) (by decide) (by decide) (by decide) (by decide +kernel),
      String.ofList_toList]
  rw [← Except.ok.inj ((load_inline fs _).symm.trans hinline), get?_define_pairs, hentries]
  exact congrArg some hvalue

end Variables

end ScriptStage
