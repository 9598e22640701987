import ScriptStage.Config.Properties
import ScriptStage.Config.Violation
import ScriptStage.Proofs.Properties.Numbered
import ScriptStage.Proofs.Source.Written
import ScriptStage.Proofs.Variables.Inline

/-!
# Configurations in three lines

A configuration with an inline script and inline variables fits in three lines of a properties text,
however many lines the script has and however many variables there are. Several passes look at the
same text one after another: it is cut into lines, each line at its separator, the script is taken
out of its quotes, the variables are cut into entries and their escapes are read. This file shows
that each pass leaves what the next ones need, so that all that was written comes back.

## Main definitions

* `ScriptStage.Config.Layout` — what the format leaves open.
* `ScriptStage.Config.singleLine` — the three lines of a configuration.

## Main results

* `ScriptStage.Config.ofInline_variableEntries` — the entries of the variables.
* `ScriptStage.Config.ofProperties_singleLine` — the configuration in the three lines.
* `ScriptStage.Config.load_singleLine` — what this configuration stands for.
-/

set_option autoImplicit false

namespace ScriptStage.Config

open Properties

/-! ## Variables on one line -/

/-- The value of the line with the variables: their entries with backslash and `n` between them. -/
def variableEntries (upper : Bool) (ps : List (String × String)) : List Char :=
  ['\\', 'n'].intercalate (ps.map fun p => writeNumberedLine upper p.1.toList p.2.toList)

variable {ps : List (String × String)} {language script : String}

/-- There is no line end among the entries. -/
lemma variableEntries_mem (upper : Bool) (names : ∀ p ∈ ps, IsName p.1.toList) :
    ∀ c ∈ variableEntries upper ps, c ≠ '\r' ∧ c ≠ '\n' := by
  refine Text.forall_mem_intercalate (by simp) fun t ht => ?_
  obtain ⟨p, hp, rfl⟩ := List.mem_map.1 ht
  exact writeNumberedLine_mem upper (names p hp) p.2.toList

/-- The entries start with the first name, so not with a blank. -/
lemma variableEntries_head (upper : Bool) (names : ∀ p ∈ ps, IsName p.1.toList) {c : Char}
    (hc : (variableEntries upper ps).head? = some c) : Text.isBlank c = false := by
  cases ps with
  | nil => exact nomatch hc
  | cons p ps =>
    have hn := names p List.mem_cons_self
    obtain ⟨d, n, hname⟩ := List.exists_cons_of_ne_nil hn.ne_nil
    have hd : Text.isBlank d = false := Text.head_of_trim hn.trimmed (by rw [hname]; rfl)
    obtain rfl : d = c := by
      rw [variableEntries, List.map_cons, writeNumberedLine, hname] at hc
      cases ps with
      | nil => simpa using hc
      | cons q ps => simpa [List.intercalate_cons_cons] using hc
    exact hd

/-- **The entries come back.** The cuts are those between the entries, since no entry holds a
backslash followed by `n`. -/
theorem ofInline_variableEntries (upper : Bool) (names : ∀ p ∈ ps, IsName p.1.toList) :
    ofInline (variableEntries upper ps) =
      ps.map fun p => ⟨p.1.toList, writeNumbered upper p.2.toList⟩ := by
  cases ps with
  | nil => rfl
  | cons p ps =>
    have hclean := variableEntries_mem upper names
    have hline : Text.lines (variableEntries upper (p :: ps)) =
        [variableEntries upper (p :: ps)] := by
      refine Text.lines_of_not_mem (fun he => ?_) fun h => (hclean _ h).2 rfl
      have hlen := congrArg List.length he
      cases ps <;> simp [variableEntries, writeNumberedLine, List.intercalate_cons_cons] at hlen
    have hcut : Text.cutAt '\\' 'n' (variableEntries upper (p :: ps)) =
        (p :: ps).map fun p => writeNumberedLine upper p.1.toList p.2.toList := by
      refine Text.cutAt_intercalate (by decide) (List.cons_ne_nil _ _) fun t ht => ?_
      obtain ⟨q, hq, rfl⟩ := List.mem_map.1 ht
      exact not_hasBreak_writeNumberedLine upper (names q hq) q.2.toList
    rw [ofInline_eq, hline, List.flatMap_singleton, hcut, List.filterMap_map,
      ← List.filterMap_eq_map]
    refine List.filterMap_congr fun q hq => ?_
    exact ofLine_writeNumberedLine upper (names q hq) q.2.toList

/-- The value of a name is what is inferred from the value listed last for it. -/
lemma get?_variableEntries (upper : Bool) (names : ∀ p ∈ ps, IsName p.1.toList) (name : String) :
    (Variables.define .empty (ofInline (variableEntries upper ps))).get? name =
      (Variables.lastValue? ps name).map fun v => infer v.toList := by
  rw [ofInline_variableEntries upper names]
  exact Variables.get?_define_listed (unescape_writeNumbered upper) ps name

/-! ## The three lines -/

/-- **What the format leaves open.** -/
structure Layout where
  /-- Whether the letters of numbers are in upper case. -/
  upperDigits : Bool
  /-- Whether the last line has an end as well. -/
  finalLineFeed : Bool

/-- The line that gives a value to a key. -/
def line (key : String) (value : List Char) : List Char :=
  key.toList ++ '=' :: value

/-- The three lines of a configuration. -/
def singleLine (layout : Layout) (language script : String) (ps : List (String × String)) :
    String :=
  String.ofList
    (line "language" language.toList ++ '\n' ::
      (line "script" (Source.writeScript script.toList) ++ '\n' ::
        (line "variables" (variableEntries layout.upperDigits ps) ++
          if layout.finalLineFeed then ['\n'] else [])))

/-- The last line of a text is the same with an end and without. -/
lemma lines_last {l : List Char} (hne : l ≠ []) (hl : ∀ c ∈ l, c ≠ '\r' ∧ c ≠ '\n')
    (ended : Bool) : Text.lines (l ++ if ended then ['\n'] else []) = [l] := by
  have hmem : '\n' ∉ l := fun h => (hl _ h).2 rfl
  have hlast : l.getLast? ≠ some '\r' := fun h => (hl _ (List.mem_of_getLast? h)).1 rfl
  cases ended with
  | false => simpa using Text.lines_of_not_mem hne hmem
  | true => exact Text.lines_append [] hmem hlast

/-- The three lines come apart again. Only a carriage return at the end of the language is lost. -/
lemma lines_singleLine (layout : Layout) (script : String) (hlanguage : '\n' ∉ language.toList)
    (names : ∀ p ∈ ps, IsName p.1.toList) :
    ∃ l, (language.toList = l ∨ language.toList = l ++ ['\r']) ∧
      Text.lines (singleLine layout language script ps).toList =
        [line "language" l, line "script" (Source.writeScript script.toList),
          line "variables" (variableEntries layout.upperDigits ps)] := by
  have hscript : '\n' ∉ line "script" (Source.writeScript script.toList) := by
    simpa [line] using Source.writeScript_mem script.toList
  have hquote : (line "script" (Source.writeScript script.toList)).getLast? ≠ some '\r' := by
    simp [line, Source.writeScript, List.getLast?_append, List.getLast?_cons]
  have hvariables : ∀ c ∈ line "variables" (variableEntries layout.upperDigits ps),
      c ≠ '\r' ∧ c ≠ '\n' :=
    IsName.clean (by decide +kernel) (variableEntries_mem layout.upperDigits names)
  obtain ⟨l, hl, hend⟩ := Text.lines_append_cases (k := "language".toList ++ ['='])
    (l := language.toList)
    (line "script" (Source.writeScript script.toList) ++ '\n' ::
      (line "variables" (variableEntries layout.upperDigits ps) ++
        if layout.finalLineFeed then ['\n'] else []))
    (by simpa using hlanguage) (by decide)
  rw [Text.lines_append _ hscript hquote, lines_last (by simp [line]) hvariables,
    List.append_assoc] at hl
  refine ⟨l, hend, ?_⟩
  rw [singleLine, String.toList_ofList]
  simpa [line] using hl

/-- **The entries of the three lines.** Of the language only the blanks at its ends can change. -/
lemma ofText_singleLine (layout : Layout) (script : String) (hlanguage : '\n' ∉ language.toList)
    (names : ∀ p ∈ ps, IsName p.1.toList) :
    ∃ l, Text.trim l = Text.trim language.toList ∧
      ofText (singleLine layout language script ps).toList =
        [⟨"language".toList, l⟩, ⟨"script".toList, Source.writeScript script.toList⟩,
          ⟨"variables".toList, variableEntries layout.upperDigits ps⟩] := by
  obtain ⟨l, hend, hlines⟩ := lines_singleLine layout script hlanguage names
  have htrim : Text.trim (valueOf l) = Text.trim language.toList := by
    have hreturn : ∀ c, decide (c = '\r') = true → Text.isBlank c = true := by
      intro c hc
      obtain rfl := of_decide_eq_true hc
      decide
    rw [valueOf, Text.trim_dropEndWhile hreturn]
    rcases hend with h | h
    · rw [h]
    · rw [h, Text.trim_append_blank (by decide)]
  have hscript : valueOf (Source.writeScript script.toList) = Source.writeScript script.toList := by
    refine valueOf_eq (fun c hc => ?_) ?_
    · obtain rfl : '"' = c := Option.some.inj hc
      decide
    · simp [Source.writeScript, List.getLast?_append, List.getLast?_cons]
  have hvariables : valueOf (variableEntries layout.upperDigits ps) =
      variableEntries layout.upperDigits ps :=
    valueOf_eq (fun c => variableEntries_head layout.upperDigits names) fun h =>
      (variableEntries_mem layout.upperDigits names _ (List.mem_of_getLast? h)).1 rfl
  refine ⟨valueOf l, htrim, ?_⟩
  rw [ofText, hlines]
  simp only [line, List.filterMap_cons, List.filterMap_nil]
  rw [IsName.ofLine_append (by decide +kernel), IsName.ofLine_append (by decide +kernel),
    IsName.ofLine_append (by decide +kernel), hscript, hvariables]

/-- **The configuration in the three lines**: nothing but language, script and variables. -/
theorem ofProperties_singleLine (layout : Layout) (script : String)
    (hlanguage : '\n' ∉ language.toList) (names : ∀ p ∈ ps, IsName p.1.toList) :
    ∃ l, Text.trim l = Text.trim language.toList ∧
      ofProperties (singleLine layout language script ps) =
        ({ language := some (String.ofList l)
           script := some (String.ofList (Source.writeScript script.toList))
           variablesText := some (String.ofList (variableEntries layout.upperDigits ps)) },
          []) := by
  obtain ⟨l, htrim, hentries⟩ := ofText_singleLine layout script hlanguage names
  refine ⟨l, htrim, ?_⟩
  rw [ofProperties, hentries]
  rfl

/-- **Configurations in three lines come back.** Take a language without a line feed that is not
blank, a script that does not hold a backslash followed by `n`, and a list of names with values. Of
their three lines, however they are laid out,

* a configuration is read without a notice, and nothing is wrong with it;
* it resolves to the script, inline, in the language without outer blanks and in lower case;
* its variables are read without a failure. The names that are bound are those that are listed, each
  to what is inferred from the value that is listed last for it. -/
theorem load_singleLine (fs : Files.Storage) (layout : Layout) (language script : String)
    (ps : List (String × String)) (hlanguage : '\n' ∉ language.toList)
    (hblank : Text.trim language.toList ≠ []) (hscript : ¬ HasBreak script.toList)
    (names : ∀ p ∈ ps, IsName p.1.toList) :
    ∃ c, ofProperties (singleLine layout language script ps) = (c, []) ∧
      c.violations = [] ∧
      Source.resolve fs c =
        .ok ⟨lowerCase (Text.onChars Text.trim language), script, .inline⟩ ∧
      ∃ b, Variables.load fs c.variablesText c.variablesLocation = .ok b ∧
        ∀ name, b.get? name = (Variables.lastValue? ps name).map fun v => infer v.toList := by
  obtain ⟨l, htrim, hc⟩ := ofProperties_singleLine layout script hlanguage names
  let c : Config :=
    { language := some (String.ofList l)
      script := some (String.ofList (Source.writeScript script.toList))
      variablesText := some (String.ofList (variableEntries layout.upperDigits ps)) }
  have hl : c.effectiveLanguage = some (Text.onChars Text.trim language) := by
    simp [c, effectiveLanguage, Text.onChars, htrim, hblank]
  have hs : c.effectiveScript = some (String.ofList (Source.writeScript script.toList)) := by
    simp [c, effectiveScript, Source.writeScript]
  refine ⟨c, hc, ?_, ?_, _, Variables.load_inline fs _, fun name => ?_⟩
  · rw [violations, scriptViolations, languageViolations, hl, hs]
    rfl
  · rw [Source.resolve, hs, hl]
    simp [c, Source.inline, Source.decode, Text.onChars, Source.decodeChars_writeScript hscript]
  · rw [String.toList_ofList]
    exact get?_variableEntries layout.upperDigits names name

/-- A script of two lines with a quote and two variables in three lines. -/
theorem load_singleLine_quoted :
    singleLine ⟨true, false⟩ " JavaScript\r" "let a = \"x\";\na"
        [("path", "C:\\new"), ("on", "true")] =
      "language= JavaScript\r\nscript=\"let a = \"\"x\"\";\\na\"\n" ++
        "variables=path=C:\\u005Cnew\\non=true" ∧
    ∃ c, ofProperties (singleLine ⟨true, false⟩ " JavaScript\r" "let a = \"x\";\na"
        [("path", "C:\\new"), ("on", "true")]) = (c, []) ∧
      Source.resolve .empty c = .ok ⟨"javascript", "let a = \"x\";\na", .inline⟩ ∧
      ∃ b, Variables.load .empty c.variablesText c.variablesLocation = .ok b ∧
        b.get? "path" = some (.str "C:\\new") ∧ b.get? "on" = some (.bool true) ∧
        b.get? "m" = none := by
  have names : ∀ p ∈ [("path", "C:\\new"), ("on", "true")], IsName p.1.toList := by
    simp only [List.forall_mem_cons]
    exact ⟨by decide +kernel, by decide +kernel, fun _ h => nomatch h⟩
  obtain ⟨c, hc, -, hsource, b, hb, hget⟩ := load_singleLine .empty ⟨true, false⟩ " JavaScript\r"
    "let a = \"x\";\na" [("path", "C:\\new"), ("on", "true")] (by decide +kernel)
    (by decide +kernel) (by decide +kernel) names
  have hlanguage : lowerCase (Text.onChars Text.trim " JavaScript\r") = "javascript" := by
    decide +kernel
  have hpath : infer "C:\\new".toList = .str "C:\\new" := by
    rw [infer_of_backslash (by decide +kernel), String.ofList_toList]
  refine ⟨by decide +kernel, c, hc, hlanguage ▸ hsource, b, hb, (hget "path").trans ?_,
    (hget "on").trans ?_, (hget "m").trans rfl⟩
  · exact congrArg some hpath
  · exact congrArg some rfl

end ScriptStage.Config
