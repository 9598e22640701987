import ScriptStage.Proofs.Json.Records
import ScriptStage.Proofs.Text.Lines
import ScriptStage.Proofs.Text.Utf8
import ScriptStage.Proofs.Worker.Lifecycle

/-!
# Requests and replies on the wire

A request and its reply are told apart from what comes before and behind by line feeds alone, so
that a line feed inside of a request would cut it in two and all later replies would answer the
wrong requests. This file shows that no value has a line feed in its text, that the bytes of a
request are read as the request and nothing else, and that bindings which a worker gives back are
the bindings that it was given.

## Main definitions

* `ScriptStage.Json.OneLine` — a text without line feeds.
* `ScriptStage.Worker.Request.json` — the value that a request stands for.
* `ScriptStage.Worker.echo` — the line in which a worker gives a request back.
* `ScriptStage.Worker.Interpreter.Gets` — the worker that a run gets.

## Main results

* `ScriptStage.Json.oneLine_write` — the text of every value stands on one line.
* `ScriptStage.Worker.Request.encode_line`, `Request.readAll_line` — the bytes of a request.
* `ScriptStage.Worker.Reply.parse_echo`, `answers_echo` — a request that is given back.
* `ScriptStage.Worker.wire_fidelity` — both directions together.
-/

set_option autoImplicit false

namespace ScriptStage

/-! ## Texts on one line -/

namespace Json

/-- **A text on one line**: it has no line feeds. -/
def OneLine (t : List Char) : Prop :=
  ∀ ch ∈ t, ch ≠ '\n'

namespace OneLine

variable {s t : List Char} {ch : Char}

lemma append (hs : OneLine s) (ht : OneLine t) : OneLine (s ++ t) :=
  List.forall_mem_append.2 ⟨hs, ht⟩

lemma cons (hch : ch ≠ '\n') (ht : OneLine t) : OneLine (ch :: t) :=
  List.forall_mem_cons.2 ⟨hch, ht⟩

lemma nil : OneLine [] :=
  List.forall_mem_nil _

/-- A line feed is a blank. -/
lemma of_noBlanks (h : NoBlanks t) : OneLine t := by
  rintro ch hch rfl
  exact nomatch h '\n' hch

end OneLine

/-- Line feeds, like all control characters, are escaped in strings. -/
lemma oneLine_escape (c : Char) : OneLine (escape c) := by
  have hdigit : ∀ n < 16, hexDigit n ≠ '\n' := by decide
  have hshort : ∀ d, d ≠ '\n' → OneLine ['\\', d] := fun d hd => .cons (by decide) (.cons hd .nil)
  unfold escape
  split_ifs with _ _ _ _ hfeed _ _ hcontrol
  · exact hshort '"' (by decide)
  · exact hshort '\\' (by decide)
  · exact hshort 'b' (by decide)
  · exact hshort 'f' (by decide)
  · exact hshort 'n' (by decide)
  · exact hshort 'r' (by decide)
  · exact hshort 't' (by decide)
  · have hhigh : c.toNat / 16 < 16 := by omega
    have hlow : c.toNat % 16 < 16 := by omega
    have hzeros : OneLine ['\\', 'u', '0', '0'] := .of_noBlanks (by decide)
    exact hzeros.append (.cons (hdigit _ hhigh) (.cons (hdigit _ hlow) .nil))
  · exact .cons hfeed .nil

lemma oneLine_writeString (s : String) : OneLine (writeString s) := by
  have hchars : OneLine (s.toList.flatMap escape) := by
    intro ch hch
    obtain ⟨c, -, hc⟩ := List.mem_flatMap.1 hch
    exact oneLine_escape c ch hc
  have hquote : '"' ≠ '\n' := by decide
  exact (OneLine.cons hquote hchars).append (.cons hquote .nil)

lemma oneLine_writeNumber (n : Number) : OneLine (writeNumber n) := by
  cases n with
  | int n fits =>
    have hdigits : OneLine (Decimal.Notation.digitsOf n.natAbs) := .of_noBlanks (.digitsOf _)
    have hsign : '-' ≠ '\n' := by decide
    rw [writeNumber, writeInt]
    split
    · exact .cons hsign hdigits
    · exact hdigits
  | float x finite => exact .of_noBlanks (noBlanks_render x)

lemma oneLine_commaSeparated {ts : List (List Char)} (h : ∀ t ∈ ts, OneLine t) :
    OneLine (commaSeparated ts) :=
  Text.forall_mem_intercalate (by simp) h

lemma oneLine_writeArray {ts : List (List Char)} (h : ∀ t ∈ ts, OneLine t) :
    OneLine (writeArray ts) := by
  have hopening : '[' ≠ '\n' := by decide
  have hclosing : ']' ≠ '\n' := by decide
  exact (OneLine.cons hopening (oneLine_commaSeparated h)).append (.cons hclosing .nil)

lemma oneLine_writeObject {fs : List (String × List Char)} (h : ∀ f ∈ fs, OneLine f.2) :
    OneLine (writeObject fs) := by
  have hfields : ∀ t ∈ fs.map fun f => writeField f.1 f.2, OneLine t := by
    intro t ht
    obtain ⟨f, hf, rfl⟩ := List.mem_map.1 ht
    exact (oneLine_writeString f.1).append (.cons (by decide) (h f hf))
  have hopening : '\x7b' ≠ '\n' := by decide
  have hclosing : '\x7d' ≠ '\n' := by decide
  exact (OneLine.cons hopening (oneLine_commaSeparated hfields)).append (.cons hclosing .nil)

mutual

/-- **The text of every value stands on one line.** -/
theorem oneLine_write : ∀ v : Json, OneLine v.write
  | null => .of_noBlanks (by decide)
  | bool true => .of_noBlanks (by decide)
  | bool false => .of_noBlanks (by decide)
  | num n => oneLine_writeNumber n
  | str s => oneLine_writeString s
  | arr items => oneLine_writeArray (oneLine_writeItems items)
  | obj fields => oneLine_writeObject (oneLine_writeFields fields)

/-- So do the texts of the items of an array. -/
theorem oneLine_writeItems : ∀ vs : List Json, ∀ t ∈ writeItems vs, OneLine t
  | [] => List.forall_mem_nil _
  | v :: vs => List.forall_mem_cons.2 ⟨oneLine_write v, oneLine_writeItems vs⟩

/-- So do the texts of fields. -/
theorem oneLine_writeFields : ∀ fs : List (String × Json), ∀ f ∈ writeFields fs, OneLine f.2
  | [] => List.forall_mem_nil _
  | (_, v) :: fs => List.forall_mem_cons.2 ⟨oneLine_write v, oneLine_writeFields fs⟩

end

/-- The bytes of a line have one line feed, which is the last of them. -/
lemma OneLine.encode {t : List Char} (h : OneLine t) :
    Text.encode (t ++ ['\n']) = Text.encode t ++ [10] ∧ 10 ∉ Text.encode t := by
  have hfeed : Text.encode ['\n'] = [10] := by
    rw [Text.encode_cons]
    rfl
  refine ⟨by rw [Text.encode_append, hfeed], fun hmem => ?_⟩
  exact h '\n' (Text.mem_encode_lineFeed.1 hmem) rfl

/-! ## Values among other text -/

/-- **An object is read back**, whatever stands behind it. -/
theorem readValue_write_obj {fields : List (String × Json)} {n : ℕ} (h : (obj fields).Loadable n)
    (rest : List Char) (p : Position) :
    ∃ q, readValue n ⟨(obj fields).write ++ rest, p⟩ = .ok (obj fields, ⟨rest, q⟩) := by
  obtain ⟨hdepth, ⟨hascending, hcanonical⟩, hdoubles⟩ := h
  obtain ⟨n, rfl⟩ := Nat.exists_eq_add_one.2 (Nat.zero_lt_of_lt hdepth)
  have hfields := reads_writeFields fields (Nat.le_of_succ_le_succ hdepth) hcanonical hdoubles
  exact readValue_writeObject hfields hascending rest p

/-- Blanks in front of a value are skipped. -/
lemma readValue_blanks {blanks : List Char} (h : ∀ ch ∈ blanks, Cursor.isBlank ch = true) (n : ℕ)
    (t : List Char) (p : Position) : ∃ q, readValue n ⟨blanks ++ t, p⟩ = readValue n ⟨t, q⟩ := by
  obtain ⟨q, hq⟩ := Cursor.skipBlanks_append h t p
  refine ⟨q, ?_⟩
  unfold readValue
  rw [hq]

end Json

namespace Worker

open Json

/-! ## Requests -/

/-- **The value that a request stands for.** -/
def Request.json : Request → Json
  | compile script => .obj [("script", .str script)]
  | run b => .obj [("bindings", ofDict b)]

namespace Request

/-- A request is written as its value. -/
lemma write_eq (r : Request) : r.write = r.json.write := by
  cases r <;> rfl

lemma oneLine_write (r : Request) : OneLine r.write := by
  rw [write_eq]
  exact Json.oneLine_write r.json

/-- **The bytes of a request** have one line feed, which is the last of them. -/
theorem encode_line (r : Request) :
    Text.encode r.line = Text.encode r.write ++ [10] ∧ 10 ∉ Text.encode r.write :=
  r.oneLine_write.encode

/-- A script can be read back by every reader that allows for an object. -/
lemma loadable_compile (script : String) {n : ℕ} (hn : 0 < n) :
    (compile script).json.Loadable n := by
  refine ⟨?_, ?_, ?_⟩
  · simpa [json, depth, depthFields] using Nat.succ_le_of_lt hn
  · simp [json, Canonical, CanonicalFields]
  · simp [json, doubles, doublesFields]

/-- Bindings can be read back if their values can. -/
lemma loadable_run {b : Bindings} {n : ℕ} (hdepth : (run b).json.depth ≤ n)
    (hcanonical : (ofDict b).Canonical) (hdoubles : ∀ d ∈ (ofDict b).doubles, ReadsBack d) :
    (run b).json.Loadable n := by
  refine ⟨hdepth, ?_, ?_⟩
  · simpa [json, Canonical, CanonicalFields] using hcanonical
  · simpa [json, doubles, doublesFields] using hdoubles

/-- The text of a request is read as its value, whatever stands behind it. -/
lemma readValue_write {r : Request} {n : ℕ} (h : r.json.Loadable n) (rest : List Char)
    (p : Position) : ∃ q, readValue n ⟨r.write ++ rest, p⟩ = .ok (r.json, ⟨rest, q⟩) := by
  rw [write_eq]
  cases r with
  | compile script => exact readValue_write_obj h rest p
  | run b => exact readValue_write_obj h rest p

/-- **The line of a request is read as its value.** -/
theorem readAll_line {r : Request} {n : ℕ} (h : r.json.Loadable n) :
    readAll (readValue n) r.line = .ok r.json := by
  have hblank : ∀ ch ∈ ['\n'], Cursor.isBlank ch = true := by simp [Cursor.isBlank]
  exact readAll_append (readValue_write h ['\n'] .start) hblank

end Request

/-! ## Replies -/

/-- **The line in which a worker gives a request back**: an object that has the text of the request,
behind blanks or at once, as its result. -/
def echo (gap : List Char) (r : Request) : List Char :=
  writeObject [("result", gap ++ r.write)] ++ ['\n']

/-- Blanks that end no line. -/
def Gap (gap : List Char) : Prop :=
  ∀ ch ∈ gap, Cursor.isBlank ch = true ∧ ch ≠ '\n'

variable {r : Request} {gap : List Char}

lemma oneLine_echo (hgap : Gap gap) (r : Request) :
    OneLine (writeObject [("result", gap ++ r.write)]) := by
  have hresult : OneLine (gap ++ r.write) := .append (fun ch h => (hgap ch h).2) r.oneLine_write
  exact oneLine_writeObject fun f hf => by
    obtain rfl := List.mem_singleton.1 hf
    exact hresult

/-- The fields of a reply that gives a request back are read up to the brace that closes it. -/
lemma Reply.readMembers_echo (hgap : Gap gap) {n : ℕ} (h : r.json.Loadable n) {fuel : ℕ}
    (hfuel : 1 < fuel) (rest : List Char) (p : Position) :
    ∃ q, shape.readMembers n fuel true shape.start
      ⟨separated true (fieldTexts [("result", gap ++ r.write)]) ++ '\x7d' :: rest, p⟩ =
        .ok (.ok ⟨some r.json, none⟩, ⟨'\x7d' :: rest, q⟩) := by
  obtain ⟨fuel, rfl⟩ := Nat.exists_eq_add_one.2 (Nat.zero_lt_of_lt hfuel)
  have hresult : ∀ p, ∃ q, readValue n ⟨(gap ++ r.write) ++ '\x7d' :: rest, p⟩ =
      .ok (r.json, ⟨'\x7d' :: rest, q⟩) := by
    intro p
    obtain ⟨q, hq⟩ := readValue_blanks (fun ch h => (hgap ch h).1) n (r.write ++ '\x7d' :: rest) p
    rw [List.append_assoc, hq]
    exact Request.readValue_write h ('\x7d' :: rest) q
  let whole : Draft := ⟨some r.json, none⟩
  -- the result is the one field, and no fields are left behind it
  obtain ⟨q, hstep⟩ : ∃ q, shape.readMembers n (fuel + 1) true shape.start
      ⟨separated true [writeField "result" (gap ++ r.write)] ++ '\x7d' :: rest, p⟩ =
        shape.readMembers n fuel false whole ⟨separated false [] ++ '\x7d' :: rest, q⟩ := by
    refine readMembers_cons rfl rfl [] rest (fun p => ?_) fuel true p
    obtain ⟨q, hq⟩ := hresult p
    exact ⟨q, congrArg (Except.map _) hq⟩
  have hnone : Drafts shape n [] whole whole := .nil whole
  obtain ⟨q', hend⟩ := readMembers_separated hnone (Nat.lt_of_succ_lt_succ hfuel) false rest q
  exact ⟨q', hstep.trans hend⟩

/-- **A request that is given back is the result of the reply.** -/
theorem Reply.parse_echo (hgap : Gap gap) {n : ℕ} (hn : n + 1 = depthLimit)
    (h : r.json.Loadable n) : Reply.parse (echo gap r) = .ok ⟨r.json, none⟩ := by
  have hblank : ∀ ch ∈ ['\n'], Cursor.isBlank ch = true := by simp [Cursor.isBlank]
  let fields : List (String × List Char) := [("result", gap ++ r.write)]
  have hfinish : shape.finish ⟨some r.json, none⟩ = .ok ⟨r.json, none⟩ := rfl
  have hmembers : ∀ fuel, fields.length < fuel → ∀ p, ∃ q, shape.readMembers n fuel true shape.start
      ⟨separated true (fieldTexts fields) ++ '\x7d' :: ['\n'], p⟩ =
        .ok (.ok ⟨some r.json, none⟩, ⟨'\x7d' :: ['\n'], q⟩) :=
    fun fuel hfuel p => readMembers_echo hgap h hfuel ['\n'] p
  unfold parse echo
  rw [← hn]
  exact readAll_append (readRecord_writeObject hmembers hfinish .start) hblank

/-! ## Lines of bytes -/

/-- A line is cut off what follows it. -/
lemma Process.cutLine_append {bytes : List UInt8} (h : 10 ∉ bytes) (more : List UInt8) :
    cutLine (bytes ++ 10 :: more) = some (bytes ++ [10], more) := by
  induction bytes with
  | nil => rfl
  | cons b bs ih =>
    rw [List.mem_cons, not_or] at h
    rw [List.cons_append, cutLine, if_neg (Ne.symm h.1), ih h.2]
    rfl

/-- A line that is the first of what is unread is received. -/
lemma Process.receive_line {p : Process} {t : List Char} (h : OneLine t) {more : List UInt8}
    (hunread : p.unread = Text.encode (t ++ ['\n']) ++ more) :
    p.receive = (.line (Text.encode (t ++ ['\n'])), { p with unread := more }) := by
  obtain ⟨hbytes, hnone⟩ := h.encode
  have hcut : cutLine p.unread = some (Text.encode (t ++ ['\n']), more) := by
    rw [hunread, hbytes, List.append_assoc]
    exact cutLine_append hnone more
  unfold receive
  rw [hcut]

/-- **A worker that gives a request back answers it with its value**, and what else it has written
stays unread. -/
theorem answers_echo {worker later : Process} {more : List UInt8} (hgap : Gap gap)
    (hsend : worker.send r.line = some later)
    (hunread : later.unread = Text.encode (echo gap r) ++ more) {n : ℕ} (hn : n + 1 = depthLimit)
    (h : r.json.Loadable n) : Answers worker r ⟨r.json, none⟩ { later with unread := more } :=
  ⟨later, Text.encode (echo gap r), echo gap r, hsend,
    Process.receive_line (oneLine_echo hgap r) hunread, Text.decode_encode _,
    Reply.parse_echo hgap hn h⟩

/-! ## Runs -/

/-- **The worker that a run gets**: the one in the slot, or a new one that has compiled the
script. -/
inductive Interpreter.Gets (i : Interpreter) (script : String) : Option Process → Process → Prop
  | kept (worker : Process) : Gets i script (some worker) worker
  | started {worker : Process} {reply : Reply} (h : i.startWorker script = .replied reply worker) :
    Gets i script none worker

/-- A run goes on with the worker that it gets. -/
lemma Interpreter.Gets.run_eq {i : Interpreter} {script : String} {slot : Option Process}
    {worker : Process} (h : i.Gets script slot worker) (b : Bindings) :
    i.run script slot b = i.runOn worker b := by
  cases h with
  | kept => rfl
  | started h =>
    unfold run
    rw [h]

/-- **What is sent is what is read, in both directions.**

* The bytes of a request have one line feed, which is the last of them. They are the text of an
  object with the script, for every script, or with the bindings, for all bindings, and nothing
  else, for every reader that allows for its depth.
* If the worker of a run with bindings gives the request back, the run ends well, its result is the
  object with the same bindings, and the worker goes back into the slot with all that it has written
  behind that line; for this the reply must nest no deeper than replies may.

Doubles must be read back from their texts one by one, and the fields of objects are kept in
ascending order, as they are in all values that are read.

**Proof sketch.** Nothing that is written has a line feed (`oneLine_write`), for strings escape
them; so a line is cut where it ends (`Process.cutLine_append`), and its bytes are decoded to the
characters that were encoded (`Text.decode_encode`), of which objects are read back whatever stands
behind them (`readValue_write_obj`). -/
theorem wire_fidelity :
    (∀ r : Request, ∃ bytes, Text.encode r.line = bytes ++ [10] ∧ 10 ∉ bytes) ∧
    (∀ script n, 0 < n →
      ∃ line, Text.decode (Text.encode (Request.compile script).line) = .ok line ∧
        readAll (readValue n) line = .ok (.obj [("script", .str script)])) ∧
    ∀ b : Bindings, (ofDict b).Canonical → (∀ d ∈ (ofDict b).doubles, ReadsBack d) →
      (∀ n, (Json.obj [("bindings", ofDict b)]).depth ≤ n →
        ∃ line, Text.decode (Text.encode (Request.run b).line) = .ok line ∧
          readAll (readValue n) line = .ok (.obj [("bindings", ofDict b)])) ∧
      ∀ (i : Interpreter) (script : String) (slot : Option Process) (worker later : Process)
        (gap : List Char) (more : List UInt8),
        i.Gets script slot worker → worker.send (Request.run b).line = some later → Gap gap →
        later.unread = Text.encode (echo gap (.run b)) ++ more →
        (Json.obj [("result", .obj [("bindings", ofDict b)])]).depth ≤ depthLimit →
        i.run script slot b = ⟨some { later with unread := more }, [],
          .now (.ok (.obj [("bindings", ofDict b)]))⟩ := by
  refine ⟨fun r => ⟨_, r.encode_line⟩, fun script n hn => ?_, fun b hcanonical hdoubles =>
    ⟨fun n hdepth => ?_, ?_⟩⟩
  · exact ⟨_, Text.decode_encode _, Request.readAll_line (Request.loadable_compile script hn)⟩
  · have hloadable := Request.loadable_run hdepth hcanonical hdoubles
    exact ⟨_, Text.decode_encode _, Request.readAll_line hloadable⟩
  · intro i script slot worker later gap more hgets hsend hgap hunread hdepth
    have hrequest : (Request.run b).json.depth ≤ 126 := by
      rw [depth, depthFields, depthFields, Nat.max_zero] at hdepth
      exact Nat.le_of_succ_le_succ hdepth
    have hloadable := Request.loadable_run hrequest hcanonical hdoubles
    have hexchange := exchange_eq_replied.2 (answers_echo hgap hsend hunread rfl hloadable)
    rw [hgets.run_eq, Interpreter.runOn, hexchange]
    rfl

/-- A program that gives every line back. -/
def echoing : Behaviour := fun lines =>
  { output := Text.encode
      (writeObject [("result", ' ' :: (lines.getLast?.getD []).dropLast)] ++ ['\n']) }

/-- It waits for a line, after some others. -/
def Process.waiting (past : List (List Char)) : Process :=
  { Process.start echoing with received := past }

lemma Process.send_waiting (past : List (List Char)) (r : Request) :
    (waiting past).send r.line =
      some { waiting (past ++ [r.line]) with unread := Text.encode (echo [' '] r) } := by
  have houtput : (echoing (past ++ [r.line])).output = Text.encode (echo [' '] r) := by
    simp only [echoing, echo, Request.line, List.getLast?_concat, Option.getD_some,
      List.dropLast_concat, List.singleton_append]
  rw [← houtput]
  rfl

/-- Such a worker is started, has a text with a line feed sent, and gives it back. -/
theorem wire_fidelity_echoed :
    ∃ (i : Interpreter) (b : Bindings) (left : Process),
      b.get? "text" = some (.arr [.str "a\nb"]) ∧
      i.run "x" none b = ⟨some left, [], .now (.ok (.obj [("bindings", ofDict b)]))⟩ := by
  let i : Interpreter := ⟨"shell", "sh", .ok (.start echoing)⟩
  let b : Bindings := ⟨[("text", .arr [.str "a\nb"])], by simp⟩
  let script : Request := .compile "x"
  have hgap : Gap [' '] := by simp [Gap, Cursor.isBlank]
  have hunread : ∀ bytes : List UInt8, bytes = bytes ++ [] := fun bytes => (List.append_nil _).symm
  have hscript : script.json.Loadable 126 := Request.loadable_compile "x" (by decide)
  have hcompiled : exchange (.start echoing) script =
      .replied ⟨script.json, none⟩ (.waiting [script.line]) :=
    exchange_eq_replied.2
      (answers_echo hgap (Process.send_waiting [] script) (hunread _) rfl hscript)
  have hgets : i.Gets "x" none (.waiting [script.line]) := by
    have hstart : i.startWorker "x" = .replied ⟨script.json, none⟩ (.waiting [script.line]) := by
      simp only [Interpreter.startWorker, i, script, hcompiled]
    exact .started hstart
  have hcanonical : (ofDict b).Canonical := by
    simp [ofDict, b, Canonical, CanonicalFields, CanonicalItems]
  have hdoubles : ∀ d ∈ (ofDict b).doubles, ReadsBack d := by
    simp [ofDict, b, doubles, doublesFields, doublesItems]
  have hdepth : (Json.obj [("result", .obj [("bindings", ofDict b)])]).depth ≤ depthLimit := by
    simp [ofDict, b, depth, depthFields, depthItems, depthLimit]
  obtain ⟨-, hruns⟩ := wire_fidelity.2.2 b hcanonical hdoubles
  exact ⟨i, b, _, rfl, hruns i "x" none _ _ [' '] [] hgets
    (Process.send_waiting [script.line] (.run b)) hgap (hunread _) hdepth⟩

end Worker

end ScriptStage
