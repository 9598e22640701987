import ScriptStage.Proofs.Json.Accepted
import ScriptStage.Proofs.Worker.Documents
import ScriptStage.Worker.Loop

/-!
# Answers are replies

What an interpreter answers is an object with one member, on one line. This file shows that the
reader of replies accepts such lines, whatever the value of the member is, as long as it is within
the bounds of the reader.

## Main definitions

* `ScriptStage.Worker.Answer.Formed` — an answer of which the result is JSON text on one line.
* `ScriptStage.Worker.IsReplyLine` — a line with an object that has one member, accepted if it is
  within bounds.

## Main results

* `ScriptStage.Worker.Reply.parse_object` — an object with one member is read as a reply.
* `ScriptStage.Worker.Answer.Formed.isReplyLine` — the lines of answers.
* `ScriptStage.Worker.Answer.isBounded_result` — how deep the line of a number nests.
-/

set_option autoImplicit false

namespace ScriptStage.Worker

open Json

/-! ## Objects with one member -/

namespace Answer

/-- **A well-formed answer**: a result is JSON text on one line. -/
def Formed : Answer → Prop
  | result text => IsValue text ∧ OneLine text
  | _ => True

/-- The key of an answer, and the text of its value. -/
def member : Answer → String × List Char
  | ready => ("ready", (Document.bool true).write)
  | result text => ("result", text)
  | error text => ("error", Document.writeUnits text)

lemma write_eq (a : Answer) : a.write = object a.member.1 a.member.2 := by
  cases a <;> rfl

/-- The keys of answers. -/
def keys : List String :=
  ["ready", "result", "error"]

lemma key_mem (a : Answer) : a.member.1 ∈ keys := by
  cases a <;> simp [member, keys]

/-- They are written as everyone writes them. -/
lemma writeString_key : ∀ key ∈ keys, Document.writeString key = Json.writeString key := by
  decide +kernel

variable {key : String} {value : List Char}

lemma isMember_object (hkey : key ∈ keys) (value : List Char) :
    IsMember (key, value) (Document.writeString key ++ ':' :: ' ' :: value) := by
  have blank : Blanks [' '] := List.forall_mem_singleton.2 rfl
  have h := IsMember.mk (v := value) blanks_nil (denotes_flatMap_escape key.toList) blanks_nil blank
    blanks_nil
  rw [writeString_key key hkey]
  simpa [Json.writeString] using h

/-- **An answer is an object with one member.** -/
lemma isDocument_object (hkey : key ∈ keys) (hvalue : IsValue value) :
    IsDocument [(key, value)] (object key value) := by
  have h := IsDocument.mk blanks_nil blanks_nil (.cons (isMember_object hkey value) .nil)
    (List.forall_mem_singleton.2 hvalue) blanks_nil
  simpa [object, commaSeparated] using h

lemma oneLine_object (key : String) (hvalue : OneLine value) : OneLine (object key value) := by
  have hblank : ' ' ≠ '\n' := by decide
  have hcolon : ':' ≠ '\n' := by decide
  have hmember : OneLine (Document.writeString key ++ ':' :: ' ' :: value) :=
    (Document.oneLine_writeUnits (Text.units key)).append (.cons hcolon (.cons hblank hvalue))
  exact Document.oneLine_brackets (by decide) (by decide) hmember

end Answer

/-! ## Replies -/

namespace Reply

variable {value : List Char}

/-- **An object with one member is read as a reply** if a field of replies reads the value. -/
lemma parse_object {key : String} (hkey : key ∈ Answer.keys) (hvalue : IsValue value)
    {f : Json.Field Draft} (field : shape.field? key = some f) (unset : f.isSet shape.start = false)
    {P : Reply → Prop}
    (reads : ∀ {b : List Char}, Blanks b → ∀ {rest : List Char}, Delimits rest → ∀ p, ∃ d v q,
      f.read 126 shape.start ⟨b ++ (value ++ rest), p⟩ = .ok (d, ⟨rest, q⟩) ∧
        shape.finish d = .ok v ∧ P v) :
    ∃ r, P r ∧ parse (Answer.object key value ++ ['\n']) = .ok r := by
  have hfeed : Blanks ['\n'] := List.forall_mem_singleton.2 rfl
  obtain ⟨r, q, hr, hread⟩ :=
    readRecord_member (Answer.isMember_object hkey value) hvalue field unset reads ['\n'] .start
  refine ⟨r, hr, readAll_append ⟨q, ?_⟩ hfeed⟩
  simpa [Answer.object, depthLimit] using hread

/-- **A result is accepted** if its value fits. -/
lemma parse_result (h : IsBounded InRange 126 value) :
    ∃ r, r.error = none ∧ parse (Answer.object "result" value ++ ['\n']) = .ok r := by
  refine parse_object (by decide) h.isValue rfl rfl fun {b} hb {rest} hrest p => ?_
  obtain ⟨v, q, hq⟩ := h.accepted hb hrest p
  refine ⟨{ result := some v }, ⟨v, none⟩, q, ?_, rfl, rfl⟩
  exact congrArg (Except.map _) hq

/-- **An error is accepted** if its text stands for characters. -/
lemma parse_error {body : List Char} {s : String} (denotes : Denotes body s.toList) :
    ∃ r, r.error = some s ∧
      parse (Answer.object "error" ('"' :: (body ++ ['"'])) ++ ['\n']) = .ok r := by
  refine parse_object (by decide) (.scalar (.text denotes.isBody)) rfl rfl
    fun {b} hb {rest} _ p => ?_
  obtain ⟨q, hq⟩ := readOptional_readText "a string" (.text denotes) hb rest p
  refine ⟨{ error := some (some s) }, ⟨.null, some s⟩, q, ?_, rfl, rfl⟩
  exact congrArg (Except.map _) hq

/-- That a script is ready is accepted. -/
lemma parse_ready : parse Answer.ready.line = .ok ⟨.null, none⟩ := by
  rfl

end Reply

/-! ## Lines -/

/-- **The bytes of one line with an object that has one member.** If the text nests no deeper than
the reader of replies allows, strings in it stand for characters and numbers are in range, then the
line is accepted: as an error if that is the member, and otherwise as a result. -/
def IsReplyLine (key : String) (bytes : List UInt8) : Prop :=
  ∃ value text, bytes = Text.encode (text ++ ['\n']) ∧ OneLine text ∧
    IsDocument [(key, value)] text ∧
    (IsBounded InRange depthLimit text → ∀ status, ∃ r, readReply status bytes = .ok r ∧
      (r.error.isSome = true ↔ key = "error"))

namespace Answer

lemma Formed.member {a : Answer} (h : a.Formed) : IsValue a.member.2 ∧ OneLine a.member.2 := by
  cases a with
  | ready => exact ⟨.scalar (.bool true), Document.oneLine_write (.bool true)⟩
  | result text => exact h
  | error text => exact ⟨Document.isValue_writeUnits text, Document.oneLine_writeUnits text⟩

/-- The value of an answer nests less deep than the answer. -/
lemma Formed.bounded {a : Answer} (h : a.Formed) {n : ℕ}
    (bounded : IsBounded InRange (n + 1) a.write) : IsBounded InRange n a.member.2 := by
  refine .of_member (isMember_object a.key_mem a.member.2) h.member.1 blanks_nil ?_
  simpa [write_eq, object] using bounded

/-- **An answer is accepted** if it is within bounds. -/
lemma Formed.parse_line {a : Answer} (h : a.Formed)
    (bounded : IsBounded InRange depthLimit a.write) :
    ∃ r, Reply.parse a.line = .ok r ∧ (r.error.isSome = true ↔ a.member.1 = "error") := by
  have value := h.bounded bounded
  cases a with
  | ready => exact ⟨_, Reply.parse_ready, by decide⟩
  | result text =>
    obtain ⟨r, hr, hparse⟩ := Reply.parse_result value
    exact ⟨r, hparse, by simp [hr, Answer.member]⟩
  | error text =>
    obtain ⟨body, s, hbody, denotes⟩ := value.of_quote
    obtain ⟨r, hr, hparse⟩ := Reply.parse_error denotes
    refine ⟨r, ?_, by simp [hr, Answer.member]⟩
    rw [← hbody] at hparse
    exact hparse

/-- **The line of an answer.** -/
lemma Formed.isReplyLine {a : Answer} (h : a.Formed) :
    IsReplyLine a.member.1 (Text.encode a.line) := by
  obtain ⟨value, oneLine⟩ := h.member
  refine ⟨a.member.2, a.write, rfl, ?_, ?_, fun bounded status => ?_⟩
  · rw [write_eq]
    exact oneLine_object a.member.1 oneLine
  · rw [write_eq]
    exact isDocument_object a.key_mem value
  · obtain ⟨r, hr, herror⟩ := h.parse_line bounded
    refine ⟨r, ?_, herror⟩
    rw [readReply, Text.decode_encode]
    simp only [hr]
    rfl

/-- The line with a natural number as the result is on one level. -/
lemma isBounded_result (n : ℕ) {bound : ℚ} (hn : n ≤ bound) :
    IsBounded (fun t => magnitude t ≤ bound) depthLimit
      (result (Decimal.Notation.digitsOf n)).write := by
  have number : IsNumber (Decimal.Notation.digitsOf n) :=
    (Decimal.Notation.isUnsigned_digitsOf n).isNumber List.mem_cons_self
  have value : ∀ m : ℕ, IsBounded (fun t => magnitude t ≤ bound) m (Decimal.Notation.digitsOf n) :=
    fun _ => .number number ((magnitude_digitsOf n).trans_le hn)
  have member : "result" ∈ keys := by decide
  have h := IsBounded.object (n := 126) blanks_nil
    (.cons (isMember_object member (Decimal.Notation.digitsOf n)) .nil)
    (List.forall_mem_singleton.2 (value 126))
  simpa [write, object, commaSeparated, depthLimit] using h

end Answer

end ScriptStage.Worker
