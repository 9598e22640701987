import Mathlib.Data.List.Forall2
import ScriptStage.Message.Codec
import ScriptStage.Proofs.Json.Records

/-!
# Messages that are written and read

A message that is written and read again is the message that it was, so that a stage does not see
whether the one before it handed over a message or its text. What is asked of the message is that
its text nests no deeper than the reader goes and that the doubles in it are read back.

## Main definitions

* `ScriptStage.Report.toJson`, `ScriptStage.Message.toJson` — the values that are written.
* `ScriptStage.Message.Loadable` — what is asked of a message.
* `ScriptStage.Message.Step` — a change of a message, or writing and reading it.

## Main results

* `ScriptStage.Report.parse_write` — a report is read back.
* `ScriptStage.Message.write_toJson` — the text of a message is that of a value.
* `ScriptStage.Message.parse_write` — a message is read back.
* `ScriptStage.Message.reload_insert` — and nothing that is done to it later is different for it.
* `ScriptStage.Message.run_changes` — any number of such steps among changes makes no difference.
-/

set_option autoImplicit false

namespace ScriptStage

open Json

/-! ## Reports -/

namespace Report

/-- A field of an object that is there only if its value is. -/
def optionalValue (name : String) : Option String → List (String × Json)
  | some s => [(name, str s)]
  | none => []

/-- The value that is written for a report. -/
def toJson (r : Report) : Json :=
  obj <|
    [("code", str r.code), ("message", str r.message)]
      ++ optionalValue "message_id" r.messageId
      ++ optionalValue "language" r.language
      ++ optionalValue "timestamp" r.timestamp
      ++ [("retryable", bool r.retryable)]

lemma write_toJson (r : Report) : r.toJson.write = r.write := by
  obtain ⟨code, message, messageId, language, timestamp, retryable⟩ := r
  cases messageId <;> cases language <;> cases timestamp <;> rfl

/-- A report is an object without containers and without doubles. -/
lemma depth_toJson (r : Report) : r.toJson.depth = 1 ∧ r.toJson.doubles = [] := by
  obtain ⟨code, message, messageId, language, timestamp, retryable⟩ := r
  cases messageId <;> cases language <;> cases timestamp <;> exact ⟨rfl, rfl⟩

variable {depth : ℕ}

section Fields

variable {name : String} {d d' : Draft}

/-- A string that must be present is put into the draft. -/
lemma drafts_textField {get : Draft → Option String} {set : Draft → String → Draft}
    (field : shape.field? name = some (textField name get set)) (s : String)
    (unset : (get d).isSome = false) (hset : set d s = d') :
    Drafts shape depth [(name, writeString s)] d d' := by
  subst hset
  exact .single field unset ((reads_text "a string" s).map (set d))

/-- A string that may be null is put into the draft if it is written. -/
lemma drafts_optionalField {get : Draft → Option (Option String)}
    {set : Draft → Option String → Draft}
    (field : shape.field? name = some (nullableField name get set)) (o : Option String)
    (unset : (get d).isSome = false) (hset : o.elim d (fun s => set d (some s)) = d') :
    Drafts shape depth (optionalField name o) d d' := by
  subst hset
  cases o with
  | none => exact .nil d
  | some s => exact .single field unset ((reads_optional "a string" s).map (set d))

end Fields

/-- The draft of a whole report. -/
def toDraft (r : Report) : Draft where
  code := some r.code
  message := some r.message
  messageId := r.messageId.map some
  language := r.language.map some
  timestamp := r.timestamp.map some
  retryable := some r.retryable

lemma ofDraft_toDraft (r : Report) : ofDraft r.toDraft = .ok r := by
  have hjoin : ∀ o : Option String, (o.map some).join = o := fun o => by cases o <;> rfl
  simp [ofDraft, toDraft, hjoin]

/-- The fields that are written for a report lead from the empty draft to that of the report. -/
lemma drafts_write (r : Report) :
    Drafts shape depth
      ([("code", writeString r.code), ("message", writeString r.message)]
        ++ optionalField "message_id" r.messageId ++ optionalField "language" r.language
        ++ optionalField "timestamp" r.timestamp ++ [("retryable", writeBool r.retryable)])
      {} r.toDraft := by
  have code : Drafts shape depth [("code", writeString r.code)] {} { code := some r.code } :=
    drafts_textField rfl r.code rfl rfl
  have message : Drafts shape depth [("message", writeString r.message)] { code := some r.code }
      { code := some r.code, message := some r.message } :=
    drafts_textField rfl r.message rfl rfl
  -- a field that is left out leaves the draft as it is, with none in that place
  have messageId : Drafts shape depth (optionalField "message_id" r.messageId)
      { code := some r.code, message := some r.message }
      { code := some r.code, message := some r.message, messageId := r.messageId.map some } :=
    drafts_optionalField rfl r.messageId rfl (by cases r.messageId <;> rfl)
  have language : Drafts shape depth (optionalField "language" r.language)
      { code := some r.code, message := some r.message, messageId := r.messageId.map some }
      { r.toDraft with timestamp := none, retryable := none } :=
    drafts_optionalField rfl r.language rfl (by cases h : r.language <;> simp [toDraft, h])
  have timestamp : Drafts shape depth (optionalField "timestamp" r.timestamp)
      { r.toDraft with timestamp := none, retryable := none }
      { r.toDraft with retryable := none } :=
    drafts_optionalField rfl r.timestamp rfl (by cases h : r.timestamp <;> simp [toDraft, h])
  have retryable : Drafts shape depth [("retryable", writeBool r.retryable)]
      { r.toDraft with retryable := none } r.toDraft :=
    .single rfl rfl ((reads_flag r.retryable).map fun b =>
      { r.toDraft with retryable := some b })
  exact ((((code.append message).append messageId).append language).append timestamp).append
    retryable

/-- **A report is read back**, with the fields left out that are none. -/
theorem reads_write (r : Report) : Reads (read (depth + 1)) r.write r :=
  reads_record (s := shape) (drafts_write r) (ofDraft_toDraft r)

/-- **A report is the one that its text describes.** -/
theorem parse_write (r : Report) : parse r.write = .ok r :=
  (reads_write r).readAll

end Report

/-! ## Messages -/

namespace Message

/-- The value that is written for a message. Its fields stand in an order of their own. -/
def toJson (m : Message) : Json :=
  obj
    [("id", str m.id), ("payload", m.payload), ("headers", ofDict m.headers),
      ("errors", arr (m.errors.map Report.toJson))]

lemma writeItems_reports (rs : List Report) :
    writeItems (rs.map Report.toJson) = rs.map Report.write := by
  induction rs with
  | nil => rfl
  | cons r rs ih => simp [writeItems, Report.write_toJson, ih]

/-- **The text of a message is the text of that value.** -/
theorem write_toJson (m : Message) : m.toJson.write = m.write := by
  simp [toJson, write, Json.write, writeFields, writeItems_reports]

/-- **A message that can be read back.** Its text nests no deeper than the reader goes, the objects
in it have their fields in ascending order, as all objects do, and the doubles in it are read
back. -/
structure Loadable (m : Message) : Prop where
  /-- How deep the arrays and objects in the text of the message nest. -/
  depth : m.toJson.depth ≤ depthLimit
  /-- The keys of each object in the payload ascend. -/
  payload : m.payload.Canonical
  /-- The keys of each object in the headers ascend. -/
  headers : (ofDict m.headers).Canonical
  /-- Each double in the message is read back from its text. -/
  doubles : ∀ d ∈ m.toJson.doubles, ReadsBack d

/-- The draft of a whole message. -/
def toDraft (m : Message) : Draft where
  id := some m.id
  payload := some m.payload
  headers := some m.headers
  errors := some m.errors

/-- The reports of a message are no deeper than an object in a list, and have no doubles. -/
lemma depth_reports (rs : List Report) :
    depthItems (rs.map Report.toJson) ≤ 1 ∧ doublesItems (rs.map Report.toJson) = [] := by
  induction rs with
  | nil => exact ⟨Nat.zero_le 1, rfl⟩
  | cons r rs ih =>
    obtain ⟨hdepth, hdoubles⟩ := r.depth_toJson
    exact ⟨Nat.max_le.2 ⟨Nat.le_of_eq hdepth, ih.1⟩, by simp [doublesItems, hdoubles, ih.2]⟩

/-- The message is one object around its payload and its headers. -/
lemma loadable_iff {m : Message} :
    m.Loadable ↔ m.payload.Loadable 126 ∧ (ofDict m.headers).Loadable 126 := by
  -- the reports nest less deep than the limit and hold no doubles, so they ask for nothing
  obtain ⟨hreports, hnone⟩ := depth_reports m.errors
  have hdepth : m.toJson.depth ≤ depthLimit ↔
      m.payload.depth ≤ 126 ∧ (ofDict m.headers).depth ≤ 126 := by
    simp only [toJson, depth, depthFields, depthLimit]
    omega
  have hdoubles : m.toJson.doubles = m.payload.doubles ++ (ofDict m.headers).doubles := by
    simp [toJson, doubles, doublesFields, hnone]
  constructor
  · rintro ⟨depth, payload, headers, doubles⟩
    rw [hdepth] at depth
    rw [hdoubles, List.forall_mem_append] at doubles
    exact ⟨⟨depth.1, payload, doubles.1⟩, ⟨depth.2, headers, doubles.2⟩⟩
  · rintro ⟨payload, headers⟩
    refine ⟨hdepth.2 ⟨payload.depth, headers.depth⟩, payload.canonical, headers.canonical, ?_⟩
    rw [hdoubles, List.forall_mem_append]
    exact ⟨payload.doubles, headers.doubles⟩

/-- The fields that are written for a message lead from the empty draft to that of the message. They
are read inside one object, so that the reader goes one less deep into them. -/
lemma drafts_write {m : Message} (h : m.Loadable) :
    Drafts shape 126
      [("id", writeString m.id), ("payload", m.payload.write),
        ("headers", (ofDict m.headers).write), ("errors", writeArray (m.errors.map Report.write))]
      {} m.toDraft := by
  obtain ⟨⟨hdepth, hcanonical, hdoubles⟩, hheaders⟩ := loadable_iff.1 h
  have reports : Reads (readListOf Report.read 126) (writeArray (m.errors.map Report.write))
      m.errors :=
    reads_listOf (List.forall₂_map_left_iff.2 (List.forall₂_same.2 fun r _ => r.reads_write))
  have id : Drafts shape 126 [("id", writeString m.id)] {} { id := some m.id } :=
    .single rfl rfl ((reads_text "a string" m.id).map fun s => ({ id := some s } : Draft))
  have payload : Drafts shape 126 [("payload", m.payload.write)] { id := some m.id }
      { id := some m.id, payload := some m.payload } :=
    .single rfl rfl ((Json.reads_write m.payload hdepth hcanonical hdoubles).map fun v =>
      ({ id := some m.id, payload := some v } : Draft))
  have headers : Drafts shape 126 [("headers", (ofDict m.headers).write)]
      { id := some m.id, payload := some m.payload } { m.toDraft with errors := none } :=
    .single rfl rfl ((reads_dict hheaders).map fun d =>
      { m.toDraft with headers := some d, errors := none })
  have errors : Drafts shape 126 [("errors", writeArray (m.errors.map Report.write))]
      { m.toDraft with errors := none } m.toDraft :=
    .single rfl rfl (reports.map fun rs => { m.toDraft with errors := some rs })
  exact ((id.append payload).append headers).append errors

/-- **A message is the one that its text describes.** -/
theorem parse_write {m : Message} (h : m.Loadable) : parse m.write = .ok m :=
  (reads_record (s := shape) (drafts_write h) rfl).readAll

/-! ## Steps -/

/-- **What is done to a message**: it is changed, or written and read again. -/
inductive Step where
  /-- The message gets a header. -/
  | header (name : String) (value : Json)
  /-- The message gets a report. -/
  | report (r : Report)
  /-- The message gets another payload. -/
  | payload (value : Json)
  /-- The message is written and read again. -/
  | reload

namespace Step

/-- The message behind a step, or what is wrong with its text. -/
def apply (m : Message) : Step → Except Fault Message
  | header name value => .ok (m.withHeader name value)
  | report r => .ok (m.addReport r)
  | payload value => .ok (m.withPayload value)
  | reload => parse m.write

/-- The step changes the message. -/
def changes : Step → Bool
  | reload => false
  | _ => true

/-- **A value that a step may bring** into a message that is to be read back. -/
def Fits : Step → Prop
  | header _ value => value.Loadable 125
  | payload value => value.Loadable 126
  | _ => True

end Step

/-- The message behind all steps, or what is wrong with its text at one of them. -/
def run (m : Message) (steps : List Step) : Except Fault Message :=
  steps.foldlM Step.apply m

lemma run_append (m : Message) (before later : List Step) :
    run m (before ++ later) = run m before >>= fun m => run m later :=
  List.foldlM_append

/-- **Nothing is different for having been written and read**: a message that can be read back is
the one that its text describes, and where such a message stands in a sequence of steps, writing and
reading it there changes no later state.

**Proof sketch.** The text is a record of four fields, each of which takes the reader's draft to the
next one (`drafts_write`); the fields of the reports and the values are read back in the same way,
down to strings and numbers. The step then returns the message that it was given. -/
theorem reload_insert {m : Message} (h : m.Loadable) :
    parse m.write = .ok m ∧
      ∀ (start : Message) (before later : List Step), run start before = .ok m →
        run start (before ++ .reload :: later) = run start (before ++ later) := by
  refine ⟨parse_write h, fun start before later hbefore => ?_⟩
  have hreload : run m (.reload :: later) = run m later := by
    rw [run, List.foldlM_cons, Step.apply, parse_write h]
    rfl
  rw [run_append, run_append, hbefore, ok_bind, ok_bind, hreload]

/-- A new message with a double, an escape and containers in its payload. -/
def purchase : Message :=
  .new "7" <| obj
    [("lines", arr [num (.float 1.5 (by decide +kernel)), null, str "a\n\"b\""]),
      ("paid", bool false)]

/-- What happens to the purchase: it gets a header and the report of a failure. -/
def purchaseSteps : List Step :=
  [.header "origin" (arr []), .report ⟨"SCRIPT_ERROR", "no price", none, some "rhai", none, false⟩]

/-- The purchase as it stands then. -/
def failedPurchase : Message :=
  (purchase.withHeader "origin" (arr [])).addReport
    ⟨"SCRIPT_ERROR", "no price", none, some "rhai", none, false⟩

/-- Nothing is different for a purchase that has been written and read, with a header, a report and
a double in it. -/
theorem reload_insert_purchase :
    failedPurchase.Loadable ∧ run purchase purchaseSteps = .ok failedPurchase ∧
      parse failedPurchase.write = .ok failedPurchase ∧
      run purchase (purchaseSteps ++ [.reload, .payload null]) =
        run purchase (purchaseSteps ++ [.payload null]) := by
  have hpayload : failedPurchase.payload.Loadable 126 := by
    refine ⟨by decide, ⟨?_, ⟨trivial, trivial, trivial, trivial⟩, trivial, trivial⟩, ?_⟩
    · exact List.pairwise_pair.2 (show "lines" < "paid" by decide)
    · exact List.forall_mem_singleton.2 (readsBack_three_halves _)
  have hempty : (arr []).Loadable 125 := ⟨by decide, trivial, List.forall_mem_nil _⟩
  have hheaders : (ofDict failedPurchase.headers).Loadable 126 :=
    loadable_ofDict.2 (List.forall_mem_singleton.2 hempty)
  have h : failedPurchase.Loadable := loadable_iff.2 ⟨hpayload, hheaders⟩
  have hrun : run purchase purchaseSteps = .ok failedPurchase := rfl
  obtain ⟨hparse, hinsert⟩ := reload_insert h
  exact ⟨h, hrun, hparse, hinsert purchase purchaseSteps [.payload null] hrun⟩

/-! ## Reloading anywhere -/

/-- **A change that fits** leaves a message that can be read back. -/
lemma Step.apply_loadable {m : Message} (h : m.Loadable) {s : Step} (fits : s.Fits) :
    ∃ m', s.apply m = .ok m' ∧ m'.Loadable ∧ (s.changes = false → m' = m) := by
  obtain ⟨hpayload, hheaders⟩ := loadable_iff.1 h
  cases s with
  | header name value =>
    have hentries : ∀ e ∈ (m.headers.insert name value).entries, e.2.Loadable 125 := by
      intro e he
      rcases Dict.mem_put he with rfl | he
      · exact fits
      · exact loadable_ofDict.1 hheaders e he
    exact ⟨_, rfl, loadable_iff.2 ⟨hpayload, loadable_ofDict.2 hentries⟩, nofun⟩
  | report r => exact ⟨_, rfl, loadable_iff.2 ⟨hpayload, hheaders⟩, nofun⟩
  | payload value => exact ⟨_, rfl, loadable_iff.2 ⟨fits, hheaders⟩, nofun⟩
  | reload => exact ⟨m, parse_write h, h, fun _ => rfl⟩

/-- **Writing and reading a message makes no difference**, as often as it is done: a run whose steps
bring values that fit ends, and it ends with the message of its changes alone. -/
theorem run_changes {m : Message} (h : m.Loadable) {steps : List Step}
    (fits : ∀ s ∈ steps, s.Fits) :
    ∃ m', run m steps = .ok m' ∧ run m (steps.filter Step.changes) = .ok m' ∧ m'.Loadable := by
  induction steps generalizing m with
  | nil => exact ⟨m, rfl, rfl, h⟩
  | cons s steps ih =>
    obtain ⟨hs, hsteps⟩ := List.forall_mem_cons.1 fits
    obtain ⟨m₁, happly, h₁, hsame⟩ := Step.apply_loadable h hs
    obtain ⟨m', hrun, hchanges, h'⟩ := ih h₁ hsteps
    refine ⟨m', ?_, ?_, h'⟩
    · rw [run, List.foldlM_cons, happly]
      exact hrun
    · cases hc : s.changes with
      | false =>
        -- the message was written and read, and is what it was
        rw [List.filter_cons_of_neg (by simp [hc]), ← hsame hc]
        exact hchanges
      | true =>
        rw [List.filter_cons_of_pos hc, run, List.foldlM_cons, happly]
        exact hchanges

end Message

end ScriptStage
