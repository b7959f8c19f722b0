import Bastet.Adapter.FinalOutput

/-! The verdict on an Agy run that reports success. It asks whether the output is empty, and an output that grew too
long is. -/

set_option autoImplicit false

namespace Bastet.Agy

open Fallible Bastet.Core Bastet.Adapter Collector EventStream

/-- Whether a result lists denied actions. -/
def deniesActions (result : List (String × Value)) : Bool :=
  ((field result "denied_actions").bind Value.asArray).any fun actions => !actions.isEmpty

/-- What a run that reports success is to be judged: denied if actions were and it said nothing, else successful. -/
def Judged (denied : Bool) (texts : List String) (update : AgyRunUpdate) : Prop :=
  ∃ event failure, update = .lifecycle event failure ∧
    ((event.state = .failed ∧ failure.map AdapterFailure.kind = some .permissionDenied) ↔
      denied = true ∧ ∀ text ∈ texts, text = "") ∧
    (¬ (denied = true ∧ ∀ text ∈ texts, text = "") → event.state = .succeeded ∧ failure = none)

section Judgements

variable {denied : Bool} {texts : List String} {event : NormalizedAdapterEvent}

theorem judged_denied {failure : AdapterFailure} (failed : event.state = .failed)
    (kind : failure.kind = .permissionDenied) :
    Judged denied texts (.lifecycle event (some failure)) ↔ denied = true ∧ ∀ text ∈ texts, text = "" := by
  constructor
  · rintro ⟨_, _, same, denies, -⟩
    cases same
    exact denies.mp ⟨failed, congrArg some kind⟩
  · intro silenced
    exact ⟨event, some failure, rfl, ⟨fun _ => silenced, fun _ => ⟨failed, congrArg some kind⟩⟩,
      fun spoke => absurd silenced spoke⟩

theorem judged_succeeded (succeeded : event.state = .succeeded) :
    Judged denied texts (.lifecycle event none) ↔ ¬ (denied = true ∧ ∀ text ∈ texts, text = "") := by
  constructor
  · rintro ⟨_, _, same, denies, -⟩ silenced
    cases same
    cases (denies.mpr silenced).2
  · intro spoke
    refine ⟨event, none, rfl, ⟨?_, fun silenced => absurd silenced spoke⟩, fun _ => ⟨succeeded, rfl⟩⟩
    rintro ⟨-, impossible⟩
    cases impossible

end Judgements

namespace AgyRunStream

variable [SerdeJson] [ReadJson]

/-- A stream accepts a line with a result that reports success. -/
structure ReportsSuccess (stream : AgyRunStream) (line occurredAt : String) (result : List (String × Value))
    (update : AgyRunUpdate) : Prop where
  parsed : ∃ value, ReadJson.fromStr line = some value ∧ (value.get "event").bind Value.asStr = some "result" ∧
    (value.get "result").bind Value.asObject = some result
  status : textOf result "status" = some "SUCCESS"
  accepted : (stream.consumeLine line occurredAt).1 = .ok (some update)

variable {self : AgyRunStream} {line occurredAt : String} {result : List (String × Value)} {update : AgyRunUpdate}

omit [SerdeJson] [ReadJson] in
theorem verdict_success (self : AgyRunStream) (result : List (String × Value)) :
    self.verdict result "SUCCESS" =
      if self.finalOutput.isEmpty ∧ deniesActions result then
        .ok (.failed, "run.failed", some ⟨.permissionDenied, "adapter.agy.permission_denied", false, none, none⟩)
      else .ok (.succeeded, "run.succeeded", none) := by
  rw [verdict, if_pos rfl]
  rfl

omit [ReadJson] in
theorem lifecycle_accepted {state : NormalizedRunState} {eventType : String} {failure : Option AdapterFailure}
    (accepted : (self.lifecycle state eventType occurredAt failure).1 = .ok update) :
    ∃ event, update = .lifecycle event failure ∧ event.state = state := by
  unfold lifecycle lifecycleWithEvidence at accepted
  split_ifs at accepted
  cases accepted
  exact ⟨_, rfl, rfl⟩

omit [SerdeJson] [ReadJson] in
theorem always_accepted {answer : Except AgyStreamError AgyRunUpdate × AgyRunStream}
    (accepted : (always answer).1 = .ok (some update)) : answer.1 = .ok update := by
  unfold always at accepted
  cases read : answer.1 with
  | error error =>
    rw [read] at accepted
    cases accepted
  | ok given =>
    rw [read] at accepted
    cases accepted
    rfl

omit [SerdeJson] [ReadJson] in
theorem readResult_ok {value : Value} {status : String}
    {reading : NormalizedRunState × String × Option AdapterFailure} (read : self.readResult value = .ok reading)
    (held : (value.get "result").bind Value.asObject = some result) (stated : textOf result "status" = some status) :
    self.verdict result status = .ok reading := by
  unfold readResult at read
  rw [held] at read
  obtain ⟨fields, same, read⟩ := bind_ok.mp read
  cases same
  obtain ⟨filled, statusRead, read⟩ := bind_ok.mp read
  have given := (Option.filter_eq_some_iff.mp (okOr_ok.mp statusRead)).1
  obtain rfl : filled = status := Option.some.inj (given.symm.trans stated)
  cases conversation : self.conversationId with
  | none =>
    rw [conversation] at read
    obtain ⟨_, _, judged⟩ := bind_ok.mp read
    exact judged
  | some known =>
    rw [conversation] at read
    obtain ⟨_, _, read⟩ := bind_ok.mp read
    obtain ⟨_, _, judged⟩ := bind_ok.mp read
    exact judged

/-- The verdict on success asks whether the output is empty. -/
theorem ReportsSuccess.judged (success : self.ReportsSuccess line occurredAt result update) :
    ∃ event, if self.finalOutput.isEmpty ∧ deniesActions result then
        update = .lifecycle event
          (some ⟨.permissionDenied, "adapter.agy.permission_denied", false, none, none⟩) ∧ event.state = .failed
      else update = .lifecycle event none ∧ event.state = .succeeded := by
  obtain ⟨value, parsed, event, held⟩ := success.parsed
  have accepted := success.accepted
  unfold consumeLine at accepted
  split_ifs at accepted with closed
  rw [parsed] at accepted
  dsimp only at accepted
  rw [event, if_neg (by decide), if_neg (by decide), if_pos rfl] at accepted
  have accepted := always_accepted accepted
  unfold consumeResult at accepted
  cases read : self.readResult value with
  | error error =>
    rw [read] at accepted
    cases accepted
  | ok reading =>
    obtain ⟨state, eventType, failure⟩ := reading
    rw [read] at accepted
    obtain ⟨event, updated, entered⟩ := lifecycle_accepted accepted
    have judged := readResult_ok read held success.status
    rw [verdict_success] at judged
    refine ⟨event, ?_⟩
    split_ifs at judged ⊢ <;> cases judged <;> exact ⟨updated, entered⟩

omit [SerdeJson] [ReadJson] in
theorem join_empty {texts : List String} : String.join texts = "" ↔ ∀ text ∈ texts, text = "" := by
  induction texts with
  | nil => simp
  | cons text rest ih => rw [String.join_cons, String.append_eq_empty_iff, ih, List.forall_mem_cons]

/-- The output at the end is empty if nothing was said, or too much. -/
theorem finalOutput_empty {stream : AgyRunStream} (created : stream.Created) (inputs : List StreamInput) :
    (after next stream inputs).finalOutput.isEmpty = true ↔
      (∀ text ∈ stream.textsGiven inputs, text = "") ∨
        maxFinalOutputBytes < byteLength (String.join (stream.textsGiven inputs)) := by
  have left := congrArg State.content (after_created created inputs)
  rw [← join_empty]
  generalize String.join (stream.textsGiven inputs) = whole at left ⊢
  change (after next stream inputs).finalOutput = _ at left
  rw [left, String.isEmpty_iff]
  by_cases fits : byteLength whole ≤ maxFinalOutputBytes
  · rw [collected_content (fits_limitedText.mpr fits), or_iff_left (Nat.not_lt.mpr fits)]
  · have dropped : collected (limitedText maxFinalOutputBytes) whole = ⟨"", true⟩ := if_neg (mt fits_limitedText.mp fits)
    rw [dropped]
    exact ⟨fun _ => .inr (Nat.lt_of_not_le fits), fun _ => rfl⟩

/-- The verdict on success is the right one unless actions were denied and the run said more than the output holds. -/
theorem success_judged {stream : AgyRunStream} (created : stream.Created) {inputs : List StreamInput}
    (success : (after next stream inputs).ReportsSuccess line occurredAt result update) :
    Judged (deniesActions result) (stream.textsGiven inputs) update ↔
      deniesActions result = false ∨
        byteLength (String.join (stream.textsGiven inputs)) ≤ maxFinalOutputBytes := by
  obtain ⟨event, judged⟩ := success.judged
  have empty := finalOutput_empty created inputs
  have silentShort : (∀ text ∈ stream.textsGiven inputs, text = "") →
      byteLength (String.join (stream.textsGiven inputs)) ≤ maxFinalOutputBytes := by
    intro silent
    rw [join_empty.mpr silent]
    exact Nat.zero_le _
  rw [← Nat.not_lt] at silentShort ⊢
  split_ifs at judged with denies
  · obtain ⟨rfl, failed⟩ := judged
    rw [judged_denied failed rfl]
    have silentOrLong := empty.mp denies.1
    simp only [denies.2, true_and, Bool.true_eq_false, false_or]
    exact ⟨silentShort, silentOrLong.resolve_right⟩
  · obtain ⟨rfl, succeeded⟩ := judged
    rw [judged_succeeded succeeded]
    cases denied : deniesActions result with
    | false => simp
    | true =>
      have short : ¬ ((∀ text ∈ stream.textsGiven inputs, text = "") ∨
          maxFinalOutputBytes < byteLength (String.join (stream.textsGiven inputs))) :=
        fun either => denies ⟨empty.mpr either, denied⟩
      exact ⟨fun _ => .inr fun long => short (.inr long), fun _ silenced => short (.inl silenced.2)⟩

end AgyRunStream

/-! ### A run with a denied action -/

def stepLine (text : String) : String :=
  "\x7b\"event\":\"step_update\",\"step_update\":\x7b\"conversation_id\":\"agy_1\"," ++
    "\"step_type\":\"agent_response\",\"text_delta\":\"" ++ text ++ "\"\x7d\x7d"

def stepValue (text : String) : Value :=
  .object [("event", .string "step_update"), ("step_update", .object [("conversation_id", .string "agy_1"),
    ("step_type", .string "agent_response"), ("text_delta", .string text)])]

def deniedLine : String :=
  "\x7b\"event\":\"result\",\"result\":\x7b\"conversation_id\":\"agy_1\",\"status\":\"SUCCESS\"," ++
    "\"denied_actions\":[\"write_file\"]\x7d\x7d"

def deniedFields : List (String × Value) :=
  [("conversation_id", .string "agy_1"), ("status", .string "SUCCESS"),
    ("denied_actions", .array [.string "write_file"])]

def deniedValue : Value :=
  .object [("event", .string "result"), ("result", .object deniedFields)]

/-- The parse of the lines of a run that says one text. -/
abbrev readSaying (text : String) : ReadJson where
  fromStr line :=
    if line = initLine then some initValue
    else if line = deniedLine then some deniedValue
    else if line = stepLine text then some (stepValue text)
    else none

def saying (text : String) : List StreamInput :=
  [.consumeLine initLine "now", .consumeLine (stepLine text) "now"]

def event (state : NormalizedRunState) (eventType : String) : NormalizedAdapterEvent where
  contractVersion := agentAdapterContractVersion
  runId := ⟨7⟩
  sequence := 2
  state
  eventType
  occurredAt := "now"
  evidenceClass := .providerReported
  providerEventId := none
  redactedPayloadJson := "\x7b\"provider\":\"agy_cli\"\x7d"

namespace AgyRunStream

theorem reads_init (text : String) : (readSaying text).fromStr initLine = some initValue :=
  if_pos rfl

theorem lines_apart : deniedLine ≠ initLine ∧ byteLength initLine ≤ 1000 ∧ byteLength deniedLine ≤ 1000 := by
  decide +kernel

theorem reads_denied (text : String) : (readSaying text).fromStr deniedLine = some deniedValue :=
  (if_neg lines_apart.1).trans (if_pos rfl)

theorem done_reports : @ReportsSuccess .compact (readSaying "Done")
    (after (@next .compact (readSaying "Done")) (new ⟨7⟩) (saying "Done")) deniedLine "now" deniedFields
    (.lifecycle (event .succeeded "run.succeeded") none) :=
  @ReportsSuccess.mk .compact (readSaying "Done") _ _ _ _ _ ⟨deniedValue, reads_denied "Done", by decide +kernel, by rfl⟩
    (by decide +kernel) (by decide +kernel)

theorem done_judged : Judged true (@textsGiven .compact (readSaying "Done") (new ⟨7⟩) (saying "Done"))
    (.lifecycle (event .succeeded "run.succeeded") none) :=
  (@success_judged .compact (readSaying "Done") deniedLine "now" deniedFields _ (new ⟨7⟩) ⟨⟨7⟩, .inl rfl⟩ (saying "Done")
    done_reports).mpr (.inr (by decide +kernel))

/-- A text that no output holds. -/
def tooLong : String :=
  String.join (List.replicate (maxFinalOutputBytes + 1) "a")

theorem byteLength_repeated (count : Nat) : byteLength (String.join (List.replicate count "a")) = count := by
  induction count with
  | zero => rfl
  | succ count ih =>
    rw [List.replicate_succ, String.join_cons, byteLength_append, ih, Nat.add_comm]
    rfl

theorem stepLine_other {text : String} (long : 1000 < byteLength text) :
    stepLine text ≠ initLine ∧ stepLine text ≠ deniedLine := by
  have longer : 1000 < byteLength (stepLine text) := by
    unfold stepLine
    rw [byteLength_append, byteLength_append]
    omega
  constructor
  · intro same
    rw [same] at longer
    exact absurd lines_apart.2.1 longer.not_ge
  · intro same
    rw [same] at longer
    exact absurd lines_apart.2.2 longer.not_ge

/-- The stream of a run that has begun. -/
def begun : AgyRunStream :=
  ⟨⟨7⟩, 1, some "agy_1", none, true, false, "", false⟩

/-- What a beginning, a step and a result find in the stream. -/
theorem begun_stream :
    (@consumeInit .compact (new ⟨7⟩) initValue "now").2 = begun ∧
      (initValue.get "event").bind Value.asStr = some "init" ∧
      begun.requireMatchingConversation (some (.string "agy_1")) = .ok () := by
  decide +kernel

theorem begins (text : String) :
    (@next .compact (readSaying text) (new ⟨7⟩) (.consumeLine initLine "now")).1 = begun := by
  change (@consumeLine .compact (readSaying text) (new ⟨7⟩) initLine "now").2 = begun
  obtain ⟨started, named, -⟩ := begun_stream
  unfold consumeLine
  rw [reads_init, if_neg (show ¬ (new ⟨7⟩).closed = true from Bool.false_ne_true)]
  dsimp only
  rw [if_pos named]
  exact started

theorem reads_step {text : String} (long : 1000 < byteLength text) :
    (readSaying text).fromStr (stepLine text) = some (stepValue text) := by
  obtain ⟨otherThanInit, otherThanDenied⟩ := stepLine_other long
  exact (if_neg otherThanInit).trans ((if_neg otherThanDenied).trans (if_pos rfl))

theorem says_text {text : String} (long : 1000 < byteLength text) :
    @textsGiven .compact (readSaying text) (new ⟨7⟩) (saying text) = [text] := by
  have response : @lineText (readSaying text) begun (stepLine text) = some text := by
    change @responseText (readSaying text) "agy_1" (stepLine text) = some text
    unfold responseText
    rw [reads_step long]
    simp [stepValue, Value.get, Value.asObject, Value.asStr, field, textOf]
  change (@textGiven (readSaying text) (new ⟨7⟩) (.consumeLine initLine "now")).toList ++ (@textsGiven .compact
    (readSaying text) (@next .compact (readSaying text) (new ⟨7⟩) (.consumeLine initLine "now")).1
    [.consumeLine (stepLine text) "now"]) = [text]
  rw [begins]
  change [] ++ ((@lineText (readSaying text) begun (stepLine text)).toList ++ []) = [text]
  rw [response]
  rfl

/-- The output of a run that says too much is empty when it ends. -/
theorem says_much {text : String} (long : 1000 < byteLength text)
    (dropped : appendIfWithinLimit "" text maxFinalOutputBytes = none) :
    after (@next .compact (readSaying text)) (new ⟨7⟩) (saying text) = { begun with finalOutputOverflowed := true } := by
  change (@next .compact (readSaying text) (@next .compact (readSaying text) (new ⟨7⟩)
    (.consumeLine initLine "now")).1 (.consumeLine (stepLine text) "now")).1 = _
  rw [begins]
  change (@consumeLine .compact (readSaying text) begun (stepLine text) "now").2 = _
  unfold consumeLine
  rw [reads_step long]
  have conversation := begun_stream.2.2
  unfold begun at conversation ⊢
  simp only [stepValue, Value.get, Value.asObject, Value.asStr, field, consumeStep, collectResponse, collect, dropped,
    List.find?_cons, decide_true, decide_false, Option.map_some, Option.bind_some, String.reduceEq, if_true, if_false,
    Bool.false_eq_true, Option.some.injEq, conversation, List.find?_nil, Option.map_none]

theorem tooLong_dropped : 1000 < byteLength tooLong ∧ appendIfWithinLimit "" tooLong maxFinalOutputBytes = none := by
  have bytes : byteLength tooLong = maxFinalOutputBytes + 1 := byteLength_repeated _
  constructor
  · rw [bytes]
    decide
  · refine if_neg fun both => ?_
    have fits := both.2
    rw [bytes] at fits
    exact absurd fits (by decide)

/-- A run with a denied action that says a lot is reported as one that was denied everything. -/
theorem tooLong_denied :
    (@consumeLine .compact (readSaying tooLong) (after (@next .compact (readSaying tooLong)) (new ⟨7⟩) (saying tooLong))
      deniedLine "now").1 = .ok (some (.lifecycle (event .failed "run.failed")
        (some ⟨.permissionDenied, "adapter.agy.permission_denied", false, none, none⟩))) ∧
    ¬ Judged true (@textsGiven .compact (readSaying tooLong) (new ⟨7⟩) (saying tooLong))
      (.lifecycle (event .failed "run.failed")
        (some ⟨.permissionDenied, "adapter.agy.permission_denied", false, none, none⟩)) := by
  obtain ⟨long, dropped⟩ := tooLong_dropped
  rw [says_much long dropped, says_text long, judged_denied rfl rfl]
  constructor
  · unfold consumeLine
    rw [reads_denied]
    decide +kernel
  · rintro ⟨-, silent⟩
    rw [silent tooLong (List.mem_singleton_self _)] at long
    exact absurd long (by decide)

end AgyRunStream

end Bastet.Agy
