import Bastet.Adapter.AgyStream
import Bastet.Adapter.CodexTracker
import Bastet.Adapter.EventStreams
import Bastet.Library.Collector

/-! The final output of a run, collected from the messages of its provider. Two adapters collect it by one rule. -/

set_option autoImplicit false

namespace Bastet.Adapter

open Fallible Bastet.Core Collector EventStream

/-- Texts of which a whole of at most so many bytes is kept. -/
def limitedText (limit : Nat) : Pieces String where
  empty := ""
  join := (· ++ ·)
  fits text := decide (byteLength text ≤ limit)
  empty_join _ := String.empty_append
  join_empty _ := String.append_empty
  join_assoc _ _ _ := String.append_assoc
  fits_empty := decide_eq_true (Nat.zero_le _)
  fits_of_join first second fits := by
    have whole := of_decide_eq_true fits
    rw [byteLength, String.utf8ByteSize_append] at whole
    exact decide_eq_true ((Nat.le_add_right _ _).trans whole)

theorem fits_limitedText {limit : Nat} {text : String} :
    (limitedText limit).fits text = true ↔ byteLength text ≤ limit :=
  decide_eq_true_iff

section Append

variable {target addition : String} {limit : Nat}

theorem byteLength_append (first second : String) : byteLength (first ++ second) = byteLength first + byteLength second :=
  String.utf8ByteSize_append

/-- Appending within the limit is one step of collecting. -/
theorem add_limitedText (small : limit < 2 ^ 64) (target addition : String) :
    add (limitedText limit) ⟨target, false⟩ addition =
      (appendIfWithinLimit target addition limit).elim ⟨"", true⟩ fun output => ⟨output, false⟩ := by
  have joined : (limitedText limit).join target addition = target ++ addition := rfl
  rw [add, if_neg Bool.false_ne_true, joined]
  by_cases fits : byteLength target + byteLength addition ≤ limit
  · have kept : appendIfWithinLimit target addition limit = some (target ++ addition) :=
      if_pos ⟨fits.trans_lt small, fits⟩
    rw [if_pos (by rwa [fits_limitedText, byteLength_append]), kept]
    rfl
  · have dropped : appendIfWithinLimit target addition limit = none := if_neg fun both => fits both.2
    rw [if_neg (by rwa [fits_limitedText, byteLength_append]), dropped]
    rfl

end Append

theorem whole_limitedText (limit : Nat) (texts : List String) : whole (limitedText limit) texts = String.join texts := by
  induction texts with
  | nil => exact String.join_nil.symm
  | cons text rest ih =>
    rw [String.join_cons, ← ih]
    rfl

/-- `overflowed` and `final_output()` of a collector that holds what is left of a whole. -/
theorem collected_text {limit : Nat} {text : String} {state : State String}
    (same : state = collected (limitedText limit) text) :
    (∀ output, (if !state.overflowed ∧ !state.content.isEmpty then some state.content else none) = some output ↔
      output = text ∧ text ≠ "" ∧ byteLength text ≤ limit) ∧
    (state.overflowed = true ↔ limit < byteLength text) := by
  subst same
  by_cases fits : byteLength text ≤ limit
  · have kept : collected (limitedText limit) text = ⟨text, false⟩ := if_pos (decide_eq_true fits)
    rw [kept]
    refine ⟨fun output => ?_, by simpa using fits⟩
    by_cases empty : text = ""
    · subst empty
      simp
    · have filled : text.isEmpty = false := by simpa using empty
      simp [filled, empty, fits, eq_comm]
  · have dropped : collected (limitedText limit) text = ⟨"", true⟩ := if_neg (mt fits_limitedText.mp fits)
    rw [dropped]
    exact ⟨fun output => by simp [fits], by simpa using fits⟩

end Bastet.Adapter

namespace Bastet.Codex

open Fallible Bastet.Core Bastet.Adapter Collector

namespace CodexFinalOutput

def textOf (value : Value) (key : String) : Option String :=
  (value.get key).bind Value.asStr

/-- The final answer a notification gives for a turn of a thread. -/
def answerGiven (providerThreadId providerTurnId : String) (notification : AppServerNotification) : Option String :=
  if notification.method = "item/completed" ∧ textOf notification.params "threadId" = some providerThreadId ∧
      textOf notification.params "turnId" = some providerTurnId then
    (notification.params.get "item").bind fun item =>
      if textOf item "type" = some "agentMessage" ∧ textOf item "phase" = some "final_answer" then textOf item "text"
      else none
  else none

/-- The collector after a notification; one it refuses leaves it as it was. -/
def ingested (self : CodexFinalOutput) (notification : AppServerNotification) : CodexFinalOutput :=
  match self.ingest notification with
  | .ok after => after
  | .error _ => self

def ingestAll (self : CodexFinalOutput) (notifications : List AppServerNotification) : CodexFinalOutput :=
  notifications.foldl ingested self

def state (self : CodexFinalOutput) : State String :=
  ⟨self.text, self.overflowed⟩

variable {self : CodexFinalOutput}

theorem collect_state (self : CodexFinalOutput) (text : String) :
    (self.collect text).state = add (limitedText maxBytes) self.state text := by
  obtain ⟨providerThreadId, providerTurnId, collected, overflowed⟩ := self
  cases overflowed with
  | true => rfl
  | false =>
    have kept : maxBytes < 2 ^ 64 := by decide
    refine Eq.trans ?_ (add_limitedText kept collected text).symm
    rw [collect, if_neg Bool.false_ne_true]
    cases appendIfWithinLimit collected text maxBytes <;> rfl

theorem requiredValueString_ok {value : Value} {key text : String} :
    requiredValueString value key = .ok text ↔ textOf value key = some text :=
  okOr_ok

/-- A notification that is read adds the answer it gives, and nothing else. -/
theorem ingest_ok {after : CodexFinalOutput} {notification : AppServerNotification}
    (read : self.ingest notification = .ok after) :
    after = (answerGiven self.providerThreadId self.providerTurnId notification).elim self self.collect := by
  unfold ingest at read
  split_ifs at read with other
  · cases read
    rw [answerGiven, if_neg fun all => other all.1]
    rfl
  simp only [bind_ok, requiredValueString_ok] at read
  obtain ⟨threadId, thread, read⟩ := read
  split_ifs at read with otherThread
  · cases read
    rw [answerGiven, if_neg fun all => otherThread (Option.some.inj (thread.symm.trans all.2.1))]
    rfl
  simp only [bind_ok, requiredValueString_ok] at read
  obtain ⟨turnId, turn, read⟩ := read
  split_ifs at read with otherTurn
  · cases read
    rw [answerGiven, if_neg fun all => otherTurn (Option.some.inj (turn.symm.trans all.2.2))]
    rfl
  rw [not_not] at other otherThread otherTurn
  subst otherThread otherTurn
  simp only [bind_ok, requiredValueString_ok, okOr_ok] at read
  obtain ⟨item, held, kind, kindOf, read⟩ := read
  rw [answerGiven, if_pos ⟨other, thread, turn⟩, held, Option.bind_some]
  split_ifs at read with otherKind otherPhase
  · cases read
    rw [if_neg fun both => otherKind (Option.some.inj (kindOf.symm.trans both.1))]
    rfl
  · cases read
    rw [if_neg fun both => otherPhase both.2]
    rfl
  · rw [not_not] at otherKind otherPhase
    simp only [bind_ok, requiredValueString_ok, pure_ok] at read
    obtain ⟨text, worded, rfl⟩ := read
    rw [if_pos ⟨otherKind ▸ kindOf, otherPhase⟩, worded]
    rfl

/-- A notification that is refused gives no answer. -/
theorem ingest_error {error : RunTrackerError} {notification : AppServerNotification}
    (refused : self.ingest notification = .error error) :
    answerGiven self.providerThreadId self.providerTurnId notification = none := by
  cases answered : answerGiven self.providerThreadId self.providerTurnId notification with
  | none => rfl
  | some text =>
    unfold answerGiven at answered
    split_ifs at answered with own
    obtain ⟨item, held, answered⟩ := Option.bind_eq_some_iff.mp answered
    split_ifs at answered with final
    have read : self.ingest notification = .ok (self.collect text) := by
      unfold ingest
      rw [if_neg (not_not.mpr own.1)]
      refine bind_ok.mpr ⟨_, requiredValueString_ok.mpr own.2.1, ?_⟩
      rw [if_neg (not_not.mpr rfl)]
      refine bind_ok.mpr ⟨_, requiredValueString_ok.mpr own.2.2, ?_⟩
      rw [if_neg (not_not.mpr rfl)]
      refine bind_ok.mpr ⟨item, okOr_ok.mpr held, bind_ok.mpr ⟨_, requiredValueString_ok.mpr final.1, ?_⟩⟩
      have phase : (item.get "phase").bind Value.asStr = some "final_answer" := final.2
      rw [if_neg (not_not.mpr rfl), if_neg (not_not.mpr phase)]
      exact bind_ok.mpr ⟨text, requiredValueString_ok.mpr answered, rfl⟩
    rw [read] at refused
    cases refused

theorem ingested_eq (self : CodexFinalOutput) (notification : AppServerNotification) :
    self.ingested notification =
      (answerGiven self.providerThreadId self.providerTurnId notification).elim self self.collect := by
  unfold ingested
  cases read : self.ingest notification with
  | ok after => exact ingest_ok read
  | error error =>
    rw [ingest_error read]
    rfl

theorem collect_run (self : CodexFinalOutput) (text : String) :
    (self.collect text).providerThreadId = self.providerThreadId ∧
      (self.collect text).providerTurnId = self.providerTurnId := by
  unfold collect
  split
  · exact ⟨rfl, rfl⟩
  · split <;> exact ⟨rfl, rfl⟩

theorem ingestAll_state (self : CodexFinalOutput) (notifications : List AppServerNotification) :
    (self.ingestAll notifications).state =
      (notifications.filterMap (answerGiven self.providerThreadId self.providerTurnId)).foldl (add (limitedText maxBytes))
        self.state := by
  induction notifications generalizing self with
  | nil => rfl
  | cons notification rest ih =>
    rw [ingestAll, List.foldl_cons, ← ingestAll, ih, ingested_eq]
    cases answered : answerGiven self.providerThreadId self.providerTurnId notification with
    | none =>
      rw [List.filterMap_cons_none answered]
      rfl
    | some text =>
      obtain ⟨thread, turn⟩ := self.collect_run text
      rw [List.filterMap_cons_some answered, List.foldl_cons, Option.elim_some, thread, turn, collect_state]

/-- Once too long, an output stays so. -/
theorem ingestAll_overflowed (overflowed : self.overflowed = true) (notifications : List AppServerNotification) :
    (self.ingestAll notifications).overflowed = true ∧ (self.ingestAll notifications).finalOutput = none := by
  have stays := self.ingestAll_state notifications
  rw [foldl_overflowed overflowed] at stays
  have flag : (self.ingestAll notifications).overflowed = true := (congrArg State.overflowed stays).trans overflowed
  refine ⟨flag, ?_⟩
  rw [finalOutput, flag]
  rfl

/-- The output of a turn is what its answers make together. -/
theorem ingestAll_new {providerThreadId providerTurnId : String} {output : CodexFinalOutput}
    (created : new providerThreadId providerTurnId = .ok output) (notifications : List AppServerNotification) :
    (output.ingestAll notifications).state = collected (limitedText maxBytes)
      (String.join (notifications.filterMap (answerGiven providerThreadId providerTurnId))) := by
  unfold new at created
  simp only [bind_ok, exists_unit, rejectIf_ok, pure_ok] at created
  obtain ⟨-, -, rfl⟩ := created
  rw [ingestAll_state, ← whole_limitedText maxBytes]
  exact foldl_add _

end CodexFinalOutput

end Bastet.Codex

namespace Bastet.Agy

open Fallible Bastet.Core Bastet.Adapter Collector EventStream

namespace AgyRunStream

/-- `final_output()`. -/
def finalOutputText (self : AgyRunStream) : Option String :=
  if !self.finalOutputOverflowed ∧ !self.finalOutput.isEmpty then some self.finalOutput else none

def output (self : AgyRunStream) : State String :=
  ⟨self.finalOutput, self.finalOutputOverflowed⟩

def textOf (fields : List (String × Value)) (key : String) : Option String :=
  (field fields key).bind Value.asStr

/-- The text that a line gives as a response in a conversation. -/
def responseText [ReadJson] (conversationId line : String) : Option String :=
  (ReadJson.fromStr line).bind fun value =>
    if (value.get "event").bind Value.asStr = some "step_update" then
      ((value.get "step_update").bind Value.asObject).bind fun update =>
        if textOf update "conversation_id" = some conversationId ∧ textOf update "step_type" = some "agent_response" then
          textOf update "text_delta"
        else none
    else none

/-- The text that a line adds to the output of an open stream. -/
def lineText [ReadJson] (self : AgyRunStream) (line : String) : Option String :=
  if self.closed then none else self.conversationId.bind fun known => responseText known line

def textGiven [ReadJson] (self : AgyRunStream) : StreamInput → Option String
  | .consumeLine line _ => self.lineText line
  | .recoveryStarted _ | .cancellationStarted _ | .cancelled _ | .timedOut _ | .crashed _ => none

variable [SerdeJson] [ReadJson]

/-- The texts that the inputs of a stream give, in their order. -/
def textsGiven (self : AgyRunStream) : List StreamInput → List String
  | [] => []
  | input :: rest => (self.textGiven input).toList ++ (self.next input).1.textsGiven rest

/-- A conversation is named once the stream knows it. -/
def Named (self : AgyRunStream) : Prop :=
  ∀ known ∈ self.conversationId, isBlank known = false

variable {self : AgyRunStream}

omit [ReadJson] in
theorem lifecycleWithEvidence_keeps (self : AgyRunStream) (state : NormalizedRunState) (eventType occurredAt : String)
    (failure : Option AdapterFailure) (evidenceClass : EvidenceClass) :
    (self.lifecycleWithEvidence state eventType occurredAt failure evidenceClass).2.output = self.output ∧
      (self.lifecycleWithEvidence state eventType occurredAt failure evidenceClass).2.conversationId =
        self.conversationId := by
  unfold lifecycleWithEvidence
  split_ifs <;> exact ⟨rfl, rfl⟩

omit [ReadJson] in
theorem localTerminal_keeps (self : AgyRunStream) (state : NormalizedRunState) (eventType : String)
    (kind : AdapterFailureKind) (messageKey occurredAt : String) :
    (self.localTerminal state eventType kind messageKey occurredAt).2.output = self.output ∧
      (self.localTerminal state eventType kind messageKey occurredAt).2.conversationId = self.conversationId := by
  unfold localTerminal
  split_ifs
  · exact ⟨rfl, rfl⟩
  · exact lifecycleWithEvidence_keeps { self with closed := true } _ _ _ _ _

omit [ReadJson] in
theorem consumeInit_keeps (self : AgyRunStream) (value : Value) (occurredAt : String) :
    (self.consumeInit value occurredAt).2.output = self.output ∧
      (self.Named → (self.consumeInit value occurredAt).2.Named) := by
  unfold consumeInit
  split_ifs with begun
  · exact ⟨rfl, id⟩
  cases read : requiredText value "conversation_id" with
  | error error => exact ⟨rfl, id⟩
  | ok conversationId =>
    dsimp only
    split_ifs with other
    · exact ⟨rfl, id⟩
    have kept := lifecycleWithEvidence_keeps
      { self with conversationId := some conversationId, initialized := true } .running "run.started" occurredAt none
      .providerReported
    refine ⟨kept.1, fun _ known member => ?_⟩
    rw [AgyRunStream.lifecycle, kept.2] at member
    cases member
    have filled := (Option.filter_eq_some_iff.mp (okOr_ok.mp read)).2
    simpa using filled

omit [ReadJson] in
theorem consumeResult_keeps (self : AgyRunStream) (value : Value) (occurredAt : String) :
    (self.consumeResult value occurredAt).2.output = self.output ∧
      (self.consumeResult value occurredAt).2.conversationId = self.conversationId := by
  unfold consumeResult
  cases self.readResult value with
  | error error => exact ⟨rfl, rfl⟩
  | ok verdict => exact lifecycleWithEvidence_keeps { self with closed := true } _ _ _ _ _

omit [SerdeJson] [ReadJson] in
theorem collect_output (self : AgyRunStream) (text : String) :
    (self.collect text).output = add (limitedText maxFinalOutputBytes) self.output text := by
  obtain ⟨runId, sequence, conversationId, expected, initialized, closed, collected, overflowed⟩ := self
  cases overflowed with
  | true => rfl
  | false =>
    have kept : maxFinalOutputBytes < 2 ^ 64 := by decide
    refine Eq.trans ?_ (add_limitedText kept collected text).symm
    rw [collect, if_neg Bool.false_ne_true]
    cases appendIfWithinLimit collected text maxFinalOutputBytes <;> rfl

omit [SerdeJson] [ReadJson] in
theorem requireMatchingConversation_ok (named : self.Named) {actual : Option Value} :
    self.requireMatchingConversation actual = .ok () ↔
      ∃ known, self.conversationId = some known ∧ actual.bind Value.asStr = some known := by
  unfold requireMatchingConversation requiredTextValue
  simp only [bind_ok, okOr_ok, rejectIf_ok, bne_eq_false_iff_eq, Option.filter_eq_some_iff]
  constructor
  · rintro ⟨known, conversation, text, ⟨given, -⟩, rfl⟩
    exact ⟨text, conversation, given⟩
  · rintro ⟨known, conversation, given⟩
    exact ⟨known, conversation, known, ⟨given, by simp [named known conversation]⟩, rfl⟩

omit [SerdeJson] [ReadJson] in
theorem collectResponse_keeps (self : AgyRunStream) (update : List (String × Value)) :
    (self.collectResponse update).output =
        (if textOf update "step_type" = some "agent_response" then textOf update "text_delta" else none).elim self.output
          (add (limitedText maxFinalOutputBytes) self.output) ∧
      (self.collectResponse update).conversationId = self.conversationId := by
  have collected : ∀ text, (self.collect text).conversationId = self.conversationId := by
    intro text
    unfold collect
    split_ifs
    · rfl
    · split <;> rfl
  unfold collectResponse
  by_cases response : textOf update "step_type" = some "agent_response"
  · rw [if_pos response, if_pos (show (field update "step_type").bind Value.asStr = _ from response)]
    cases given : textOf update "text_delta" with
    | none =>
      rw [show (field update "text_delta").bind Value.asStr = none from given]
      exact ⟨rfl, rfl⟩
    | some text =>
      rw [show (field update "text_delta").bind Value.asStr = some text from given]
      exact ⟨collect_output self text, collected text⟩
  · rw [if_neg response, if_neg (show ¬ (field update "step_type").bind Value.asStr = _ from response)]
    exact ⟨rfl, rfl⟩

omit [SerdeJson] [ReadJson] in
/-- A step adds the text of a response in its conversation, also when it is refused for its usage. -/
theorem consumeStep_keeps (named : self.Named) (value : Value) :
    (self.consumeStep value).2.output =
        (self.conversationId.bind fun known => ((value.get "step_update").bind Value.asObject).bind fun update =>
          if textOf update "conversation_id" = some known ∧ textOf update "step_type" = some "agent_response" then
            textOf update "text_delta"
          else none).elim self.output (add (limitedText maxFinalOutputBytes) self.output) ∧
      (self.consumeStep value).2.conversationId = self.conversationId := by
  unfold consumeStep
  cases (value.get "step_update").bind Value.asObject with
  | none =>
    refine ⟨?_, rfl⟩
    cases self.conversationId <;> rfl
  | some update =>
    dsimp only
    cases matching : self.requireMatchingConversation (field update "conversation_id") with
    | error error =>
      refine ⟨?_, rfl⟩
      cases conversation : self.conversationId with
      | none => rfl
      | some known =>
        have other : ¬ textOf update "conversation_id" = some known := fun given => by
          rw [(requireMatchingConversation_ok named).mpr ⟨known, conversation, given⟩] at matching
          cases matching
        rw [Option.bind_some, Option.bind_some, if_neg fun both => other both.1]
        rfl
    | ok =>
      obtain ⟨known, conversation, given⟩ := (requireMatchingConversation_ok named).mp matching
      have kept := self.collectResponse_keeps update
      have responds : (textOf update "conversation_id" = some known ∧ textOf update "step_type" = some "agent_response") ↔
          textOf update "step_type" = some "agent_response" := and_iff_right given
      rw [conversation, Option.bind_some, Option.bind_some, if_congr responds rfl rfl, ← kept.1, ← conversation,
        ← kept.2]
      cases field update "usage" <;> exact ⟨rfl, rfl⟩

/-- A line adds the text it gives, and nothing else. -/
theorem consumeLine_keeps (named : self.Named) (line occurredAt : String) :
    (self.consumeLine line occurredAt).2.output =
        (self.lineText line).elim self.output (add (limitedText maxFinalOutputBytes) self.output) ∧
      (self.consumeLine line occurredAt).2.Named := by
  unfold consumeLine lineText
  by_cases closed : self.closed = true
  · rw [if_pos closed, if_pos closed]
    exact ⟨rfl, named⟩
  rw [if_neg closed, if_neg closed]
  unfold responseText
  cases ReadJson.fromStr line with
  | none =>
    refine ⟨?_, named⟩
    cases self.conversationId <;> rfl
  | some value =>
    dsimp only [Option.bind_some]
    by_cases step : (value.get "event").bind Value.asStr = some "step_update"
    · rw [step, if_neg (by decide), if_pos rfl]
      simp only [if_pos]
      obtain ⟨output, conversation⟩ := consumeStep_keeps named value
      refine ⟨output, fun known member => named known ?_⟩
      rwa [← conversation]
    · simp only [if_neg step, Option.bind_fun_none, Option.elim_none]
      split_ifs
      · obtain ⟨output, stillNamed⟩ := self.consumeInit_keeps value occurredAt
        exact ⟨output, stillNamed named⟩
      · obtain ⟨output, conversation⟩ := self.consumeResult_keeps value occurredAt
        refine ⟨output, fun known member => named known ?_⟩
        rwa [← conversation]
      · exact ⟨rfl, named⟩

/-- An input adds the text it gives, and nothing else. -/
theorem next_keeps (named : self.Named) (input : StreamInput) :
    (self.next input).1.output =
        (self.textGiven input).elim self.output (add (limitedText maxFinalOutputBytes) self.output) ∧
      (self.next input).1.Named := by
  have kept : ∀ {answer : Except AgyStreamError AgyRunUpdate × AgyRunStream},
      answer.2.output = self.output ∧ answer.2.conversationId = self.conversationId →
      (always answer).2.output = self.output ∧ (always answer).2.Named := by
    intro answer kept
    refine ⟨kept.1, fun known member => named known ?_⟩
    rwa [← kept.2]
  cases input with
  | recoveryStarted occurredAt =>
    refine kept ?_
    unfold recoveryStarted
    split_ifs
    · exact ⟨rfl, rfl⟩
    · exact self.lifecycleWithEvidence_keeps _ _ _ _ _
  | cancellationStarted occurredAt =>
    refine kept ?_
    unfold cancellationStarted
    split_ifs
    · exact ⟨rfl, rfl⟩
    · exact self.lifecycleWithEvidence_keeps _ _ _ _ _
  | cancelled occurredAt | timedOut occurredAt | crashed occurredAt => exact kept (self.localTerminal_keeps _ _ _ _ _)
  | consumeLine line occurredAt => exact consumeLine_keeps named line occurredAt

theorem after_output (named : self.Named) (inputs : List StreamInput) :
    (after next self inputs).output =
      (self.textsGiven inputs).foldl (add (limitedText maxFinalOutputBytes)) self.output := by
  induction inputs generalizing self with
  | nil => rfl
  | cons input rest ih =>
    obtain ⟨output, stillNamed⟩ := next_keeps named input
    refine (ih stillNamed).trans ?_
    rw [textsGiven, List.foldl_append, output]
    cases self.textGiven input <;> rfl

/-- Once too long, an output stays so. -/
theorem after_overflowed (named : self.Named) (overflowed : self.finalOutputOverflowed = true)
    (inputs : List StreamInput) : (after next self inputs).finalOutputOverflowed = true ∧
      (after next self inputs).finalOutputText = none := by
  have stays := after_output named inputs
  rw [foldl_overflowed overflowed] at stays
  have flag : (after next self inputs).finalOutputOverflowed = true :=
    (congrArg State.overflowed stays).trans overflowed
  refine ⟨flag, ?_⟩
  rw [finalOutputText, flag]
  rfl

theorem after_named (named : self.Named) (inputs : List StreamInput) : (after next self inputs).Named := by
  have step : ∀ (state : AgyRunStream) input, state.Named →
      ((fun current input => (next current input).1) state input).Named :=
    fun _ input named => (next_keeps named input).2
  exact Machine.run_preserves step named inputs

/-- A stream as it is created. -/
def Created (self : AgyRunStream) : Prop :=
  ∃ runId, self = new runId ∨ ∃ conversationId, resuming runId conversationId = .ok self

omit [SerdeJson] [ReadJson] in
theorem Created.fresh (created : self.Created) : self.output = ⟨"", false⟩ ∧ self.Named := by
  obtain ⟨runId, rfl | ⟨conversationId, resumed⟩⟩ := created
  · exact ⟨rfl, fun known member => by cases member⟩
  · unfold resuming at resumed
    simp only [bind_ok, exists_unit, rejectIf_ok, pure_ok] at resumed
    obtain ⟨-, rfl⟩ := resumed
    exact ⟨rfl, fun known member => by cases member⟩

/-- The output of a conversation is what its responses make together. -/
theorem after_created (created : self.Created) (inputs : List StreamInput) :
    (after next self inputs).output =
      collected (limitedText maxFinalOutputBytes) (String.join (self.textsGiven inputs)) := by
  obtain ⟨empty, named⟩ := created.fresh
  rw [after_output named, empty, ← whole_limitedText maxFinalOutputBytes]
  exact foldl_add _

end AgyRunStream

end Bastet.Agy

namespace Bastet.Adapter

open Bastet.Core Collector EventStream

/-- Both adapters report the whole text of the final answers of their run, unless there is none or it is too long, and
they report whether it was. What was too long stays so, whatever follows. -/
theorem final_output_exact [SerdeJson] [ReadJson] :
    (∀ providerThreadId providerTurnId output notifications,
      Codex.CodexFinalOutput.new providerThreadId providerTurnId = .ok output →
      let after := output.ingestAll notifications
      let whole := String.join (notifications.filterMap
        (Codex.CodexFinalOutput.answerGiven providerThreadId providerTurnId))
      (∀ text, after.finalOutput = some text ↔
        text = whole ∧ whole ≠ "" ∧ byteLength whole ≤ Codex.CodexFinalOutput.maxBytes) ∧
      (after.overflowed = true ↔ Codex.CodexFinalOutput.maxBytes < byteLength whole) ∧
      (after.overflowed = true → ∀ more,
        (after.ingestAll more).overflowed = true ∧ (after.ingestAll more).finalOutput = none)) ∧
    (∀ (stream : Agy.AgyRunStream) inputs, stream.Created →
      let final := after Agy.AgyRunStream.next stream inputs
      let whole := String.join (stream.textsGiven inputs)
      (∀ text, final.finalOutputText = some text ↔
        text = whole ∧ whole ≠ "" ∧ byteLength whole ≤ Agy.maxFinalOutputBytes) ∧
      (final.finalOutputOverflowed = true ↔ Agy.maxFinalOutputBytes < byteLength whole) ∧
      (final.finalOutputOverflowed = true → ∀ more,
        (after Agy.AgyRunStream.next final more).finalOutputOverflowed = true ∧
        (after Agy.AgyRunStream.next final more).finalOutputText = none)) := by
  constructor
  · intro providerThreadId providerTurnId output notifications created
    obtain ⟨reported, flagged⟩ := collected_text (Codex.CodexFinalOutput.ingestAll_new created notifications)
    exact ⟨reported, flagged, fun overflowed => Codex.CodexFinalOutput.ingestAll_overflowed overflowed⟩
  · intro stream inputs created
    obtain ⟨reported, flagged⟩ := collected_text (Agy.AgyRunStream.after_created created inputs)
    have named := Agy.AgyRunStream.after_named created.fresh.2 inputs
    exact ⟨reported, flagged, fun overflowed => Agy.AgyRunStream.after_overflowed named overflowed⟩

end Bastet.Adapter
