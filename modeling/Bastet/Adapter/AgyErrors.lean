import Bastet.Adapter.AgyVerdict

/-! Refused inputs of an Agy stream. A stream that has changed before its event or its usage is refused stays changed. -/

set_option autoImplicit false

namespace Bastet.Agy

open Fallible Bastet.Core Bastet.Adapter EventStream

namespace AgyRunStream

/-- An answer that leaves a stream as it was if it is an error. -/
def Leaves {α : Type} (before : AgyRunStream) (answer : Except AgyStreamError α × AgyRunStream) : Prop :=
  ∀ error, answer.1 = .error error → answer.2 = before

/-- An event can be made: it has a time, and there is a number for it. -/
def Emits (self : AgyRunStream) (occurredAt : String) : Prop :=
  isBlank occurredAt = false ∧ self.sequence + 1 < 2 ^ 64

/-- The stream is open to a beginning of its conversation. -/
def Begins (self : AgyRunStream) (value : Value) : Prop :=
  self.initialized = false ∧ ∃ conversationId, requiredText value "conversation_id" = .ok conversationId ∧
    ∀ expected ∈ self.expectedConversationId, expected = conversationId

/-- The statuses of a result. -/
def statuses : List String :=
  ["SUCCESS", "ERROR", "CANCELED", "INTERRUPTED", "INVALID", "WAITING", "RUNNING"]

/-- The stream is open to a result: of its conversation, or to an error before there is one. -/
def Concludes (self : AgyRunStream) (value : Value) : Prop :=
  ∃ result status, (value.get "result").bind Value.asObject = some result ∧
    requiredTextValue (field result "status") = .ok status ∧ status ∈ statuses ∧
    (∀ known, self.conversationId = some known → requiredTextValue (field result "conversation_id") = .ok known) ∧
    (self.conversationId = none → status = "ERROR")

/-- A step that adds to the output of its conversation, or is found to exceed it. -/
def Adds (self : AgyRunStream) (update : List (String × Value)) : Prop :=
  self.finalOutputOverflowed = false ∧ textOf update "step_type" = some "agent_response" ∧
    ∃ text, textOf update "text_delta" = some text ∧ (text ≠ "" ∨ maxFinalOutputBytes < byteLength self.finalOutput)

/-- A step whose usage is not to be read. -/
def BadUsage (update : List (String × Value)) : Prop :=
  ∃ usage error, field update "usage" = some usage ∧ parseUsage usage = .error error

section Lines

variable [ReadJson]

/-- When a line that is refused changes nothing. -/
def HarmlessLine (self : AgyRunStream) (line occurredAt : String) : Prop :=
  ∀ value, self.closed = false → ReadJson.fromStr line = some value →
    ((value.get "event").bind Value.asStr = some "init" → self.Begins value → self.Emits occurredAt) ∧
    ((value.get "event").bind Value.asStr = some "result" → self.Concludes value → self.Emits occurredAt) ∧
    ((value.get "event").bind Value.asStr = some "step_update" →
      ∀ update, (value.get "step_update").bind Value.asObject = some update →
        self.requireMatchingConversation (field update "conversation_id") = .ok () → BadUsage update →
        ¬ self.Adds update)

/-- When an input that is refused changes nothing: an event that closes or begins the stream can be made, and a step
with a usage that is not to be read has nothing to add. -/
def Harmless (self : AgyRunStream) : StreamInput → Prop
  | .recoveryStarted _ | .cancellationStarted _ => True
  | .cancelled occurredAt | .timedOut occurredAt | .crashed occurredAt => self.closed = false → self.Emits occurredAt
  | .consumeLine line occurredAt => self.HarmlessLine line occurredAt

end Lines

variable {before middle : AgyRunStream}

theorem leaves_always {answer : Except AgyStreamError AgyRunUpdate × AgyRunStream} :
    before.Leaves (always answer) ↔ before.Leaves answer := by
  obtain ⟨given, after⟩ := answer
  cases given with
  | error error => exact ⟨fun leaves _ _ => leaves error rfl, fun leaves _ _ => leaves error rfl⟩
  | ok update =>
    constructor
    · rintro - error ⟨⟩
    · rintro - error ⟨⟩

theorem leaves_refused {α : Type} (error : AgyStreamError) :
    before.Leaves ((.error error : Except AgyStreamError α), before) :=
  fun _ _ => rfl

section Events

variable [SerdeJson] (state : NormalizedRunState) (eventType occurredAt : String) (failure : Option AdapterFailure)
  (evidenceClass : EvidenceClass)

theorem lifecycleWithEvidence_leaves (self : AgyRunStream) :
    self.Leaves (self.lifecycleWithEvidence state eventType occurredAt failure evidenceClass) := by
  intro error refused
  unfold lifecycleWithEvidence at refused ⊢
  split_ifs at refused ⊢
  rfl

/-- An event after a change leaves things as they were before only if it cannot be refused. -/
theorem changed_leaves (changed : middle ≠ before) :
    before.Leaves (middle.lifecycleWithEvidence state eventType occurredAt failure evidenceClass) ↔
      middle.Emits occurredAt := by
  unfold Leaves Emits lifecycleWithEvidence
  split_ifs with refused
  · constructor
    · intro leaves
      exact absurd (leaves _ rfl) changed
    · rintro ⟨timed, numbered⟩
      rcases refused with blank | used
      · rw [timed] at blank
        cases blank
      · exact absurd numbered (Nat.not_lt.mpr used)
  · rw [not_or, Bool.not_eq_true, Nat.not_le] at refused
    constructor
    · exact fun _ => refused
    · rintro - error ⟨⟩

theorem localTerminal_leaves (self : AgyRunStream) (kind : AdapterFailureKind) (messageKey : String) :
    self.Leaves (self.localTerminal state eventType kind messageKey occurredAt) ↔
      (self.closed = false → self.Emits occurredAt) := by
  unfold localTerminal
  cases closed : self.closed with
  | true =>
    rw [if_pos rfl]
    constructor
    · rintro - ⟨⟩
    · exact fun _ => leaves_refused _
  | false =>
    have changed : { self with closed := true } ≠ self := fun same => by
      rw [← same] at closed
      cases closed
    rw [if_neg Bool.false_ne_true, changed_leaves _ _ _ _ _ changed]
    exact ⟨fun emits _ => emits, fun emits => emits rfl⟩

theorem consumeInit_leaves (self : AgyRunStream) (value : Value) :
    self.Leaves (self.consumeInit value occurredAt) ↔ (self.Begins value → self.Emits occurredAt) := by
  unfold consumeInit
  cases begun : self.initialized with
  | true =>
    rw [if_pos rfl]
    constructor
    · rintro - ⟨impossible, -⟩
      rw [begun] at impossible
      cases impossible
    · exact fun _ => leaves_refused _
  | false =>
    rw [if_neg Bool.false_ne_true]
    cases read : requiredText value "conversation_id" with
    | error error =>
      constructor
      · rintro - ⟨-, conversationId, named, -⟩
        rw [read] at named
        cases named
      · exact fun _ => leaves_refused _
    | ok conversationId =>
      dsimp only
      have expects : (self.expectedConversationId.any fun expected => expected != conversationId) = true ↔
          ¬ ∀ expected ∈ self.expectedConversationId, expected = conversationId := by
        cases self.expectedConversationId <;> simp
      split_ifs with other
      · constructor
        · rintro - ⟨-, named, same, expected⟩
          cases read.symm.trans same
          exact absurd expected (expects.mp other)
        · exact fun _ => leaves_refused _
      · have changed : { self with conversationId := some conversationId, initialized := true } ≠ self := fun same => by
          rw [← same] at begun
          cases begun
        refine (changed_leaves _ _ _ _ _ changed).trans ⟨fun emits _ => emits, fun emits => emits ?_⟩
        exact ⟨begun, conversationId, read, not_not.mp (mt expects.mpr other)⟩

end Events

theorem verdict_status (self : AgyRunStream) (result : List (String × Value)) (status : String) :
    (∃ reading, self.verdict result status = .ok reading) ↔ status ∈ statuses := by
  unfold verdict
  constructor
  · rintro ⟨reading, read⟩
    by_contra unknown
    simp only [statuses, List.mem_cons, List.not_mem_nil, or_false, not_or] at unknown
    obtain ⟨success, error, canceled, interrupted, invalid, waiting, running⟩ := unknown
    rw [if_neg success, if_neg error, if_neg (not_or.mpr ⟨canceled, interrupted⟩), if_neg invalid, if_neg waiting,
      if_neg running] at read
    cases read
  · intro known
    split_ifs with success denied error canceled invalid waiting running
    all_goals first
      | exact ⟨_, rfl⟩
      | simp_all [statuses]

theorem readResult_concludes (self : AgyRunStream) (value : Value) :
    (∃ reading, self.readResult value = .ok reading) ↔ self.Concludes value := by
  unfold readResult Concludes
  constructor
  · rintro ⟨reading, read⟩
    obtain ⟨result, held, read⟩ := bind_ok.mp read
    obtain ⟨status, stated, read⟩ := bind_ok.mp read
    refine ⟨result, status, okOr_ok.mp held, stated, ?_⟩
    cases conversation : self.conversationId with
    | none =>
      rw [conversation] at read
      obtain ⟨_, expected, judged⟩ := bind_ok.mp read
      refine ⟨(self.verdict_status result status).mp ⟨reading, judged⟩, (by rintro _ ⟨⟩), fun _ => ?_⟩
      simpa using rejectIf_ok.mp expected
    | some known =>
      rw [conversation] at read
      obtain ⟨actual, named, read⟩ := bind_ok.mp read
      obtain ⟨_, expected, judged⟩ := bind_ok.mp read
      have same : actual = known := by simpa using rejectIf_ok.mp expected
      refine ⟨(self.verdict_status result status).mp ⟨reading, judged⟩, ?_, (by rintro ⟨⟩)⟩
      rintro _ ⟨⟩
      rw [named, same]
  · rintro ⟨result, status, held, stated, known, named, expected⟩
    obtain ⟨reading, judged⟩ := (self.verdict_status result status).mpr known
    refine ⟨reading, bind_ok.mpr ⟨result, okOr_ok.mpr held, bind_ok.mpr ⟨status, stated, ?_⟩⟩⟩
    cases conversation : self.conversationId with
    | none => exact bind_ok.mpr ⟨(), rejectIf_ok.mpr (by simp [expected conversation]), judged⟩
    | some conversationId =>
      exact bind_ok.mpr ⟨_, named _ conversation, bind_ok.mpr ⟨(), rejectIf_ok.mpr (by simp), judged⟩⟩

theorem collect_eq (self : AgyRunStream) (text : String) :
    self.collect text = self ↔
      (self.finalOutputOverflowed = false → text = "" ∧ byteLength self.finalOutput ≤ maxFinalOutputBytes) := by
  unfold collect
  cases overflowed : self.finalOutputOverflowed with
  | true => exact ⟨fun _ => by rintro ⟨⟩, fun _ => rfl⟩
  | false =>
    rw [if_neg Bool.false_ne_true]
    unfold appendIfWithinLimit
    split_ifs with fits
    · constructor
      · intro same _
        have output : self.finalOutput ++ text = self.finalOutput := congrArg finalOutput same
        have empty : text = "" := by simpa using output
        exact ⟨empty, (Nat.le_add_right _ _).trans fits.2⟩
      · intro nothing
        rw [(nothing rfl).1, String.append_empty]
        dsimp only
        rw [← overflowed]
    · constructor
      · intro same
        rw [← same] at overflowed
        cases overflowed
      · intro nothing
        obtain ⟨rfl, short⟩ := nothing rfl
        exact absurd ⟨short.trans_lt (by decide), short⟩ fits

/-- Collecting a response changes the stream exactly when it adds something, or finds that it cannot. -/
theorem collectResponse_eq (self : AgyRunStream) (update : List (String × Value)) :
    self.collectResponse update = self ↔ ¬ self.Adds update := by
  unfold collectResponse Adds
  by_cases response : textOf update "step_type" = some "agent_response"
  · rw [if_pos (show (field update "step_type").bind Value.asStr = _ from response)]
    cases given : textOf update "text_delta" with
    | none =>
      rw [show (field update "text_delta").bind Value.asStr = none from given]
      simp
    | some text =>
      rw [show (field update "text_delta").bind Value.asStr = some text from given, collect_eq]
      constructor
      · rintro nothing ⟨works, -, _, ⟨⟩, filled | long⟩
        · exact filled (nothing works).1
        · exact Nat.not_lt.mpr (nothing works).2 long
      · intro nothing works
        by_contra something
        refine nothing ⟨works, response, text, rfl, ?_⟩
        rwa [not_and_or, Nat.not_le] at something
  · rw [if_neg (show ¬ (field update "step_type").bind Value.asStr = _ from response)]
    simp [response]

theorem consumeStep_leaves (self : AgyRunStream) (value : Value) :
    self.Leaves (self.consumeStep value) ↔
      ∀ update, (value.get "step_update").bind Value.asObject = some update →
        self.requireMatchingConversation (field update "conversation_id") = .ok () → BadUsage update →
        ¬ self.Adds update := by
  unfold consumeStep
  cases held : (value.get "step_update").bind Value.asObject with
  | none => exact ⟨fun _ _ => by rintro ⟨⟩, fun _ => leaves_refused _⟩
  | some update =>
    dsimp only
    cases matching : self.requireMatchingConversation (field update "conversation_id") with
    | error error =>
      constructor
      · rintro - _ ⟨⟩ impossible
        rw [matching] at impossible
        cases impossible
      · exact fun _ => leaves_refused _
    | ok =>
      unfold BadUsage
      cases used : field update "usage" with
      | none =>
        constructor
        · rintro - _ ⟨⟩ - ⟨usage, _, impossible, -⟩
          rw [used] at impossible
          cases impossible
        · rintro - error ⟨⟩
      | some usage =>
        dsimp only
        cases parsed : parseUsage usage with
        | ok cost =>
          constructor
          · rintro - _ ⟨⟩ - ⟨other, _, same, impossible⟩
            cases used.symm.trans same
            rw [parsed] at impossible
            cases impossible
          · rintro - error ⟨⟩
        | error error =>
          constructor
          · rintro leaves _ ⟨⟩ - -
            exact (self.collectResponse_eq update).mp (leaves error rfl)
          · rintro harmless other -
            exact (self.collectResponse_eq update).mpr (harmless update rfl matching ⟨usage, error, used, parsed⟩)

section Inputs

variable [SerdeJson]

theorem consumeResult_leaves (self : AgyRunStream) (open_ : self.closed = false) (value : Value) (occurredAt : String) :
    self.Leaves (self.consumeResult value occurredAt) ↔ (self.Concludes value → self.Emits occurredAt) := by
  rw [← readResult_concludes]
  unfold consumeResult
  cases self.readResult value with
  | error error =>
    constructor
    · rintro - ⟨reading, ⟨⟩⟩
    · exact fun _ => leaves_refused _
  | ok reading =>
    have changed : { self with closed := true } ≠ self := fun same => by
      rw [← same] at open_
      cases open_
    exact (changed_leaves _ _ _ _ _ changed).trans ⟨fun emits _ => emits, fun emits => emits ⟨reading, rfl⟩⟩

variable [ReadJson]

theorem consumeLine_leaves (self : AgyRunStream) (line occurredAt : String) :
    self.Leaves (self.consumeLine line occurredAt) ↔ self.HarmlessLine line occurredAt := by
  unfold consumeLine HarmlessLine
  cases closed : self.closed with
  | true =>
    rw [if_pos rfl]
    exact ⟨fun _ _ => by rintro ⟨⟩, fun _ => leaves_refused _⟩
  | false =>
    rw [if_neg Bool.false_ne_true]
    cases parsed : ReadJson.fromStr line with
    | none => exact ⟨fun _ _ _ => by rintro ⟨⟩, fun _ => leaves_refused _⟩
    | some value =>
      simp only [true_implies, Option.some.injEq, forall_eq']
      by_cases init : (value.get "event").bind Value.asStr = some "init"
      · simp only [init, if_true, leaves_always, consumeInit_leaves, true_implies, Option.some.injEq, String.reduceEq,
          false_implies, and_true]
      by_cases step : (value.get "event").bind Value.asStr = some "step_update"
      · simp only [step, if_true, if_false, consumeStep_leaves, true_implies, Option.some.injEq, String.reduceEq,
          false_implies, true_and]
      by_cases result : (value.get "event").bind Value.asStr = some "result"
      · simp only [result, if_true, if_false, leaves_always, self.consumeResult_leaves closed, true_implies,
          Option.some.injEq, String.reduceEq, false_implies, true_and, and_true]
      · simp only [init, step, result, if_false, false_implies, and_self, iff_true]
        exact leaves_refused _

/-- An input that is refused leaves the stream as it was, exactly when it is harmless. -/
theorem errors_atomic_iff (self : AgyRunStream) (input : StreamInput) :
    self.Leaves (self.feed input) ↔ self.Harmless input := by
  cases input with
  | recoveryStarted occurredAt =>
    refine leaves_always.trans (iff_of_true ?_ trivial)
    unfold recoveryStarted
    split_ifs
    · exact leaves_refused _
    · exact self.lifecycleWithEvidence_leaves _ _ _ _ _
  | cancellationStarted occurredAt =>
    refine leaves_always.trans (iff_of_true ?_ trivial)
    unfold cancellationStarted
    split_ifs
    · exact leaves_refused _
    · exact self.lifecycleWithEvidence_leaves _ _ _ _ _
  | cancelled occurredAt | timedOut occurredAt | crashed occurredAt =>
    exact leaves_always.trans (self.localTerminal_leaves _ _ _ _ _)
  | consumeLine line occurredAt => exact self.consumeLine_leaves line occurredAt

end Inputs

def leakLine : String :=
  "\x7b\"event\":\"step_update\",\"step_update\":\x7b\"conversation_id\":\"agy_1\"," ++
    "\"step_type\":\"agent_response\",\"text_delta\":\"Hi\",\"usage\":\x7b\x7d\x7d\x7d"

def leakValue : Value :=
  .object [("event", .string "step_update"), ("step_update", .object [("conversation_id", .string "agy_1"),
    ("step_type", .string "agent_response"), ("text_delta", .string "Hi"), ("usage", .object [])])]

/-- The text of a step that is refused for its usage is reported all the same, and a local end without a time closes the
stream without an event. -/
theorem refused_step_leaks :
    let answer := @feed .compact (.single leakLine leakValue) begun (.consumeLine leakLine "now")
    let ended := @feed .compact (.single leakLine leakValue) begun (.cancelled " ")
    answer.1 = .error .protocolDrift ∧ begun.finalOutputText = none ∧ answer.2.finalOutputText = some "Hi" ∧
      ended.1 = .error .protocolDrift ∧ begun.closed = false ∧ ended.2.closed = true ∧
      ¬ begun.Leaves answer := by
  have parsed : (ReadJson.single leakLine leakValue).fromStr leakLine = some leakValue := if_pos rfl
  have drifts : @feed .compact (.single leakLine leakValue) begun (.consumeLine leakLine "now") =
      (.error .protocolDrift, { begun with finalOutput := "Hi" }) := by
    change @consumeLine .compact (.single leakLine leakValue) begun leakLine "now" = _
    unfold consumeLine
    rw [parsed]
    decide +kernel
  refine ⟨by rw [drifts], by decide +kernel, by rw [drifts]; decide +kernel, by decide +kernel, rfl, by decide +kernel, ?_⟩
  intro leaves
  rw [drifts] at leaves
  exact absurd (leaves _ rfl) (by decide +kernel)

end AgyRunStream

end Bastet.Agy
