import Bastet.Adapter.Value
import Bastet.Core.Text
import Mathlib.Tactic.MkIffOfInductiveProp

/-! The conformance suite: scenarios an adapter plays, what is checked of each, and what a passing report tells. -/

set_option autoImplicit false

namespace Bastet.Adapter.Conformance

open Bastet.Core

def secretSentinel : String := "BASTET_CONFORMANCE_SECRET_DO_NOT_LOG"

inductive ConformanceScenario where
  | readOnly
  | write
  | cancel
  | timeout
  | authenticationFailure
  | quotaFailure
  | crash
  | resume
  | redaction
  | costEvidence
  deriving DecidableEq, Repr

def requiredScenarios : List ConformanceScenario :=
  [.readOnly, .write, .cancel, .timeout, .authenticationFailure, .quotaFailure, .crash, .resume, .redaction,
    .costEvidence]

structure ConformanceCase where
  scenario : ConformanceScenario
  runId : RunId
  secretSentinels : List String
  deriving DecidableEq, Repr

structure ConformanceObservation where
  scenario : ConformanceScenario
  events : List NormalizedAdapterEvent
  finalState : NormalizedRunState
  failure : Option AdapterFailure
  writeReceipts : List String
  cost : Option CostEvidence
  deriving DecidableEq, Repr

inductive FindingKind where
  | scenarioMismatch
  | missingCapability
  | invalidFinalState
  | invalidFailure
  | invalidEvent
  | unexpectedWrite
  | missingWriteReceipt
  | secretLeak
  | invalidCostEvidence
  deriving DecidableEq, Repr

structure ConformanceFinding where
  scenario : ConformanceScenario
  kind : FindingKind
  detail : String
  deriving DecidableEq, Repr

structure ScenarioResult where
  scenario : ConformanceScenario
  runId : RunId
  passed : Bool
  findings : List ConformanceFinding
  deriving DecidableEq, Repr

structure ConformanceReport where
  contractVersion : Nat
  adapterKind : String
  capabilities : AdapterCapabilities
  passed : Bool
  results : List ScenarioResult
  deriving DecidableEq, Repr

/-- The bytes `BASTET-M2-CASE!` and the place of the scenario. -/
def requiredRunId (index : Nat) : RunId :=
  ⟨BitVec.ofNat 128 (0x4241535445542d4d322d4341534521 * 256 + index % 256)⟩

def requiredCases : List ConformanceCase :=
  requiredScenarios.zipIdx.map fun (scenario, index) => ⟨scenario, requiredRunId index, [secretSentinel]⟩

theorem requiredCases_distinct : (requiredCases.map (·.runId)).Nodup := by
  decide

/-- A check pushes its finding when it fails. -/
def finding (case : ConformanceCase) (bad : Bool) (kind : FindingKind) (detail : String) : List ConformanceFinding :=
  if bad then [⟨case.scenario, kind, detail⟩] else []

section Checks

variable (case : ConformanceCase) (capabilities : AdapterCapabilities) (observation : ConformanceObservation)

def requireCapability (supported : Bool) : List ConformanceFinding :=
  finding case (!supported) .missingCapability "adapter does not declare the required capability"

def requireOperation (operation : AdapterOperation) : List ConformanceFinding :=
  finding case (operation ∉ capabilities.operations) .missingCapability
    "adapter does not declare the required operation"

def requireState (expected : NormalizedRunState) : List ConformanceFinding :=
  finding case (observation.finalState ≠ expected) .invalidFinalState "adapter returned the wrong final state"

/-- A text that may be absent is not blank. -/
def notBlank (value : Option String) : Bool :=
  value.all fun value => !isBlank value

def failureIsValid (expected : AdapterFailureKind) : Option AdapterFailure → Bool
  | some failure => failure.kind = expected && !isBlank failure.messageKey && notBlank failure.providerCode
  | none => false

def requireFailure (expected : AdapterFailureKind) : List ConformanceFinding :=
  finding case (!failureIsValid expected observation.failure) .invalidFailure
    "adapter returned the wrong normalized failure"

def validCost : Option CostEvidence → Bool
  | none => false
  | some cost =>
    if cost.evidenceClass = .unknown ∨ !cost.confidence.inUnitInterval then false
    else match cost.amount with
      | some amount => amount.isNonnegative && cost.currency.any fun value => !isBlank value
      | none => cost.currency.isNone

variable [ReadJson]

def payloadIsJson (event : NormalizedAdapterEvent) : Bool :=
  (ReadJson.fromStr event.redactedPayloadJson).isSome

omit [ReadJson] in
def metadataIsValid (event : NormalizedAdapterEvent) : Bool :=
  !isBlank event.eventType && !isBlank event.occurredAt && event.evidenceClass ≠ .unknown &&
    notBlank event.providerEventId

def eventIsValid (sequences : List Nat) (previous : Option Nat) (event : NormalizedAdapterEvent) : Bool :=
  let sequenceIsValid := previous.all (event.sequence > ·) && event.sequence ∉ sequences
  event.contractVersion = agentAdapterContractVersion && event.runId = case.runId && sequenceIsValid &&
    payloadIsJson event && metadataIsValid event

/-- The loop over the events, which stops at the first that is not valid. -/
def eventsAreValid : List NormalizedAdapterEvent → List Nat → Option Nat → Bool
  | [], _, _ => true
  | event :: rest, sequences, previous =>
    eventIsValid case sequences previous event &&
      eventsAreValid rest (event.sequence :: sequences) (some event.sequence)

def validateEvents : List ConformanceFinding :=
  if observation.events = [] then
    finding case true .invalidEvent "at least one normalized event is required"
  else
    finding case (!eventsAreValid case observation.events [] none) .invalidEvent
      "event version, run identity, sequence, evidence, metadata, or JSON payload is invalid" ++
    finding case (observation.events.getLast?.map (·.state) ≠ some observation.finalState) .invalidEvent
      "last event state must match final state"

end Checks

section Scan

variable (case : ConformanceCase) (capabilities : AdapterCapabilities) (observation : ConformanceObservation)

/-- The texts the scan for secrets reads. -/
def ConformanceObservation.scanned : List String :=
  observation.events.map (·.redactedPayloadJson) ++
    (observation.failure.bind (·.redactedDetail)).toList ++ observation.writeReceipts

def leaks (value : String) : Bool :=
  case.secretSentinels.any fun secret => containsText value secret

/-- The scan stops at the first leak. -/
def validateSecrets : List ConformanceFinding :=
  finding case (observation.scanned.any (leaks case)) .secretLeak "secret sentinel appeared in adapter evidence"

def validateScenario : List ConformanceFinding :=
  match case.scenario with
  | .readOnly =>
    requireOperation case capabilities .start ++
    requireCapability case capabilities.supportsReadOnly ++
    requireState case observation .succeeded ++
    finding case (observation.writeReceipts ≠ []) .unexpectedWrite "read-only scenario emitted a write receipt"
  | .write =>
    requireOperation case capabilities .start ++
    requireCapability case capabilities.supportsWrite ++
    requireState case observation .succeeded ++
    finding case (observation.writeReceipts = [] ∨ observation.writeReceipts.any isBlank) .missingWriteReceipt
      "write scenario requires an evidence receipt"
  | .cancel =>
    requireOperation case capabilities .cancel ++
    requireState case observation .cancelled ++
    requireFailure case observation .cancelled ++
    finding case (!observation.events.any fun event => event.state = .cancelling) .invalidFinalState
      "cancel scenario never entered cancelling"
  | .timeout =>
    requireOperation case capabilities .start ++
    requireState case observation .failed ++
    requireFailure case observation .timeout
  | .authenticationFailure =>
    requireOperation case capabilities .authenticate ++
    requireState case observation .failed ++
    requireFailure case observation .authentication
  | .quotaFailure =>
    requireOperation case capabilities .start ++
    requireState case observation .failed ++
    requireFailure case observation .quota
  | .crash =>
    requireOperation case capabilities .start ++
    requireState case observation .uncertain ++
    requireFailure case observation .crashed
  | .resume =>
    requireOperation case capabilities .attach ++
    requireCapability case capabilities.supportsResume ++
    requireState case observation .succeeded ++
    finding case (!observation.events.any fun event => event.state = .recovering) .invalidFinalState
      "resume scenario never entered recovering"
  | .redaction =>
    requireOperation case capabilities .start ++
    requireState case observation .succeeded
  | .costEvidence =>
    requireOperation case capabilities .exportUsage ++
    requireState case observation .succeeded ++
    finding case (!validCost observation.cost) .invalidCostEvidence
      "cost evidence is missing, unknown, inconsistent, or outside confidence range"

def validateObservation [ReadJson] : ScenarioResult :=
  let findings :=
    finding case (observation.scenario ≠ case.scenario) .scenarioMismatch "adapter returned a different scenario" ++
    requireCapability case capabilities.supportsStructuredEvents ++
    validateEvents case observation ++
    validateSecrets case observation ++
    validateScenario case capabilities observation
  { scenario := case.scenario, runId := case.runId, passed := findings.isEmpty, findings }

end Scan

/-- An adapter under test; running a case may change its state. -/
structure ConformanceAdapter (σ : Type) where
  adapterKind : σ → String
  capabilities : σ → AdapterCapabilities
  runCase : σ → ConformanceCase → ConformanceObservation × σ

section Suite

variable {σ : Type} (adapter : ConformanceAdapter σ) [ReadJson]

/-- The cases one after the other, each with what the adapter showed of it. -/
def runCases : σ → List ConformanceCase → List (ConformanceCase × ConformanceObservation)
  | _, [] => []
  | state, case :: rest =>
    let (observation, next) := adapter.runCase state case
    (case, observation) :: runCases next rest

def runRequiredSuite (state : σ) : ConformanceReport :=
  let capabilities := adapter.capabilities state
  let results := (runCases adapter state requiredCases).map fun (case, observation) =>
    validateObservation case capabilities observation
  { contractVersion := agentAdapterContractVersion, adapterKind := adapter.adapterKind state, capabilities
    passed := results.all (·.passed), results }

end Suite

/-! What the scenarios ask, and the observations that give it. -/

namespace ConformanceScenario

def operation : ConformanceScenario → AdapterOperation
  | .cancel => .cancel
  | .authenticationFailure => .authenticate
  | .resume => .attach
  | .costEvidence => .exportUsage
  | _ => .start

def capability (capabilities : AdapterCapabilities) : ConformanceScenario → Bool
  | .readOnly => capabilities.supportsReadOnly
  | .write => capabilities.supportsWrite
  | .resume => capabilities.supportsResume
  | _ => true

def finalState : ConformanceScenario → NormalizedRunState
  | .cancel => .cancelled
  | .timeout | .authenticationFailure | .quotaFailure => .failed
  | .crash => .uncertain
  | _ => .succeeded

def failureKind : ConformanceScenario → Option AdapterFailureKind
  | .cancel => some .cancelled
  | .timeout => some .timeout
  | .authenticationFailure => some .authentication
  | .quotaFailure => some .quota
  | .crash => some .crashed
  | _ => none

/-- The receipts, states or cost a scenario is about. -/
def Evident (observation : ConformanceObservation) : ConformanceScenario → Prop
  | .readOnly => observation.writeReceipts = []
  | .write => observation.writeReceipts ≠ [] ∧ ∀ receipt ∈ observation.writeReceipts, isBlank receipt = false
  | .cancel => ∃ event ∈ observation.events, event.state = .cancelling
  | .resume => ∃ event ∈ observation.events, event.state = .recovering
  | .costEvidence => validCost observation.cost = true
  | _ => True

end ConformanceScenario

section Meaning

variable (case : ConformanceCase) (capabilities : AdapterCapabilities) (observation : ConformanceObservation)

/-- The observation gives what its scenario asks. -/
@[mk_iff]
structure Plays : Prop where
  declared : case.scenario.operation ∈ capabilities.operations
  capable : case.scenario.capability capabilities = true
  ends : observation.finalState = case.scenario.finalState
  failure : ∀ kind ∈ case.scenario.failureKind, failureIsValid kind observation.failure = true
  evident : case.scenario.Evident observation

variable {case capabilities observation}

@[simp] theorem finding_nil {bad : Bool} {kind : FindingKind} {detail : String} :
    finding case bad kind detail = [] ↔ bad = false := by
  cases bad <;> simp [finding]

theorem requireCapability_nil {supported : Bool} : requireCapability case supported = [] ↔ supported = true := by
  simp [requireCapability]

theorem requireOperation_nil {operation : AdapterOperation} :
    requireOperation case capabilities operation = [] ↔ operation ∈ capabilities.operations := by
  simp [requireOperation]

theorem requireState_nil {expected : NormalizedRunState} :
    requireState case observation expected = [] ↔ observation.finalState = expected := by
  simp [requireState]

theorem requireFailure_nil {expected : AdapterFailureKind} :
    requireFailure case observation expected = [] ↔ failureIsValid expected observation.failure = true := by
  simp [requireFailure]

theorem validateScenario_nil :
    validateScenario case capabilities observation = [] ↔ Plays case capabilities observation := by
  obtain ⟨scenario, runId, secrets⟩ := case
  rw [plays_iff]
  cases scenario <;>
    simp [validateScenario, requireCapability_nil, requireOperation_nil, requireState_nil, requireFailure_nil,
      ConformanceScenario.operation, ConformanceScenario.capability, ConformanceScenario.finalState,
      ConformanceScenario.failureKind, ConformanceScenario.Evident]

variable [ReadJson]

@[mk_iff]
structure WellFormed (case : ConformanceCase) (event : NormalizedAdapterEvent) : Prop where
  version : event.contractVersion = agentAdapterContractVersion
  run : event.runId = case.runId
  payload : payloadIsJson event = true
  metadata : metadataIsValid event = true

/-- What the loop over the events has still to find, when it has seen these sequences and `previous` is the last. -/
theorem eventsAreValid_iff {events : List NormalizedAdapterEvent} {sequences : List Nat} {previous : Option Nat}
    (seen : ∀ sequence ∈ sequences, ∃ last, previous = some last ∧ sequence ≤ last) :
    eventsAreValid case events sequences previous = true ↔
      (∀ event ∈ events, WellFormed case event) ∧
        (∀ last ∈ previous, ∀ event ∈ events, last < event.sequence) ∧
          events.Pairwise fun first second => first.sequence < second.sequence := by
  induction events generalizing sequences previous with
  | nil => simp [eventsAreValid]
  | cons event rest ih =>
    have grown : ∀ sequence ∈ event.sequence :: sequences,
        (∀ last ∈ previous, last < event.sequence) → ∃ last, some event.sequence = some last ∧ sequence ≤ last := by
      intro sequence member after
      refine ⟨event.sequence, rfl, ?_⟩
      rcases List.mem_cons.mp member with same | earlier
      · exact same.le
      · obtain ⟨last, latest, bound⟩ := seen sequence earlier
        exact bound.trans (after last latest).le
    have fresh : (∀ last ∈ previous, last < event.sequence) → event.sequence ∉ sequences := by
      intro after member
      obtain ⟨last, latest, bound⟩ := seen event.sequence member
      exact absurd (after last latest) (Nat.not_lt.mpr bound)
    have first : eventIsValid case sequences previous event = true ↔
        WellFormed case event ∧ ∀ last ∈ previous, last < event.sequence := by
      simp only [eventIsValid, wellFormed_iff, Bool.and_eq_true, decide_eq_true_eq, Option.all_eq_true]
      constructor
      · rintro ⟨⟨⟨⟨version, run⟩, after, _⟩, payload⟩, metadata⟩
        exact ⟨⟨version, run, payload, metadata⟩, after⟩
      · rintro ⟨⟨version, run, payload, metadata⟩, after⟩
        exact ⟨⟨⟨⟨version, run⟩, after, fresh after⟩, payload⟩, metadata⟩
    rw [eventsAreValid, Bool.and_eq_true, first]
    constructor
    · rintro ⟨⟨valid, after⟩, later⟩
      obtain ⟨each, above, ordered⟩ := (ih fun sequence member => grown sequence member after).mp later
      have next : ∀ other ∈ rest, event.sequence < other.sequence := above event.sequence rfl
      refine ⟨List.forall_mem_cons.mpr ⟨valid, each⟩, ?_, List.pairwise_cons.mpr ⟨next, ordered⟩⟩
      intro last latest other member
      rcases List.mem_cons.mp member with rfl | member
      · exact after last latest
      · exact (after last latest).trans (next other member)
    · rintro ⟨each, above, ordered⟩
      obtain ⟨valid, each⟩ := List.forall_mem_cons.mp each
      obtain ⟨next, ordered⟩ := List.pairwise_cons.mp ordered
      have after : ∀ last ∈ previous, last < event.sequence :=
        fun last latest => above last latest event List.mem_cons_self
      refine ⟨⟨valid, after⟩, (ih fun sequence member => grown sequence member after).mpr ⟨each, ?_, ordered⟩⟩
      rintro last ⟨⟩ other member
      exact next other member

variable (case capabilities observation)

/-- The observation is what its scenario asks, reported in events that are in order. -/
@[mk_iff]
structure Conforms : Prop where
  scenario : observation.scenario = case.scenario
  structured : capabilities.supportsStructuredEvents = true
  reported : observation.events ≠ []
  wellFormed : ∀ event ∈ observation.events, WellFormed case event
  ordered : observation.events.Pairwise fun first second => first.sequence < second.sequence
  last : observation.events.getLast?.map (·.state) = some observation.finalState
  plays : Plays case capabilities observation

/-- No secret of the case occurs in any of these texts. -/
def Redacted (texts : List String) : Prop :=
  ∀ text ∈ texts, ∀ secret ∈ case.secretSentinels, containsText text secret = false

variable {case capabilities observation}

theorem validateEvents_nil :
    validateEvents case observation = [] ↔
      observation.events ≠ [] ∧ (∀ event ∈ observation.events, WellFormed case event) ∧
        observation.events.Pairwise (fun first second => first.sequence < second.sequence) ∧
          observation.events.getLast?.map (·.state) = some observation.finalState := by
  have each : eventsAreValid case observation.events [] none = true ↔ _ := eventsAreValid_iff (by simp)
  unfold validateEvents
  by_cases none : observation.events = []
  · simp [none]
  · rw [if_neg none]
    simp [none, each, and_assoc]

omit [ReadJson] in
theorem validateSecrets_nil : validateSecrets case observation = [] ↔ Redacted case observation.scanned := by
  simp only [validateSecrets, finding_nil, leaks, List.any_eq_false, Redacted, Bool.not_eq_true]

/-- A scenario passes exactly when it conforms and the scan finds no secret. -/
theorem passed_iff :
    (validateObservation case capabilities observation).passed = true ↔
      Conforms case capabilities observation ∧ Redacted case observation.scanned := by
  simp only [validateObservation, List.isEmpty_iff, List.append_eq_nil_iff, finding_nil, requireCapability_nil,
    validateEvents_nil, validateSecrets_nil, validateScenario_nil, conforms_iff, decide_eq_false_iff_not, not_not]
  tauto

/-! The texts of an observation that the adapter chose. -/

namespace ConformanceObservation

variable (observation : ConformanceObservation)

def texts : List String :=
  observation.events.flatMap (fun event =>
    [event.eventType, event.occurredAt] ++ event.providerEventId.toList ++ [event.redactedPayloadJson]) ++
  observation.failure.toList.flatMap (fun failure =>
    [failure.messageKey] ++ failure.providerCode.toList ++ failure.redactedDetail.toList) ++
  observation.writeReceipts ++ (observation.cost.bind (·.currency)).toList

/-- Those the scan passes over. -/
def unscanned : List String :=
  observation.events.flatMap (fun event => [event.eventType, event.occurredAt] ++ event.providerEventId.toList) ++
  observation.failure.toList.flatMap (fun failure => [failure.messageKey] ++ failure.providerCode.toList) ++
  (observation.cost.bind (·.currency)).toList

omit [ReadJson] in
theorem mem_texts {observation : ConformanceObservation} {text : String} :
    text ∈ observation.texts ↔ text ∈ observation.scanned ∨ text ∈ observation.unscanned := by
  obtain ⟨scenario, events, finalState, failure, receipts, cost⟩ := observation
  have parts : text ∈ events.flatMap (fun event =>
        [event.eventType, event.occurredAt] ++ event.providerEventId.toList ++ [event.redactedPayloadJson]) ↔
      text ∈ events.map (·.redactedPayloadJson) ∨
        text ∈ events.flatMap fun event => [event.eventType, event.occurredAt] ++ event.providerEventId.toList := by
    simp only [List.mem_flatMap, List.mem_append, List.mem_map, List.mem_singleton, ← exists_or, ← and_or_left]
    refine exists_congr fun event => and_congr_right fun _ => ?_
    rw [or_comm, @eq_comm _ text]
  simp only [texts, scanned, unscanned, List.mem_append, parts]
  cases failure with
  | none => simp only [Option.bind_none, Option.toList_none, List.flatMap_nil, List.not_mem_nil]; tauto
  | some failure =>
    simp only [Option.bind_some, Option.toList_some, List.flatMap_cons, List.flatMap_nil, List.append_nil, List.mem_append]
    tauto

end ConformanceObservation

/-- A secret in one of the texts the scan passes over, and nothing else to find. -/
structure LeaksUnseen (case : ConformanceCase) (capabilities : AdapterCapabilities)
    (observation : ConformanceObservation) : Prop where
  conforms : Conforms case capabilities observation
  scanned : Redacted case observation.scanned
  unseen : ¬Redacted case observation.unscanned

omit [ReadJson] in
theorem redacted_texts :
    Redacted case observation.texts ↔ Redacted case observation.scanned ∧ Redacted case observation.unscanned := by
  simp only [Redacted, ConformanceObservation.mem_texts, or_imp, forall_and]

/-- A passing scenario shows no secret unless one is in a text the scan passes over. -/
theorem passed_redacts (case : ConformanceCase) (capabilities : AdapterCapabilities)
    (observation : ConformanceObservation) :
    ((validateObservation case capabilities observation).passed = true → Redacted case observation.texts) ↔
      ¬LeaksUnseen case capabilities observation := by
  rw [passed_iff, redacted_texts]
  constructor
  · rintro sound ⟨conforms, scanned, unseen⟩
    exact unseen (sound ⟨conforms, scanned⟩).2
  · rintro seen ⟨conforms, scanned⟩
    refine ⟨scanned, ?_⟩
    by_contra unseen
    exact seen ⟨conforms, scanned, unseen⟩

/-- The secret of the case as the type of its only event. -/
def leakingObservation : ConformanceObservation where
  scenario := .redaction
  events := [{
    contractVersion := 1, runId := requiredRunId 8, sequence := 1, state := .succeeded, eventType := secretSentinel
    occurredAt := "2026-09-03T00:00:00Z", evidenceClass := .locallyMeasured, providerEventId := none
    redactedPayloadJson := "\x7b\x7d" }]
  finalState := .succeeded
  failure := none
  writeReceipts := []
  cost := none

abbrev emptyObject : ReadJson where
  fromStr text := if text = "\x7b\x7d" then some (.object []) else none

omit [ReadJson] in
theorem leaking_passes :
    ⟨.redaction, requiredRunId 8, [secretSentinel]⟩ ∈ requiredCases ∧
      (@validateObservation ⟨.redaction, requiredRunId 8, [secretSentinel]⟩ ⟨[.start], [], true, true, true, true⟩
        leakingObservation emptyObject).passed = true ∧
      secretSentinel ∈ leakingObservation.texts ∧ containsText secretSentinel secretSentinel = true := by
  refine ⟨by decide, ?_, by simp [leakingObservation, ConformanceObservation.texts], by simp [containsText]⟩
  decide +kernel

section Suite

variable {σ : Type} (adapter : ConformanceAdapter σ)

omit [ReadJson] in
theorem runCases_cases (state : σ) (cases : List ConformanceCase) :
    (runCases adapter state cases).map Prod.fst = cases := by
  induction cases generalizing state with
  | nil => rfl
  | cons case rest ih => exact congrArg (case :: ·) (ih _)

/-- A suite passes when every case it played conforms, and the scan finds no secret in any. -/
theorem runRequiredSuite_passed (state : σ) :
    (runRequiredSuite adapter state).passed = true ↔
      ∀ played ∈ runCases adapter state requiredCases,
        Conforms played.1 (adapter.capabilities state) played.2 ∧ Redacted played.1 played.2.scanned := by
  simp only [runRequiredSuite, List.all_map, List.all_eq_true, Function.comp_apply, passed_iff]

end Suite

end Meaning

end Bastet.Adapter.Conformance
