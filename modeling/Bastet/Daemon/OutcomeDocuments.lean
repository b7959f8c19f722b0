import Bastet.Daemon.ExpiryProgress
import Bastet.Daemon.ProviderExecutor
import Bastet.Daemon.Verdicts

/-! What the documents ask of the command that ends a run: its text fits, its cost can be recorded, its session has
a name, and the stored documents stay consistent. -/

set_option autoImplicit false

namespace Bastet.Core

/-- What a cost has to be for the ledger of costs. -/
def CostEvidence.recordable (self : CostEvidence) : Bool :=
  self.confidence.inUnitInterval && (self.amount.all fun amount => amount.isFinite && !amount.isNegative) &&
    !(decide (self.evidenceClass = .unknown) &&
      (self.amount.isSome || self.inputTokens.isSome || self.outputTokens.isSome))

end Bastet.Core

namespace Bastet.Daemon

open Fallible Bastet.Core Lookup

section Outcomes

namespace ProviderOutcome

/-- What the store accepts of an outcome: a text that fits, a success with its text and without a failure, a session
with a name, and a recordable cost. -/
def recordable (self : ProviderOutcome) : Bool :=
  self.outputMarkdown.all outputFits &&
    !(decide (self.terminalState = .succeeded) && (self.outputMarkdown.isNone || self.failure.isSome)) &&
    (self.providerSessionId.all fun name => !isBlank name) && self.cost.recordable

/-- What is left of an outcome when the selection of its run is not trusted. -/
def withheld : ProviderOutcome :=
  ⟨.uncertain, none, ⟨.unknown, none, none, none, none, .finite 0⟩, none,
    some ⟨.unknown, "mvp.failure.unknown", false, none, none⟩⟩

theorem withheld_recordable : withheld.recordable = true := by decide

/-- What the command that records an outcome is told of it. -/
def told (distrusted : Bool) (self : ProviderOutcome) : ProviderOutcome :=
  if distrusted then withheld else self.withoutStrayOutput

theorem recordable_iff {outcome : ProviderOutcome} : outcome.recordable = true ↔
    outcome.outputMarkdown.all outputFits = true ∧
      (outcome.terminalState = .succeeded → outcome.outputMarkdown.isSome = true ∧ outcome.failure = none) ∧
      (∀ spoken, outcome.providerSessionId = some spoken → isBlank spoken = false) ∧ outcome.cost.recordable = true := by
  rcases outcome with ⟨state, session, cost, output, failure⟩
  simp only [recordable, Bool.and_eq_true, Bool.not_eq_true', Bool.and_eq_false_iff, decide_eq_false_iff_not,
    Bool.or_eq_false_iff, Option.isNone_eq_false_iff, Option.isSome_eq_false_iff, Option.isNone_iff_eq_none,
    Option.all_eq_true, and_assoc]
  constructor
  · rintro ⟨fits, success, named, cost⟩
    exact ⟨fits, fun succeeded => success.resolve_left fun apart => apart succeeded, named, cost⟩
  · rintro ⟨fits, success, named, cost⟩
    refine ⟨fits, ?_, named, cost⟩
    by_cases succeeded : state = .succeeded
    · exact .inr (success succeeded)
    · exact .inl succeeded

theorem told_terminal {distrusted : Bool} {outcome : ProviderOutcome} (terminal : outcome.terminalState.isTerminal = true) :
    (outcome.told distrusted).terminalState.isTerminal = true := by
  cases distrusted
  · exact (congrArg NormalizedRunState.isTerminal outcome.withoutStrayOutput_terminalState).trans terminal
  · rfl

theorem told_strayless {distrusted : Bool} {outcome : ProviderOutcome}
    (left : (outcome.told distrusted).outputMarkdown.isSome = true) :
    (outcome.told distrusted).terminalState = .succeeded ∨ (outcome.told distrusted).terminalState = .failed := by
  cases distrusted
  · rw [told, if_neg Bool.false_ne_true, withoutStrayOutput] at left ⊢
    split
    · assumption
    · rename_i other
      rw [if_neg other] at left
      cases left
  · cases left

end ProviderOutcome

/-- The same of what a provider reports. A success without a text is recorded as a failure without one, but a
blank text stays. -/
def reportRecordable (state : NormalizedRunState) (providerSessionId : Option String) (cost : CostEvidence)
    (output : Option String) (failure : Option AdapterFailure) : Bool :=
  (!(decide (state = .succeeded) || decide (state = .failed)) || output.all outputFits) &&
    !(decide (state = .succeeded) && output.isSome && failure.isSome) &&
    (providerSessionId.all fun name => !isBlank name) && cost.recordable

theorem outputFits_blank {markdown : String} (blank : isBlank markdown = true) : outputFits markdown = false := by
  rw [outputFits, blank]
  rfl

theorem outcome_recordable {state : NormalizedRunState} {providerSessionId : Option String} {cost : CostEvidence}
    {output : Option String} {failure : Option AdapterFailure} :
    (ProviderOutcome.outcome state providerSessionId cost output failure).withoutStrayOutput.recordable =
      reportRecordable state providerSessionId cost output failure := by
  unfold ProviderOutcome.outcome ProviderOutcome.withoutStrayOutput reportRecordable ProviderOutcome.recordable
  by_cases succeeded : state = .succeeded
  · subst succeeded
    cases output with
    | none => simp
    | some markdown =>
      cases blank : isBlank markdown with
      | true => simp [blank, outputFits_blank blank]
      | false => simp [blank]
  · by_cases failed : state = .failed
    · simp [failed]
    · simp [succeeded, failed]

end Outcomes

section Selections

variable {db : Database} {session : Session} {run : Run}

/-- Every part of an attribution has a name. -/
structure Attribution.Named (origin : Attribution) : Prop where
  provider : isBlank origin.provider = false
  account : isBlank origin.account = false
  model : isBlank origin.model = false
  source : isBlank origin.source = false

/-- The recorded selection of a run is malformed, and what its provider reports is withheld. -/
def selectionDistrusted (db : Database) (session : Session) (run : Run) : Bool :=
  match trustedSelection db session run with
  | .ok (_, malformed) => malformed
  | .error _ => false

theorem trustedSelection_total {row : NodeRunRow} (found : db.nodeRuns.find? run.metadata.id = some row) :
    ∃ selected, trustedSelection db session run = .ok (selected, selectionDistrusted db session run) := by
  obtain ⟨result, trusted⟩ : ∃ result, trustedSelection db session run = .ok result := by
    cases selection : row.launchIdentity with
    | absent =>
      have loaded : loadLaunchIdentity db run.metadata.id = .ok none := by
        simp only [loadLaunchIdentity, found, required, okOr, ok_bind, selection]
        rfl
      exact ⟨(none, false), by rw [trustedSelection, loaded]⟩
    | malformed =>
      have loaded : loadLaunchIdentity db run.metadata.id = .error (.error .serialization) := by
        simp only [loadLaunchIdentity, found, required, okOr, ok_bind, selection]
      exact ⟨(none, true), by rw [trustedSelection, loaded]⟩
    | recorded selected =>
      have loaded : loadLaunchIdentity db run.metadata.id = .ok (some selected) := by
        simp only [loadLaunchIdentity, found, required, okOr, ok_bind, selection]
        rfl
      rw [trustedSelection, loaded]
      cases malformed : selectionMalformed selected session run with
      | true => exact ⟨_, if_pos malformed⟩
      | false => exact ⟨_, if_neg (Bool.eq_false_iff.mp malformed)⟩
  exact ⟨result.1, by rw [selectionDistrusted, trusted]⟩

/-- A trusted selection names what the costs are attributed to. -/
theorem trustedSelection_named {selected : Option ProviderLaunchIdentity} {malformed : Bool}
    (trusted : trustedSelection db session run = .ok (selected, malformed)) : (attribution selected malformed).Named := by
  have unknown : isBlank "unknown" = false := by decide
  cases selected with
  | none =>
    refine ⟨unknown, unknown, unknown, ?_⟩
    cases malformed <;> decide +kernel
  | some selected =>
    have checked : selectionMalformed selected session run = false := by
      unfold trustedSelection at trusted
      split at trusted
      · split at trusted
        · cases trusted
        · cases trusted
          exact Bool.eq_false_of_not_eq_true ‹_›
      · cases trusted
      · cases trusted
      · cases trusted
    simp only [selectionMalformed, Bool.or_eq_false_iff] at checked
    obtain ⟨⟨⟨_, adapter⟩, model⟩, account⟩ := checked
    have source : isBlank "adapter normalized cost event; selected account is not provider-authenticated" = false := by
      decide +kernel
    refine ⟨adapter, ?_, model, source⟩
    cases known : selected.account with
    | none =>
      show isBlank ((selected.account.map (·.providerIdentity)).getD "unknown") = false
      rw [known]
      exact unknown
    | some chosen =>
      rw [known, Option.any_some, Bool.or_eq_false_iff] at account
      show isBlank ((selected.account.map (·.providerIdentity)).getD "unknown") = false
      rw [known]
      exact account.1

/-- The cost record of a run is valid exactly when the reported cost is recordable. -/
theorem costRecord_invalid {origin : Attribution} (named : origin.Named) (now : Nat) (id : CostRecordId)
    (command : FinishGraphNodeRunCommand) (projectId : ProjectId) :
    DeliverableCatalog.costInvalid (costRecord now id command projectId origin) = !command.cost.recordable := by
  have reconciled : isBlank (if command.terminalState = .uncertain then "uncertain" else "observed") = false := by
    split <;> decide
  simp only [DeliverableCatalog.costInvalid, costRecord, CostEvidence.recordable, named.provider, named.account,
    named.model, named.source, reconciled, Bool.false_or]
  rw [Bool.not_and, Bool.not_and, Bool.not_not]
  congr 2
  cases command.cost.amount with
  | none => rfl
  | some amount => simp

end Selections

section Catalogs

variable {catalog next : IdentityCatalog} {run : Run} {session : Session} {state : NormalizedRunState}
  {name : Option String} {now : Nat}

/-- A catalog stays valid when a session gets a name. -/
theorem validate_nameSession {named : String} (valid : catalog.validate = .ok ()) (spoken : isBlank named = false)
    (sessionId : SessionId) (now : Nat) :
    (catalog.updateSession sessionId (Session.name named (timestamp now))).validate = .ok () := by
  have kept : ∀ session, (Session.name named (timestamp now) session).metadata.id = session.metadata.id := fun _ => rfl
  have ids : (catalog.updateSession sessionId (Session.name named (timestamp now))).sessions.map (·.metadata.id.value) =
      catalog.sessions.map (·.metadata.id.value) := by
    simp only [IdentityCatalog.updateSession]
    exact map_modifyFirst (fun session => by rw [kept]) catalog.sessions
  have known : ∀ wanted : SessionId, ((catalog.updateSession sessionId
      (Session.name named (timestamp now))).sessions.any fun item => item.metadata.id = wanted) =
      catalog.sessions.any fun item => item.metadata.id = wanted := by
    intro wanted
    have one : ∀ sessions : List Session, (sessions.any fun item => item.metadata.id = wanted) =
        (sessions.map (·.metadata.id)).any fun id => id = wanted := fun sessions => by rw [List.any_map]; rfl
    have same : (catalog.updateSession sessionId (Session.name named (timestamp now))).sessions.map (·.metadata.id) =
        catalog.sessions.map (·.metadata.id) := map_modifyFirst kept catalog.sessions
    rw [one, one, same]
  have checkedRun : ∀ run, (catalog.updateSession sessionId (Session.name named (timestamp now))).validateRun run =
      catalog.validateRun run := by
    intro run
    rw [IdentityCatalog.validateRun, IdentityCatalog.validateRun, known]
    rfl
  simp only [IdentityCatalog.validate, IdentityCatalog.validateRequiredFields, bind_ok, exists_unit, forEach_ok, ids,
    checkedRun] at valid ⊢
  obtain ⟨references, agents, models, accounts, items, instances, projects, roles, sessions, runs, ⟨providers, model,
    account, item, agent, project, role, spokenSessions, runFields, reference⟩, validAccounts, validModels, validAgents,
    validSessions, validRuns⟩ := valid
  refine ⟨references, agents, models, accounts, items, instances, projects, roles, sessions, runs, ⟨providers, model,
    account, item, agent, project, role, fun session member => ?_, runFields, reference⟩, validAccounts, validModels,
    validAgents, fun session member => ?_, validRuns⟩
  · rcases mem_modifyFirst member with old | ⟨old, inside, _, rfl⟩
    · exact spokenSessions session old
    · have before := (spokenSessions old inside).1
      simp only [validateMetadata, nonempty, bind_ok, exists_unit, rejectIf_ok] at before ⊢
      exact ⟨⟨before.1, timestamp_nonblank _, before.2.2⟩, rejectIf_ok.mpr spoken⟩
  · rcases mem_modifyFirst member with old | ⟨old, inside, _, rfl⟩
    · exact validSessions session old
    · exact validSessions old inside

/-- A catalog stays valid when a run ends that has started. -/
theorem validate_endRun (valid : catalog.validate = .ok ()) (found : catalog.run? run.metadata.id = some run)
    (started : run.startedAt.isSome = true) (now : Nat) :
    (catalog.updateRun run.metadata.id (endRun state (timestamp now))).validate = .ok () := by
  have distinct := IdentityCatalog.validate_runs_distinct valid
  refine validate_updateRun valid (fun _ => rfl) fun other member same => ?_
  have located : catalog.run? run.metadata.id = some other := same ▸ find_of_mem distinct member
  obtain rfl := Option.some.inj (found.symm.trans located)
  simp only [IdentityCatalog.validate, IdentityCatalog.validateRequiredFields, bind_ok, exists_unit, forEach_ok]
    at valid
  obtain ⟨_, _, _, _, _, _, _, _, _, _, ⟨_, _, _, _, _, _, _, _, metadata, _⟩, _, _, _, _, runs⟩ := valid
  have named := metadata run member
  have placed := runs run member
  simp only [validateMetadata, nonempty, bind_ok, exists_unit, rejectIf_ok] at named
  simp only [IdentityCatalog.validateRun, bind_ok, exists_unit] at placed
  constructor
  · simp only [validateMetadata, nonempty, bind_ok, exists_unit, rejectIf_ok]
    exact ⟨named.1, timestamp_nonblank _, named.2.2⟩
  · simp only [IdentityCatalog.validateRun, bind_ok, exists_unit]
    refine ⟨placed.1, placed.2.1, ?_⟩
    have begun : run.startedAt.isNone = false := Option.isNone_eq_false_iff.mpr started
    refine rejectIf_ok.mpr ?_
    show ((state.needsStart && run.startedAt.isNone) || (state.needsFinish && false)) = false
    rw [begun, Bool.and_false, Bool.and_false, Bool.false_or]

/-- The end of a run and the name of its session can be written into a catalog with room for their revisions. -/
theorem finishedCatalog_iff : (∃ next, finishedCatalog catalog now run session state name = .ok next) ↔
    run.metadata.revision + 1 < 2 ^ 64 ∧
      ∀ spoken, name = some spoken → isBlank spoken = false ∧ session.metadata.revision + 1 < 2 ^ 64 := by
  cases name with
  | none => simp [finishedCatalog]
  | some spoken => simp [finishedCatalog]

theorem finishedCatalog_valid (made : finishedCatalog catalog now run session state name = .ok next)
    (valid : catalog.validate = .ok ()) (found : catalog.run? run.metadata.id = some run)
    (started : run.startedAt.isSome = true) : next.validate = .ok () := by
  have ended : (catalog.updateRun run.metadata.id (endRun state (timestamp now))).validate = .ok () :=
    validate_endRun valid found started now
  simp only [finishedCatalog, bind_ok] at made
  obtain ⟨_, _, made⟩ := made
  cases name with
  | none => exact pure_ok.mp made ▸ ended
  | some spoken =>
    simp only [bind_ok, exists_unit, reject_ok, pure_ok] at made
    obtain ⟨nonblank, _, _, rfl⟩ := made
    exact validate_nameSession ended nonblank session.metadata.id now

/-- Only sessions and runs are written, and the runs keep their ids. -/
theorem finishedCatalog_kept (made : finishedCatalog catalog now run session state name = .ok next) :
    next = { catalog with sessions := next.sessions, runs := next.runs } ∧
      next.runs.map (·.metadata.id) = catalog.runs.map (·.metadata.id) := by
  have kept : ∀ run, (endRun state (timestamp now) run).metadata.id = run.metadata.id := fun _ => rfl
  simp only [finishedCatalog, bind_ok] at made
  obtain ⟨_, _, made⟩ := made
  cases name with
  | none =>
    obtain rfl := pure_ok.mp made
    exact ⟨rfl, map_modifyFirst kept catalog.runs⟩
  | some spoken =>
    simp only [bind_ok, exists_unit, pure_ok] at made
    obtain ⟨_, _, _, rfl⟩ := made
    exact ⟨rfl, map_modifyFirst kept catalog.runs⟩

end Catalogs

section Documents

variable [Sha256] {m3 : M3Catalog} {record : CostLedgerRecord} {executions : List GraphExecution}
  {identity : IdentityCatalog}

/-- What a cost record names is stored. -/
structure CostPlaced (identity : IdentityCatalog) (executions : List GraphExecution) (record : CostLedgerRecord) :
    Prop where
  project : record.projectId ∈ identity.projects.map (·.metadata.id)
  run : record.runId ∈ identity.runs.map (·.metadata.id)
  node : record.nodeId ∈ executions.flatMap fun execution => execution.graph.nodes.map (·.id)

/-- A cost is added to a state that validates when it is valid itself and names what is stored. -/
theorem validate_addCost : M3State.validate ⟨addCost m3 record, executions⟩ identity = .ok () ↔
    M3State.validate ⟨m3, executions⟩ identity = .ok () ∧ DeliverableCatalog.costInvalid record = false ∧
      CostPlaced identity executions record := by
  have receipts : M3State.receiptInvalid ⟨addCost m3 record, executions⟩ = M3State.receiptInvalid ⟨m3, executions⟩ := rfl
  have placed : M3State.validateExecution ⟨addCost m3 record, executions⟩ identity =
      M3State.validateExecution ⟨m3, executions⟩ identity := rfl
  have deliveries : DeliverableCatalog.validateDelivery (addCost m3 record).deliverables =
      DeliverableCatalog.validateDelivery m3.deliverables := rfl
  have office : (addCost m3 record).office = m3.office := rfl
  have meetings : (addCost m3 record).meetings = m3.meetings := rfl
  have documents : (addCost m3 record).deliverables.documents = m3.deliverables.documents := rfl
  have delivered : (addCost m3 record).deliverables.knowledgeDeliveries = m3.deliverables.knowledgeDeliveries := rfl
  have costs : (addCost m3 record).deliverables.costs = m3.deliverables.costs ++ [record] := rfl
  simp only [M3State.validate, M3State.referenceMissing, DeliverableCatalog.validate, bind_ok, exists_unit, mapError_ok,
    rejectIf_ok, forEach_ok, receipts, placed, deliveries, office, meetings, documents, delivered, costs,
    List.any_append, List.any_cons, List.any_nil, Bool.or_false, List.forall_mem_append, List.forall_mem_singleton,
    Bool.or_eq_false_iff, decide_eq_false_iff_not, not_not]
  constructor
  · rintro ⟨named, officed, met, ⟨chains, ⟨valid, fresh⟩, given⟩, distinct, each, outputs, ⟨⟨listed, received⟩, known,
      ⟨project, run⟩, node⟩, sent⟩
    exact ⟨⟨named, officed, met, ⟨chains, valid, given⟩, distinct, each, outputs, ⟨⟨listed, received⟩, known⟩, sent⟩,
      fresh, project, run, node⟩
  · rintro ⟨⟨named, officed, met, ⟨chains, valid, given⟩, distinct, each, outputs, ⟨⟨listed, received⟩, known⟩, sent⟩,
      fresh, project, run, node⟩
    exact ⟨named, officed, met, ⟨chains, ⟨valid, fresh⟩, given⟩, distinct, each, outputs, ⟨⟨listed, received⟩, known,
      ⟨project, run⟩, node⟩, sent⟩

end Documents

section Graphs

variable [Sha256] {before after : GraphExecution} {command : FinishGraphNodeRunCommand} {state : GraphNodeState}
  {failure : Option AdapterFailure} {output : Option GraphNodeOutput}

/-- The output a finish command records, when its text fits. -/
def FinishGraphNodeRunCommand.leaves (self : FinishGraphNodeRunCommand) : Option GraphNodeOutput :=
  self.outputMarkdown.map fun markdown => ⟨self.nodeId, self.runId, outputHash markdown, markdown⟩

theorem finishedOutput_iff : finishedOutput command state = .ok output ↔
    command.outputMarkdown.all outputFits = true ∧ (state = .succeeded → command.outputMarkdown.isSome = true) ∧
      output = command.leaves := by
  unfold finishedOutput FinishGraphNodeRunCommand.leaves
  cases command.outputMarkdown with
  | none =>
    by_cases succeeded : state = .succeeded
    · simp [succeeded]
    · rw [if_neg succeeded, pure_ok]
      exact ⟨fun same => ⟨rfl, fun ended => absurd ended succeeded, same.symm⟩, fun all => all.2.2.symm⟩
  | some markdown =>
    simp only [bind_ok, lift_ok, GraphNodeOutput.create, exists_unit, rejectIf_ok, pure_ok, Option.all_some, outputFits,
      Option.map_some, Option.isSome_some, Bool.not_eq_true']
    constructor
    · rintro ⟨_, ⟨fits, rfl⟩, rfl⟩
      exact ⟨fits, fun _ => trivial, rfl⟩
    · rintro ⟨fits, _, rfl⟩
      exact ⟨_, ⟨fits, rfl⟩, rfl⟩

/-- The execution with the output that a run is about to leave. -/
def promise (output : Option GraphNodeOutput) (execution : GraphExecution) : GraphExecution :=
  { execution with outputs := execution.outputs ++ output.toList }

/-- The run of the command works on its node. -/
def FinishGraphNodeRunCommand.WorksOn (self : FinishGraphNodeRunCommand) (execution : GraphExecution) : Prop :=
  ∃ node, execution.node? self.nodeId = some node ∧ node.state = .running ∧ node.owner = some self.owner ∧
    node.runId = some self.runId

/-- The node that is ended has its final state, and its run. -/
theorem finishTerminal_node {nodeId : GraphNodeId} {owner : String} {node : GraphNodeExecution}
    (found : before.node? nodeId = some node) (ended : before.finishTerminal nodeId owner state failure = .ok after) :
    ∃ later, after.node? nodeId = some later ∧ later.state = state ∧ later.runId = node.runId := by
  obtain ⟨same, _, found', _, _, rfl⟩ := GraphExecution.finishTerminal_ok ended
  obtain rfl := Option.some.inj (found.symm.trans found')
  have kept : ∀ node, (GraphExecution.finish owner state failure node).nodeId = node.nodeId := fun _ => rfl
  have updated : (before.updateNode nodeId (GraphExecution.finish owner state failure)).node? nodeId =
      some (GraphExecution.finish owner state failure node) := by
    rw [GraphExecution.node?_updateNode kept, if_pos rfl, found, Option.map_some]
  split
  · obtain ⟨_, _, _, _, lookup⟩ := GraphExecution.blockDependents_spec
      (before.updateNode nodeId (GraphExecution.finish owner state failure)) nodeId
    have kept := (lookup nodeId).trans (if_neg fun both => both.2 rfl)
    exact ⟨_, kept.trans updated, rfl, rfl⟩
  · exact ⟨_, updated, rfl, rfl⟩

theorem finishTerminal_succeeds (works : command.WorksOn before) (terminal : state.isTerminal = true) :
    ∃ after, before.finishTerminal command.nodeId command.owner state failure = .ok after ∧
      ∃ node, after.node? command.nodeId = some node ∧ node.state = state ∧ node.runId = some command.runId := by
  obtain ⟨node, found, running, owned, bound⟩ := works
  have accepted : ∃ after, before.finishTerminal command.nodeId command.owner state failure = .ok after := by
    simp only [GraphExecution.finishTerminal, bind_ok, exists_unit, rejectIf_ok, okOr_ok, pure_ok, Bool.not_eq_false',
      GraphExecution.runningFor_iff]
    exact ⟨_, terminal, node, found, ⟨running, owned⟩, rfl⟩
  obtain ⟨after, ended⟩ := accepted
  obtain ⟨later, found', reached, kept⟩ := finishTerminal_node found ended
  exact ⟨after, ended, later, found', reached, kept.trans bound⟩

/-- A node that runs is ended, and its output recorded when it is new and goes with a success or a failure. -/
theorem finishedGraph_iff (works : command.WorksOn before) (terminal : state.isTerminal = true)
    (made : finishedOutput command state = .ok output) :
    (∃ after, finishedGraph before command state failure output = .ok after) ↔
      (output.isSome = true → (∀ existing ∈ before.outputs, existing.runId ≠ command.runId) ∧
        (state = .succeeded ∨ state = .failed)) := by
  obtain ⟨middle, ended, node, found, reached, bound⟩ : ∃ after,
      before.finishTerminal command.nodeId command.owner state failure = .ok after ∧
      ∃ node, after.node? command.nodeId = some node ∧ node.state = state ∧ node.runId = some command.runId :=
    finishTerminal_succeeds works terminal
  have outputs : middle.outputs = before.outputs := by
    obtain ⟨_, _, _, _, _, rfl⟩ := GraphExecution.finishTerminal_ok ended
    split <;> rfl
  obtain ⟨fits, _, left⟩ := finishedOutput_iff.mp made
  simp only [finishedGraph, bind_ok, ended, Except.ok.injEq, exists_eq_left']
  cases spoken : command.outputMarkdown with
  | none =>
    rw [FinishGraphNodeRunCommand.leaves, spoken, Option.map_none] at left
    subst left
    simp
  | some markdown =>
    rw [FinishGraphNodeRunCommand.leaves, spoken, Option.map_some] at left
    subst left
    rw [spoken, Option.all_some] at fits
    have valid : (⟨command.nodeId, command.runId, outputHash markdown, markdown⟩ : GraphNodeOutput).validate = .ok () := by
      rw [outputFits, Bool.not_eq_true'] at fits
      simp [GraphNodeOutput.validate, fits]
    constructor
    · rintro ⟨after, recorded⟩ _
      obtain ⟨ending, _, fresh, located, state', _, _⟩ := GraphExecution.recordOutput_ok recorded
      obtain rfl := Option.some.inj (found.symm.trans located)
      rw [reached] at state'
      exact ⟨outputs ▸ fresh, state'⟩
    · intro accepted
      obtain ⟨fresh, state'⟩ := accepted rfl
      refine ⟨promise (some ⟨command.nodeId, command.runId, outputHash markdown, markdown⟩) middle, ?_⟩
      simp only [GraphExecution.recordOutput, bind_ok, exists_unit, valid, true_and, rejectIf_ok, Bool.or_eq_false_iff,
        List.any_eq_false, decide_eq_true_eq, outputs, found, Option.all_some, reached, bound, Option.any_some]
      refine ⟨⟨fresh, ?_⟩, by rw [promise, outputs]; rfl⟩
      rcases state' with rfl | rfl <;> simp

theorem finishedGraph_node (bound : (before.node? command.nodeId).bind (·.runId) = some command.runId)
    (made : finishedGraph before command state failure output = .ok after) :
    ∃ node, after.node? command.nodeId = some node ∧ node.state = state := by
  simp only [finishedGraph, bind_ok] at made
  obtain ⟨middle, ended, made⟩ := made
  obtain ⟨node, found, _⟩ := Option.bind_eq_some_iff.mp bound
  obtain ⟨later, reached, same, _⟩ := finishTerminal_node found ended
  cases output with
  | none =>
    obtain rfl := pure_ok.mp made
    exact ⟨later, reached, same⟩
  | some output =>
    obtain ⟨_, _, _, _, _, _, rfl⟩ := GraphExecution.recordOutput_ok made
    exact ⟨later, reached, same⟩

theorem finishedGraph_cited (distinct : (before.nodes.map (·.nodeId)).Nodup)
    (made : finishedGraph before command state failure output = .ok after) :
    after.cited = (promise output before).cited ∧ after.revision = bump before.revision := by
  simp only [finishedGraph, bind_ok] at made
  obtain ⟨middle, ended, made⟩ := made
  have cited := GraphExecution.finishTerminal_cited distinct ended
  have revised : middle.revision = bump before.revision := by
    obtain ⟨_, _, _, _, _, rfl⟩ := GraphExecution.finishTerminal_ok ended
    split <;> rfl
  simp only [GraphExecution.cited, Prod.mk.injEq] at cited
  obtain ⟨id, graph, outputs, bound⟩ := cited
  cases output with
  | none =>
    obtain rfl := pure_ok.mp made
    refine ⟨?_, revised⟩
    simp only [GraphExecution.cited, promise, Option.toList_none, List.append_nil, id, graph, outputs, bound]
  | some output =>
    obtain ⟨_, _, _, _, _, _, rfl⟩ := GraphExecution.recordOutput_ok made
    refine ⟨?_, revised⟩
    simp only [GraphExecution.cited, promise, Option.toList_some, id, graph, outputs]
    exact congrArg (fun runs => (before.id, before.graph, before.outputs ++ [output], runs)) bound

theorem promise_valid (valid : before.Valid) (later : after.Valid) (cited : after.cited = (promise output before).cited) :
    (promise output before).Valid where
  graph := valid.graph
  aligned := ⟨valid.aligned.defined, valid.aligned.distinct, valid.aligned.same⟩
  states := valid.states
  runs := by
    have outputs : after.outputs = (promise output before).outputs := congrArg (·.2.2.1) cited
    exact outputs ▸ later.runs
  outputs := by
    have outputs : after.outputs = (promise output before).outputs := congrArg (·.2.2.1) cited
    have graph : after.graph = before.graph := congrArg (·.2.1) cited
    intro recorded member
    exact graph ▸ later.outputs recorded (outputs ▸ member)

end Graphs

section Consistency

variable [Sha256] {db : Database} {m3 : M3Catalog} {id : GraphRunId} {row : GraphRow} {execution : GraphExecution}
  {output : Option GraphNodeOutput} {record : CostLedgerRecord} {sessions : List Session} {runs : List Run}

/-- The stored executions, one of them with the output that its run is about to leave. -/
def promised (db : Database) (id : GraphRunId) (output : Option GraphNodeOutput) : List GraphExecution :=
  modifyFirst (·.id) id (promise output) (storedExecutions db)

theorem promised_cited (sound : SoundGraphs db) (found : db.graphs.find? id = some row)
    (cited : execution.cited = (promise output row.execution).cited) :
    M3State.SameCited (promised db id output) (modifyFirst (·.id) id (fun _ => execution) (storedExecutions db)) := by
  unfold M3State.SameCited promised
  rw [modifyFirst_eq_map sound.ids, modifyFirst_eq_map sound.ids, List.map_map, List.map_map]
  refine List.Perm.of_eq (List.map_congr_left fun other member => ?_)
  simp only [Function.comp_apply]
  split
  · rename_i named
    rw [sound.only found member named, cited]
  · rfl

/-- The documents after a run are consistent exactly when those before it are, counting its output, and its
cost is valid. -/
theorem validate_finished (sound : SoundGraphs db) (found : db.graphs.find? id = some row)
    (cited : execution.cited = (promise output row.execution).cited) (valid : execution.Valid)
    (checked : db.identity.content.validate = .ok ())
    (nextValid : { db.identity.content with sessions, runs }.validate = .ok ())
    (ids : runs.map (·.metadata.id) = db.identity.content.runs.map (·.metadata.id))
    (placed : CostPlaced db.identity.content (promised db id output) record) :
    M3State.validate ⟨addCost m3 record, modifyFirst (·.id) id (fun _ => execution) (storedExecutions db)⟩
        { db.identity.content with sessions, runs } = .ok () ↔
      M3State.validate ⟨m3, promised db id output⟩ db.identity.content = .ok () ∧
        DeliverableCatalog.costInvalid record = false := by
  have same := promised_cited sound found cited
  have before := (sound id row found).valid
  have validAfter : ∀ other ∈ modifyFirst (·.id) id (fun _ => execution) (storedExecutions db), other.validate = .ok () := by
    intro other member
    rcases mem_modifyFirst member with inside | ⟨_, _, _, rfl⟩
    · exact sound.validExecution inside
    · exact GraphExecution.validate_iff.mpr valid
  have validBefore : ∀ other ∈ promised db id output, other.validate = .ok () := by
    intro other member
    rcases mem_modifyFirst member with inside | ⟨old, inside, named, rfl⟩
    · exact sound.validExecution inside
    · rw [sound.only found inside named]
      exact GraphExecution.validate_iff.mpr (promise_valid before valid cited)
  rw [validate_addCost]
  constructor
  · rintro ⟨validated, fine, _⟩
    -- what the run changed can be taken back
    exact ⟨@M3State.validate_of_cited m3 _ _ _ { db.identity.content with sessions, runs } db.identity.content.sessions
      db.identity.content.runs validated same.symm validBefore ids.symm checked, fine⟩
  · rintro ⟨validated, fine⟩
    exact ⟨M3State.validate_of_cited validated same validAfter ids nextValid, fine, placed.project,
      ids ▸ placed.run, (same.nodes record.nodeId).mpr placed.node⟩

end Consistency

section Finish

variable [Sha256] {db : Database} {before : GraphExecution} {command : FinishGraphNodeRunCommand} {run : Run}
  {session : Session} {now : Nat} {costId : CostRecordId} {id : GraphRunId} {origin : Attribution} {finished : Finished}

omit [Sha256] in
/-- A terminal state of a run is one of its node, and a success or a failure is one of both. -/
theorem graphState_terminal {ended : NormalizedRunState} (terminal : ended.isTerminal = true) :
    ∃ state, graphState ended = .ok state ∧ state.isTerminal = true ∧ (state = .succeeded ↔ ended = .succeeded) ∧
      (state = .failed ↔ ended = .failed) := by
  cases ended <;> first | exact ⟨_, rfl, rfl, by simp, by simp⟩ | cases terminal

omit [Sha256] in
theorem graphState_ok {ended : NormalizedRunState} {state : GraphNodeState} (reached : graphState ended = .ok state) :
    ended.isTerminal = true ∧ state.isTerminal = true := by
  cases ended <;> cases reached <;> exact ⟨rfl, rfl⟩

/-- What the documents ask of a finish command. -/
structure Acceptable (before : GraphExecution) (run : Run) (session : Session) (command : FinishGraphNodeRunCommand) :
    Prop where
  fits : command.outputMarkdown.all outputFits = true
  success : command.terminalState = .succeeded → command.outputMarkdown.isSome = true ∧ command.failure = none
  fresh : command.outputMarkdown.isSome = true → ∀ existing ∈ before.outputs, existing.runId ≠ command.runId
  runRoom : run.metadata.revision + 1 < 2 ^ 64
  named : ∀ spoken, command.providerSessionId = some spoken →
    isBlank spoken = false ∧ session.metadata.revision + 1 < 2 ^ 64

/-- A finish command that is told a terminal state makes its documents when they accept it. -/
theorem finishDocuments_iff (works : command.WorksOn before) (terminal : command.terminalState.isTerminal = true)
    (strayless : command.outputMarkdown.isSome = true →
      command.terminalState = .succeeded ∨ command.terminalState = .failed) :
    (∃ finished, finishDocuments db now costId before command run session origin = .ok finished) ↔
      Acceptable before run session command := by
  obtain ⟨state, same, ended, succeeded, failed⟩ := graphState_terminal terminal
  have leaves : command.leaves.isSome = command.outputMarkdown.isSome := Option.isSome_map
  constructor
  · rintro ⟨finished, done⟩
    simp only [finishDocuments, bind_ok, exists_unit, reject_ok, lift_ok, pure_ok, same, Except.ok.injEq,
      exists_eq_left'] at done
    obtain ⟨output, made, blameless, execution, graph, catalog, written, _⟩ := done
    obtain ⟨fits, spoken, rfl⟩ := finishedOutput_iff.mp made
    have recorded := (finishedGraph_iff works ended made).mp ⟨_, graph⟩
    obtain ⟨runRoom, named⟩ := finishedCatalog_iff.mp ⟨_, written⟩
    refine ⟨fits, fun success => ⟨spoken (succeeded.mpr success), ?_⟩, fun left => (recorded (leaves.trans left)).1,
      runRoom, named⟩
    rw [succeeded.mpr success, decide_eq_true rfl, Bool.true_and, Option.isSome_map, Option.isSome_eq_false_iff,
      Option.isNone_iff_eq_none] at blameless
    exact blameless
  · intro accepted
    have made : finishedOutput command state = .ok command.leaves :=
      finishedOutput_iff.mpr ⟨accepted.fits, fun success => (accepted.success (succeeded.mp success)).1, rfl⟩
    have recordable : command.leaves.isSome = true → (∀ existing ∈ before.outputs, existing.runId ≠ command.runId) ∧
        (state = .succeeded ∨ state = .failed) := by
      intro left
      refine ⟨accepted.fresh (leaves ▸ left), ?_⟩
      rcases strayless (leaves ▸ left) with success | failure
      · exact .inl (succeeded.mpr success)
      · exact .inr (failed.mpr failure)
    obtain ⟨execution, graph⟩ : ∃ after, finishedGraph before command state
        (command.failure.map sanitizeAdapterFailure) command.leaves = .ok after :=
      (finishedGraph_iff works ended made).mpr recordable
    obtain ⟨catalog, written⟩ : ∃ next, finishedCatalog db.identity.content now run session command.terminalState
        command.providerSessionId = .ok next :=
      finishedCatalog_iff.mpr ⟨accepted.runRoom, accepted.named⟩
    have blameless : (decide (state = .succeeded) && (command.failure.map sanitizeAdapterFailure).isSome) = false := by
      by_cases success : state = .succeeded
      · rw [(accepted.success (succeeded.mp success)).2]
        exact Bool.and_false _
      · rw [decide_eq_false success]
        rfl
    refine ⟨⟨execution, catalog, addCost db.m3.content (costRecord now costId command session.projectId origin),
      command.failure.map sanitizeAdapterFailure, command.leaves⟩, ?_⟩
    simp only [finishDocuments, bind_ok, exists_unit, reject_ok, lift_ok, pure_ok, same, Except.ok.injEq,
      exists_eq_left']
    exact ⟨_, made, blameless, execution, graph, catalog, written, rfl⟩

end Finish

end Bastet.Daemon
