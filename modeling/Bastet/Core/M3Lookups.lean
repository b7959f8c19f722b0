import Bastet.Core.Mvp

/-! Lookups by id in the M3 state. The validators of offices, identities and executions check that the
ids of their own kinds are distinct; those of meetings and deliverables do not. -/

set_option autoImplicit false

namespace Bastet.Core

open Fallible Lookup

namespace M3State

/-- The versions of all documents. -/
def versions (self : M3State) : List DocumentVersion :=
  self.catalog.deliverables.documents.flatMap (·.versions)

/-- The check `OfficeCatalog::validate` makes for its kinds, for the kinds that no validator makes it for. -/
def omittedUnique (self : M3State) : Except OfficeError Unit := do
  OfficeCatalog.unique "ProjectMeeting" (self.catalog.meetings.meetings.map (·.metadata.id.value))
  OfficeCatalog.unique "DecisionBaseline" (self.catalog.meetings.decisionBaselines.map (·.metadata.id.value))
  OfficeCatalog.unique "DocumentArtifact" (self.catalog.deliverables.documents.map (·.metadata.id.value))
  OfficeCatalog.unique "DocumentVersion" (self.versions.map (·.id.value))
  OfficeCatalog.unique "KnowledgeDelivery" (self.catalog.deliverables.knowledgeDeliveries.map (·.metadata.id.value))
  OfficeCatalog.unique "CostLedgerRecord" (self.catalog.deliverables.costs.map (·.metadata.id.value))

/-- The ids of each kind are pairwise distinct. -/
structure DistinctIds (state : M3State) : Prop where
  meetings : (state.catalog.meetings.meetings.map (·.metadata.id)).Nodup
  baselines : (state.catalog.meetings.decisionBaselines.map (·.metadata.id)).Nodup
  documents : (state.catalog.deliverables.documents.map (·.metadata.id)).Nodup
  versions : (state.versions.map (·.id)).Nodup
  deliveries : (state.catalog.deliverables.knowledgeDeliveries.map (·.metadata.id)).Nodup
  costs : (state.catalog.deliverables.costs.map (·.metadata.id)).Nodup

/-- Every lookup finds the only entity of its id, also for the ids the state itself refers to. -/
structure ResolvesUniquely (state : M3State) : Prop where
  /-- Deciding a meeting. -/
  meeting : ∀ meeting ∈ state.catalog.meetings.meetings,
    Resolves (·.metadata.id) state.catalog.meetings.meetings meeting.metadata.id meeting
  decided : ∀ baseline ∈ state.catalog.meetings.decisionBaselines, ∃ meeting : ProjectMeeting,
    Resolves (·.metadata.id) state.catalog.meetings.meetings baseline.meetingId meeting
  /-- Resolving the baseline of a graph. -/
  baseline : ∀ execution ∈ state.graphExecutions, ∃ baseline : DecisionBaseline,
    Resolves (·.metadata.id) state.catalog.meetings.decisionBaselines execution.graph.decisionBaselineId baseline
  /-- Accepting a version: its document is looked up first, then the version in it. -/
  version : ∀ document ∈ state.catalog.deliverables.documents, ∀ version ∈ document.versions,
    Resolves (·.metadata.id) state.catalog.deliverables.documents document.metadata.id document ∧
      Resolves (·.id) document.versions version.id version ∧ Resolves (·.id) state.versions version.id version
  /-- Completing a delivery. -/
  delivery : ∀ delivery ∈ state.catalog.deliverables.knowledgeDeliveries,
    Resolves (·.metadata.id) state.catalog.deliverables.knowledgeDeliveries delivery.metadata.id delivery
  delivered : ∀ delivery ∈ state.catalog.deliverables.knowledgeDeliveries, ∃ version : DocumentVersion,
    Resolves (·.id) state.versions delivery.artifactVersionId version
  cost : ∀ cost ∈ state.catalog.deliverables.costs,
    Resolves (·.metadata.id) state.catalog.deliverables.costs cost.metadata.id cost

theorem unique_ok {kind : EntityKind} {α : Type} {entity : String} {key : α → StableId kind} {items : List α} :
    OfficeCatalog.unique entity (items.map fun item => (key item).value) = .ok () ↔ (items.map key).Nodup :=
  distinctValues_ok

theorem omittedUnique_ok {self : M3State} : self.omittedUnique = .ok () ↔ self.DistinctIds := by
  simp only [omittedUnique, bind_ok, exists_unit, unique_ok]
  constructor
  · rintro ⟨meetings, baselines, documents, versions, deliveries, costs⟩
    exact ⟨meetings, baselines, documents, versions, deliveries, costs⟩
  · rintro ⟨meetings, baselines, documents, versions, deliveries, costs⟩
    exact ⟨meetings, baselines, documents, versions, deliveries, costs⟩

variable [Sha256] {self : M3State} {identity : IdentityCatalog}

/-- A baseline passed its check against a meeting that is stored. -/
theorem validateBaseline_meeting {meetings : MeetingCatalog} {baselines : List DecisionBaseline}
    {decided after : List MeetingId} (accepted : foldEach meetings.validateBaseline baselines decided = .ok after)
    {baseline : DecisionBaseline} (member : baseline ∈ baselines) :
    ∃ meeting, (meetings.meetings.find? fun meeting => meeting.metadata.id = baseline.meetingId) = some meeting := by
  induction baselines generalizing decided with
  | nil => cases member
  | cons first rest ih =>
    simp only [foldEach, bind_ok] at accepted
    obtain ⟨next, checked, remaining⟩ := accepted
    rcases List.mem_cons.mp member with rfl | inside
    · simp only [MeetingCatalog.validateBaseline, bind_ok, exists_unit, okOr_ok] at checked
      obtain ⟨_, meeting, found, _⟩ := checked
      exact ⟨meeting, found⟩
    · exact ih remaining inside

theorem validate_meeting (validated : self.validate identity = .ok ()) {baseline : DecisionBaseline}
    (member : baseline ∈ self.catalog.meetings.decisionBaselines) :
    ∃ meeting, (self.catalog.meetings.meetings.find? fun meeting => meeting.metadata.id = baseline.meetingId) =
      some meeting := by
  simp only [validate, MeetingCatalog.validate, bind_ok, exists_unit, mapError_ok, pure_ok] at validated
  obtain ⟨_, _, ⟨_, _, baselines, _⟩, _⟩ := validated
  exact validateBaseline_meeting baselines member

theorem validate_baseline (validated : self.validate identity = .ok ()) {execution : GraphExecution}
    (member : execution ∈ self.graphExecutions) :
    ∃ baseline, (self.catalog.meetings.decisionBaselines.find? fun baseline =>
      baseline.metadata.id = execution.graph.decisionBaselineId) = some baseline := by
  simp only [validate, bind_ok, exists_unit, mapError_ok, forEach_ok] at validated
  obtain ⟨_, _, _, _, _, executions, _⟩ := validated
  have checked := executions execution member
  simp only [validateExecution, bind_ok, exists_unit, rejectIf_ok, decide_eq_false_iff_not, not_not] at checked
  exact exists_of_mem_keys checked.2.1

theorem validate_delivered (validated : self.validate identity = .ok ()) {delivery : KnowledgeDelivery}
    (member : delivery ∈ self.catalog.deliverables.knowledgeDeliveries) :
    ∃ version, (self.versions.find? fun version => version.id = delivery.artifactVersionId) = some version := by
  simp only [validate, bind_ok, exists_unit, mapError_ok, rejectIf_ok] at validated
  obtain ⟨_, _, _, _, _, _, _, referred⟩ := validated
  simp only [referenceMissing, Bool.or_eq_false_iff, List.any_eq_false, Bool.or_eq_true, decide_eq_true_eq,
    not_or, not_not] at referred
  exact exists_of_mem_keys (referred.2 delivery member).2

/-- Distinct ids make every lookup of a validated state exact. -/
theorem DistinctIds.resolves (distinct : self.DistinctIds) (validated : self.validate identity = .ok ()) :
    self.ResolvesUniquely where
  meeting meeting member := resolves_of_mem distinct.meetings member
  decided baseline member := by
    obtain ⟨meeting, found⟩ := validate_meeting validated member
    exact ⟨meeting, resolves_of_find distinct.meetings found⟩
  baseline execution member := by
    obtain ⟨baseline, found⟩ := validate_baseline validated member
    exact ⟨baseline, resolves_of_find distinct.baselines found⟩
  version document inside version member := by
    have listed : version ∈ self.versions := List.mem_flatMap.mpr ⟨document, inside, member⟩
    have own : (document.versions.map (·.id)).Nodup := by
      have all := distinct.versions
      rw [M3State.versions, List.map_flatMap] at all
      exact (List.nodup_flatMap.mp all).1 document inside
    exact ⟨resolves_of_mem distinct.documents inside, resolves_of_mem own member, resolves_of_mem distinct.versions listed⟩
  delivery delivery member := resolves_of_mem distinct.deliveries member
  delivered delivery member := by
    obtain ⟨version, found⟩ := validate_delivered validated member
    exact ⟨version, resolves_of_find distinct.versions found⟩
  cost cost member := resolves_of_mem distinct.costs member

end M3State

section Deliveries

/-- A first project with a run of one of its research nodes. -/
def deliveringIdentity : IdentityCatalog :=
  let ids : MvpDraftIds := ⟨⟨1⟩, ⟨2⟩, ⟨3⟩, (⟨4⟩, ⟨5⟩), ⟨6⟩, ⟨7⟩, ⟨8⟩, ⟨9⟩, ⟨10⟩, ⟨11⟩, ⟨12⟩, ⟨13⟩, ⟨14⟩, (⟨15⟩, ⟨16⟩, ⟨17⟩)⟩
  { MvpDraft.draftIdentity ids "Project" "/workspace" "gpt" "gemini" with
    sessions := [⟨metadata ⟨30⟩, ⟨13⟩, ⟨1⟩, none⟩]
    runs := [⟨metadata ⟨31⟩, ⟨30⟩, ⟨11⟩, .starting, none, none⟩] }

/-- A state of the project with one entity of every kind. -/
def deliveringState : M3State :=
  let hash := "sha256:e171c2ff25b55e5a2d63d081ec3a65e272d11afec9169a03822c970aac37e79e"
  let graph := researchGraph ⟨⟨20⟩, ⟨21⟩, ⟨22⟩, ⟨23⟩, ⟨24⟩⟩ ⟨4⟩ ⟨5⟩ ⟨6⟩
  ⟨⟨⟨[], [], [⟨metadata ⟨3⟩, ⟨1⟩, "Project Room", 12⟩]⟩,
      ⟨[⟨metadata ⟨2⟩, ⟨1⟩, ⟨3⟩, [⟨4⟩, ⟨5⟩, ⟨6⟩], 3, [], .accepted⟩],
        [⟨metadata ⟨20⟩, ⟨2⟩, "Findings", hash, "owner", "2026-09-03"⟩]⟩,
      ⟨[⟨metadata ⟨40⟩, ⟨1⟩, "Report",
          [⟨⟨41⟩, 1, none, "Findings", hash, [⟨21⟩, ⟨22⟩], none, none, none, some "owner", some "2026-09-04"⟩]⟩],
        [⟨metadata ⟨60⟩, ⟨1⟩, ⟨21⟩, ⟨31⟩, "openai", "default", "gpt", none, none, none, none, .unknown, "codex", none,
          .finite 0, "open"⟩],
        [⟨metadata ⟨50⟩, ⟨1⟩, ⟨41⟩, .bastetMind, "Preview", true, .prepared, none⟩]⟩⟩,
    [⟨⟨24⟩, graph, graph.nodes.map fun node => ⟨node.id, .pending, none, 0, none, none⟩, [], none, 0⟩]⟩

/-- The state with a second entity under each id: a meeting that still awaits its decision, a baseline of another
meeting, a document with another text, a delivery of it and a cost of another node. -/
def ambiguousState : M3State :=
  let hash := "sha256:00c0b03fcfa2ac02fc0be8f640ccb282dc899197395335c38f2051f36f25d98b"
  let catalog := deliveringState.catalog
  { deliveringState with catalog := { catalog with
    meetings := ⟨catalog.meetings.meetings ++ [⟨metadata ⟨2⟩, ⟨1⟩, ⟨3⟩, [⟨4⟩, ⟨5⟩, ⟨6⟩], 3, [], .awaitingDecision⟩,
        ⟨metadata ⟨18⟩, ⟨1⟩, ⟨3⟩, [⟨4⟩], 1, [], .accepted⟩],
      catalog.meetings.decisionBaselines ++ [⟨metadata ⟨20⟩, ⟨18⟩, "Withdrawn", hash, "owner", "2026-09-05"⟩]⟩
    deliverables := ⟨catalog.deliverables.documents ++ [⟨metadata ⟨40⟩, ⟨1⟩, "Draft",
        [⟨⟨41⟩, 1, none, "Withdrawn", hash, [⟨21⟩, ⟨22⟩], none, none, none, none, none⟩]⟩],
      catalog.deliverables.costs ++ [⟨metadata ⟨60⟩, ⟨1⟩, ⟨22⟩, ⟨31⟩, "agy", "default", "gemini", none, none, none, none,
        .unknown, "agy", none, .finite 0, "open"⟩],
      catalog.deliverables.knowledgeDeliveries ++
        [⟨metadata ⟨50⟩, ⟨1⟩, ⟨41⟩, .agentMemoryOs, "Preview", true, .prepared, none⟩]⟩ } }

end Deliveries

end Bastet.Core
