import Bastet.Library.Versions
import Bastet.Daemon.GraphWrites

/-! No update is lost: a change of a catalog or of a stored execution increases its revision,
and a command takes effect only at the revision its client expects. -/

set_option autoImplicit false

namespace Bastet.Daemon

open Fallible Bastet.Core

/-- The versioned documents of the store. -/
inductive Resource where
  | identity
  | m3
  | graph (id : GraphRunId)
  deriving DecidableEq, Repr

inductive Document where
  | identity (catalog : IdentityCatalog)
  | m3 (catalog : M3Catalog)
  | graph (execution : GraphExecution)
  deriving DecidableEq, Repr

def Database.read (db : Database) : Resource → Option (Nat × Document)
  | .identity => some (db.identity.revision, .identity db.identity.content)
  | .m3 => some (db.m3.revision, .m3 db.m3.content)
  | .graph id => (db.graphs.find? id).map fun row => (row.revision, .graph row.execution)

/-- The revisions a client states with its command. -/
def Command.expectations : Command → List (Resource × Nat)
  | .replaceCatalog command => [(.identity, command.expectedRevision)]
  | .replaceM3Catalog command => [(.m3, command.expectedRevision)]
  | .prepareMvp _ _ command => [(.identity, command.expectedCatalogRevision), (.m3, command.expectedM3Revision)]
  | .acceptMvpDecision _ _ command => [(.m3, command.expectedM3Revision)]
  | .createMvpDocument _ _ _ command => [(.m3, command.expectedM3Revision)]
  | .acceptMvpDocument command => [(.m3, command.expectedM3Revision)]
  | .prepareKnowledgeDelivery _ _ command => [(.m3, command.expectedM3Revision)]
  | .completeKnowledgeDelivery command => [(.m3, command.expectedM3Revision)]
  | .recordCost command => [(.m3, command.expectedM3Revision)]
  | .recordProviderCancelAccepted _ _ expectedCatalogRevision => [(.identity, expectedCatalogRevision)]
  | .restartMissingOutputGraph _ _ originalId expectedGraphRevision => [(.graph originalId, expectedGraphRevision)]
  | .retryFailedGraphNode _ id command => [(.graph id, command.expectedGraphRevision)]
  | .claimGraphNodes _ id expectedRevision _ _ => [(.graph id, expectedRevision)]
  | .completeGraphNode _ id expectedRevision _ _ _ => [(.graph id, expectedRevision)]
  | .beginGraphNodeRun _ _ id command _ =>
    [(.identity, command.expectedCatalogRevision), (.graph id, command.expectedGraphRevision)]
  | .finishGraphNodeRun _ _ id command =>
    [(.identity, command.expectedCatalogRevision), (.graph id, command.expectedGraphRevision),
      (.m3, command.expectedM3Revision)]
  | .cancelStagedRun _ _ expectedRevision => [(.identity, expectedRevision)]
  | _ => []

def Action.expectations : Action → List (Resource × Nat)
  | .command issued => issued.expectations
  | _ => []

section Documents

variable {db after last : Database}

/-- A catalog was kept, or has a greater revision, which the database can hold. -/
def Versioned.Increases {α : Type} (before after : Versioned α) : Prop :=
  after = before ∨ before.revision < after.revision ∧ after.revision < sqlLimit

namespace Versioned.Increases

variable {α : Type} {first second third : Versioned α}

theorem refl (document : Versioned α) : document.Increases document := .inl rfl

theorem next {content : α} (bounded : first.revision + 1 < sqlLimit) : first.Increases ⟨first.revision + 1, content⟩ :=
  .inr ⟨Nat.lt_succ_self _, bounded⟩

theorem trans (one : first.Increases second) (other : second.Increases third) : first.Increases third := by
  rcases one with rfl | ⟨increased, _⟩
  · exact other
  · rcases other with rfl | ⟨further, bounded⟩
    · exact .inr ⟨increased, by assumption⟩
    · exact .inr ⟨increased.trans further, bounded⟩

theorem bounded (increases : first.Increases second) (initial : first.revision < sqlLimit) :
    second.revision < sqlLimit := by
  rcases increases with rfl | ⟨_, bounded⟩
  · exact initial
  · exact bounded

end Versioned.Increases

/-- The two catalogs follow each other. -/
structure CatalogsFollow (db after : Database) : Prop where
  identity : db.identity.Increases after.identity
  m3 : db.m3.Increases after.m3

namespace CatalogsFollow

theorem of_same (identity : after.identity = db.identity) (m3 : after.m3 = db.m3) : CatalogsFollow db after :=
  ⟨.inl identity, .inl m3⟩

theorem trans (first : CatalogsFollow db after) (second : CatalogsFollow after last) : CatalogsFollow db last :=
  ⟨first.identity.trans second.identity, first.m3.trans second.m3⟩

end CatalogsFollow

variable [Sha256] [SerdeJson]

theorem Cancels.catalogsFollow {now : Nat} {row : StagedRow} {reason : String} {run : Run} {plan : ProviderLaunchPlan}
    {graphRow : GraphRow} {execution : GraphExecution}
    (cancels : Cancels db now row reason run plan graphRow execution after) : CatalogsFollow db after := by
  have bounded := cancels.catalogBounded
  obtain ⟨grants, events, _, rfl⟩ := cancels.left
  exact ⟨.next bounded, .refl _⟩

theorem MayCancel.catalogsFollow {now : Nat} {requestId : ApprovalRequestId} {reason : String}
    (cancels : MayCancel db now requestId reason after) : CatalogsFollow db after := by
  rcases cancels with ⟨rfl, _⟩ | ⟨_, _, _, _, _, _, cancels⟩
  · exact .of_same rfl rfl
  · exact cancels.catalogsFollow

theorem CancelsSome.catalogsFollow {now : Nat} (cancels : CancelsSome now db after) : CatalogsFollow db after := by
  induction cancels with
  | refl => exact .of_same rfl rfl
  | tail _ last ih =>
    obtain ⟨_, _, cancels⟩ := last
    exact ih.trans cancels.catalogsFollow

theorem onDecision_catalogsFollow {now : Nat} {request : ApprovalRequest} {kind : ApprovalDecisionKind}
    (informed : onDecision db now request kind = .ok after) : CatalogsFollow db after := by
  rcases onDecision_ok informed with ⟨_, rfl⟩ | ⟨_, _, _, _, _, _, _, _, _, _, _, rfl⟩ | ⟨_, cancels⟩
  · exact .of_same rfl rfl
  · exact .of_same rfl rfl
  · exact cancels.catalogsFollow

/-- Every change keeps each catalog, or increases its revision. -/
theorem Change.catalogsFollow {action : Action} (change : Change db action after)
    (bounded : db.identity.revision < sqlLimit) : CatalogsFollow db after := by
  cases change with
  | replacedCatalog events valid kept idle consistent next =>
    -- the revision is far from the end of a `u64`, so its addition does not wrap
    have apart : bump db.identity.revision = db.identity.revision + 1 := by
      unfold bump sqlLimit at *
      omega
    rw [apart] at next ⊢
    exact ⟨.next next, .refl _⟩
  | replacedM3 events expected valid next => exact ⟨.refl _, .next next⟩
  | prepared events made initial unconfigured catalogBounded m3Bounded => exact ⟨.next catalogBounded, .next m3Bounded⟩
  | accepted events made consistent m3Bounded => exact ⟨.refl _, .next m3Bounded⟩
  | storedM3 stored =>
    obtain ⟨_, next, _, rfl⟩ := stored
    exact ⟨.refl _, .next next⟩
  | reported events valid reports next => exact ⟨.next next, .refl _⟩
  | worked stored =>
    obtain ⟨_, _, _, _, _, rfl⟩ := stored
    exact .of_same rfl rfl
  | begun events begun serving attended current left =>
    have stages := Beginning.stages left
    refine ⟨?_, .inl stages.m3⟩
    show db.identity.Increases _
    rw [stages.identity]
    exact .next begun.catalogBounded
  | finished events trusted finishing => exact ⟨.next finishing.catalogBounded, .next finishing.m3Bounded⟩
  | decided issued events deciding informed =>
    have follow := onDecision_catalogsFollow informed
    exact ⟨follow.identity, follow.m3⟩
  | cancelled events some =>
    have follow := some.catalogsFollow
    exact ⟨follow.identity, follow.m3⟩
  | revoked events spent cancels =>
    have follow := cancels.catalogsFollow
    exact ⟨follow.identity, follow.m3⟩
  | claimed events claiming => exact ⟨.next claiming.catalogBounded, .refl _⟩
  | abandoned events abandoning => exact ⟨.next abandoning.catalogBounded, .refl _⟩
  | @recovered now _ revision events middle proved catalogValid recoverable revised expired =>
    have first : CatalogsFollow db (db.recovered now ⟨bump db.daemon.revision, .recovering⟩ revision middle) := by
      refine ⟨?_, .refl _⟩
      rcases revised with ⟨none, rfl⟩ | ⟨rfl, next⟩
      · left
        simp only [Database.recovered, recovered_none none]
      · exact .next next
    exact first.trans expired.catalogsFollow
  | _ => exact .of_same rfl rfl

/-- The revisions of the documents fit the database, and the stored executions are sound. -/
structure Versioned.Sound (db : Database) : Prop where
  identity : db.identity.revision < sqlLimit
  m3 : db.m3.revision < sqlLimit
  graphs : SoundGraphs db

omit [SerdeJson] in
theorem GraphRow.Leads.follows {row later : GraphRow} (leads : row.Leads later) (sound : row.Sound) :
    Versions.Follows (row.revision, Document.graph row.execution) (later.revision, .graph later.execution) := by
  induction leads with
  | refl => exact .refl _
  | @tail middle later leads rewritten before =>
    have here := GraphRow.Leads.sound leads sound
    obtain ⟨_, written, _⟩ := rewritten
    refine before.trans ?_
    rcases written.revised here.valid.aligned with rfl | bumped
    · left
      simp only [GraphRow.store, here.revision]
    · right
      have bounded := here.bounded
      simp only [GraphRow.store, bumped, ← here.revision]
      unfold bump sqlLimit at *
      omega

/-- Every change keeps each document, or increases its revision. -/
theorem Change.revises {action : Action} (change : Change db action after) (sound : Versioned.Sound db) :
    Versions.Revises Database.read db after := by
  have catalogs := change.catalogsFollow sound.identity
  have graphs := change.graphsFollow sound.graphs
  intro resource document stored
  cases resource with
  | identity =>
    obtain rfl := Option.some.inj stored
    refine ⟨_, rfl, ?_⟩
    rcases catalogs.identity with same | ⟨increased, _⟩
    · rw [same]
      exact .refl _
    · exact .inr increased
  | m3 =>
    obtain rfl := Option.some.inj stored
    refine ⟨_, rfl, ?_⟩
    rcases catalogs.m3 with same | ⟨increased, _⟩
    · rw [same]
      exact .refl _
    · exact .inr increased
  | graph id =>
    obtain ⟨row, found, rfl⟩ := Option.map_eq_some_iff.mp stored
    obtain ⟨later, reached, leads⟩ := graphs.kept id row found
    exact ⟨_, by simp only [Database.read, reached, Option.map_some], leads.follows (sound.graphs id row found)⟩

end Documents

section Expectations

variable [Sha256] [SerdeJson] {db after : Database}

/-- A command that commits found the revisions its client expects, or changed nothing. -/
theorem execute_expected {command : Command} (committed : execute db command = .ok after) {resource : Resource}
    {revision : Nat} (expected : (resource, revision) ∈ command.expectations) :
    after = db ∨ ∃ content, db.read resource = some (revision, content) := by
  have graph : ∀ {id : GraphRunId} {expected : Nat}, (∃ execution, loadGraph db id expected = .ok execution) →
      ∃ content, db.read (.graph id) = some (expected, content) := by
    rintro id expected ⟨_, loaded⟩
    obtain ⟨row, found, rfl, _, _⟩ := loadGraph_ok.mp loaded
    exact ⟨.graph row.execution, by simp only [Database.read, found, Option.map_some]⟩
  cases command <;> simp only [execute, bind_ok, pure_ok, Prod.exists, exists_and_right, exists_eq_right] at committed <;>
    simp only [Command.expectations, List.mem_cons, List.not_mem_nil, or_false, Prod.mk.injEq] at expected
  case replaceCatalog command =>
    obtain ⟨_, committed⟩ := committed
    simp only [replaceCatalog, bind_ok, exists_unit, expectRevision_ok] at committed
    obtain ⟨rfl, rfl⟩ := expected
    exact .inr ⟨_, congrArg some (Prod.ext committed.2.1 rfl)⟩
  case replaceM3Catalog command =>
    obtain ⟨_, committed⟩ := committed
    simp only [replaceM3Catalog, bind_ok, exists_unit, expectRevision_ok] at committed
    obtain ⟨rfl, rfl⟩ := expected
    exact .inr ⟨_, congrArg some (Prod.ext committed.2.1 rfl)⟩
  case prepareMvp ids directory command =>
    obtain ⟨_, committed⟩ := committed
    simp only [prepareMvp, bind_ok, exists_unit, expectRevision_ok] at committed
    obtain ⟨_, _, _, catalog, m3, _⟩ := committed
    rcases expected with ⟨rfl, rfl⟩ | ⟨rfl, rfl⟩
    · exact .inr ⟨_, congrArg some (Prod.ext catalog rfl)⟩
    · exact .inr ⟨_, congrArg some (Prod.ext m3 rfl)⟩
  case recordProviderCancelAccepted now runId expectedRevision =>
    obtain ⟨_, committed⟩ := committed
    simp only [recordProviderCancelAccepted, bind_ok, exists_unit, expectRevision_ok] at committed
    obtain ⟨rfl, rfl⟩ := expected
    exact .inr ⟨_, congrArg some (Prod.ext committed.1 rfl)⟩
  case restartMissingOutputGraph now restartedId originalId expectedRevision =>
    obtain ⟨_, committed⟩ := committed
    simp only [restartMissingOutputGraph, bind_ok] at committed
    obtain ⟨original, loaded, _⟩ := committed
    obtain ⟨rfl, rfl⟩ := expected
    exact .inr (graph ⟨original, loaded⟩)
  case retryFailedGraphNode now id command =>
    obtain ⟨_, committed⟩ := committed
    simp only [retryFailedGraphNode, updateStoredGraph, bind_ok, Prod.exists] at committed
    obtain ⟨_, _, ⟨before, loaded, _⟩, _⟩ := committed
    obtain ⟨rfl, rfl⟩ := expected
    exact .inr (graph ⟨before, loaded⟩)
  case claimGraphNodes now id expectedRevision owner limit =>
    obtain ⟨_, committed⟩ := committed
    simp only [claimGraphNodes, updateStoredGraph, bind_ok] at committed
    obtain ⟨before, loaded, _⟩ := committed
    obtain ⟨rfl, rfl⟩ := expected
    exact .inr (graph ⟨before, loaded⟩)
  case completeGraphNode now id expectedRevision nodeId owner succeeded =>
    obtain ⟨_, committed⟩ := committed
    simp only [completeGraphNode, updateStoredGraph, bind_ok] at committed
    obtain ⟨before, loaded, _⟩ := committed
    obtain ⟨rfl, rfl⟩ := expected
    exact .inr (graph ⟨before, loaded⟩)
  case beginGraphNodeRun now ids id command binding =>
    obtain ⟨_, committed⟩ := committed
    simp only [beginGraphNodeRunInner, bind_ok, exists_unit, expectRevision_ok] at committed
    obtain ⟨_, catalog, before, loaded, _⟩ := committed
    rcases expected with ⟨rfl, rfl⟩ | ⟨rfl, rfl⟩
    · exact .inr ⟨_, congrArg some (Prod.ext catalog rfl)⟩
    · exact .inr (graph ⟨before, loaded⟩)
  case finishGraphNodeRun now costId id command =>
    obtain ⟨_, committed⟩ := committed
    simp only [finishGraphNodeRun, bind_ok, exists_unit, expectRevision_ok] at committed
    obtain ⟨catalog, m3, before, loaded, _⟩ := committed
    rcases expected with ⟨rfl, rfl⟩ | ⟨rfl, rfl⟩ | ⟨rfl, rfl⟩
    · exact .inr ⟨_, congrArg some (Prod.ext catalog rfl)⟩
    · exact .inr (graph ⟨before, loaded⟩)
    · exact .inr ⟨_, congrArg some (Prod.ext m3 rfl)⟩
  case cancelStagedRun now runId expectedRevision =>
    obtain ⟨_, committed⟩ := committed
    obtain ⟨rfl, rfl⟩ := expected
    unfold cancelStagedRun at committed
    split at committed
    · simp only [pure_ok, Prod.mk.injEq] at committed
      exact .inl committed.1.symm
    · simp only [bind_ok, exists_unit, expectRevision_ok] at committed
      exact .inr ⟨_, congrArg some (Prod.ext committed.1 rfl)⟩
  case acceptMvpDecision now ids command =>
    obtain ⟨_, committed⟩ := committed
    simp only [acceptMvpDecision, bind_ok, exists_unit, expectRevision_ok] at committed
    obtain ⟨rfl, rfl⟩ := expected
    exact .inr ⟨_, congrArg some (Prod.ext committed.1 rfl)⟩
  case createMvpDocument now artifactId versionId command =>
    obtain ⟨_, committed⟩ := committed
    simp only [createMvpDocument, bind_ok, exists_unit, expectRevision_ok] at committed
    obtain ⟨rfl, rfl⟩ := expected
    exact .inr ⟨_, congrArg some (Prod.ext committed.1 rfl)⟩
  case acceptMvpDocument command =>
    obtain ⟨_, committed⟩ := committed
    simp only [acceptMvpDocument, bind_ok, exists_unit, expectRevision_ok] at committed
    obtain ⟨rfl, rfl⟩ := expected
    exact .inr ⟨_, congrArg some (Prod.ext committed.1 rfl)⟩
  case prepareKnowledgeDelivery now deliveryId command =>
    obtain ⟨_, committed⟩ := committed
    simp only [prepareKnowledgeDelivery, bind_ok, exists_unit, expectRevision_ok] at committed
    obtain ⟨rfl, rfl⟩ := expected
    exact .inr ⟨_, congrArg some (Prod.ext committed.1 rfl)⟩
  case completeKnowledgeDelivery command =>
    obtain ⟨_, committed⟩ := committed
    simp only [completeKnowledgeDelivery, bind_ok, exists_unit, expectRevision_ok] at committed
    obtain ⟨rfl, rfl⟩ := expected
    exact .inr ⟨_, congrArg some (Prod.ext committed.1 rfl)⟩
  case recordCost command =>
    obtain ⟨_, committed⟩ := committed
    simp only [recordCost, bind_ok, exists_unit, expectRevision_ok] at committed
    obtain ⟨rfl, rfl⟩ := expected
    exact .inr ⟨_, congrArg some (Prod.ext committed.1 rfl)⟩

end Expectations

section Runs

variable [Sha256] [SerdeJson]

omit [SerdeJson] in
theorem Versioned.Sound.fresh : Versioned.Sound Database.fresh :=
  ⟨by decide, by decide, .fresh⟩

theorem Versioned.Sound.next (process : DaemonProcess) (action : Action) (sound : Versioned.Sound process.db) :
    Versioned.Sound (process.next action).db := by
  rcases process.next_change action with same | change
  · rw [same]
    exact sound
  · have follow := change.catalogsFollow sound.identity
    exact ⟨follow.identity.bounded sound.identity, follow.m3.bounded sound.m3,
      (change.graphsFollow sound.graphs).sound sound.graphs⟩

theorem DaemonProcess.next_revises (process : DaemonProcess) (action : Action) (sound : Versioned.Sound process.db) :
    Versions.Revises (fun process : DaemonProcess => process.db.read) process (process.next action) := by
  intro resource document stored
  dsimp only at stored ⊢
  rcases process.next_change action with same | change
  · rw [same]
    exact ⟨document, stored, .refl document⟩
  · exact change.revises sound resource document stored

/-- A request that states the revision it expects finds it, or changes nothing. -/
theorem DaemonProcess.next_expected (process : DaemonProcess) (action : Action) (resource : Resource) (revision : Nat)
    (expected : (resource, revision) ∈ action.expectations) :
    (process.next action).db = process.db ∨ ∃ content, process.db.read resource = some (revision, content) := by
  cases action with
  | command issued =>
    simp only [DaemonProcess.next]
    rcases process.commit_cases (execute process.db issued) _ with ⟨db, _, committed, same⟩ | ⟨_, same⟩
    · rw [same]
      exact execute_expected committed expected
    · rw [same]
      exact .inl rfl
  | _ => exact absurd expected List.not_mem_nil

theorem Versioned.Sound.run {process : DaemonProcess} (sound : Versioned.Sound process.db) (actions : List Action) :
    Versioned.Sound (process.run actions).db :=
  Machine.run_preserves Versioned.Sound.next sound
    actions

/-- In every run, for each catalog and each stored execution: the revision never decreases, equal
revisions have equal content, and a change of the content increases the revision; the revision
stored beside an execution is its own; and when two requests expect the same revision of a
document and the first changes it, the second changes nothing. -/
theorem no_lost_update (first rest : List Action) :
    let process := DaemonProcess.fresh.run first
    (∀ resource revision content, process.db.read resource = some (revision, content) →
      ∃ revision' content', (process.run rest).db.read resource = some (revision', content') ∧
        revision ≤ revision' ∧ (revision' = revision → content' = content) ∧
        (content' ≠ content → revision < revision')) ∧
    (∀ row ∈ process.db.graphs.rows, row.revision = row.execution.revision) ∧
    (∀ one other resource revision, (resource, revision) ∈ one.expectations →
      (resource, revision) ∈ other.expectations →
      (process.next one).db.read resource ≠ process.db.read resource →
      let later := (process.next one).run rest
      (later.next other).db = later.db) := by
  intro process
  have sound : Versioned.Sound process.db := Versioned.Sound.run .fresh first
  refine ⟨fun resource revision content stored => ?_, fun row member => ?_, fun one other resource revision => ?_⟩
  · obtain ⟨⟨revision', content'⟩, later, follows⟩ :=
      Versions.run_revises Versioned.Sound.next DaemonProcess.next_revises sound rest resource _ stored
    refine ⟨revision', content', later, follows.revision_le, fun same => ?_, fun changed => ?_⟩
    · exact congrArg Prod.snd (follows.determined same)
    · rcases follows with same | increased
      · exact absurd (congrArg Prod.snd same) changed
      · exact increased
  · exact (sound.graphs _ row (Table.find?_mem member)).revision
  · have quiet : ∀ before after : DaemonProcess, after.db = before.db → after.db.read = before.db.read :=
      fun _ _ same => by rw [same]
    exact Versions.expected_once Versioned.Sound.next DaemonProcess.next_revises quiet DaemonProcess.next_expected sound
      rest

end Runs

end Bastet.Daemon
