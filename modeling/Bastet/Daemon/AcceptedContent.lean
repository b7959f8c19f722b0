import Bastet.Daemon.Changes
import Bastet.Daemon.RunLifecycle

/-! What a human has accepted: document versions and decision baselines. Every command keeps them as they
are, but the replacement of the M3 catalog, which does not compare the submitted catalog with the stored one. -/

set_option autoImplicit false

namespace Bastet.Core

/-- What an acceptance fixes of a document version. -/
structure AcceptedVersion where
  artifactId : ArtifactId
  versionId : ArtifactVersionId
  markdown : String
  contentHash : String
  acceptedBy : String
  acceptedAt : String
  deriving DecidableEq, Repr

/-- What it fixes of a decision. -/
structure AcceptedDecision where
  baselineId : DecisionBaselineId
  content : String
  contentHash : String
  acceptedBy : String
  acceptedAt : String
  deriving DecidableEq, Repr

def DocumentVersion.accepted? (artifactId : ArtifactId) (self : DocumentVersion) : Option AcceptedVersion :=
  match self.acceptedBy, self.acceptedAt with
  | some acceptedBy, some acceptedAt =>
    some ⟨artifactId, self.id, self.markdown, self.contentHash, acceptedBy, acceptedAt⟩
  | _, _ => none

def DecisionBaseline.decision (self : DecisionBaseline) : AcceptedDecision :=
  ⟨self.metadata.id, self.content, self.contentHash, self.acceptedBy, self.acceptedAt⟩

namespace M3Catalog

def acceptedVersions (self : M3Catalog) : List AcceptedVersion :=
  self.deliverables.documents.flatMap fun document => document.versions.filterMap (·.accepted? document.metadata.id)

def acceptedDecisions (self : M3Catalog) : List AcceptedDecision :=
  self.meetings.decisionBaselines.map (·.decision)

/-- What is accepted in the catalog is accepted in the later one, with the same content. -/
def retained (self later : M3Catalog) : Bool :=
  decide (self.acceptedVersions ⊆ later.acceptedVersions) && decide (self.acceptedDecisions ⊆ later.acceptedDecisions)

theorem retained_iff {self later : M3Catalog} : self.retained later = true ↔
    self.acceptedVersions ⊆ later.acceptedVersions ∧ self.acceptedDecisions ⊆ later.acceptedDecisions := by
  simp only [retained, Bool.and_eq_true, decide_eq_true_eq]

theorem retained_refl (self : M3Catalog) : self.retained self = true :=
  retained_iff.mpr ⟨List.Subset.refl _, List.Subset.refl _⟩

theorem retained_trans {first second third : M3Catalog} (one : first.retained second = true)
    (other : second.retained third = true) : first.retained third = true := by
  obtain ⟨versions, decisions⟩ := retained_iff.mp one
  obtain ⟨versions', decisions'⟩ := retained_iff.mp other
  exact retained_iff.mpr ⟨List.Subset.trans versions versions', List.Subset.trans decisions decisions'⟩

theorem mem_acceptedVersions {self : M3Catalog} {accepted : AcceptedVersion} :
    accepted ∈ self.acceptedVersions ↔ ∃ document ∈ self.deliverables.documents, ∃ version ∈ document.versions,
      version.accepted? document.metadata.id = some accepted := by
  simp only [acceptedVersions, List.mem_flatMap, List.mem_filterMap]

end M3Catalog

/-- A version that can be accepted is not accepted yet. -/
theorem DocumentVersion.accepted?_of_accept [Sha256] {version accepted : DocumentVersion} {actor acceptedAt : String}
    (done : version.accept actor acceptedAt = .ok accepted) (artifactId : ArtifactId) :
    version.accepted? artifactId = none := by
  simp only [accept, Fallible.bind_ok, Fallible.exists_unit, Fallible.rejectIf_ok, Bool.or_eq_false_iff] at done
  obtain ⟨_, ⟨⟨unaccepted, _⟩, _⟩, _⟩ := done
  rw [Option.isSome_eq_false_iff, Option.isNone_iff_eq_none] at unaccepted
  simp only [accepted?, unaccepted]

end Bastet.Core

namespace Bastet.Daemon

open Fallible Bastet.Core

section Replacement

variable [Sha256]

/-- The replacement of the M3 catalog would be committed, and something accepted would be lost with it. -/
def replacesAccepted (process : DaemonProcess) : Action → Bool
  | .command (.replaceM3Catalog command) =>
    decide (process.service = .serving) &&
      isOk (validateM3Catalog command.catalog process.db.identity.content) &&
      decide (process.db.m3.revision = command.expectedRevision) && decide (process.db.m3.revision + 1 < sqlLimit) &&
      !process.db.m3.content.retained command.catalog
  | _ => false

end Replacement

section Steps

variable [Sha256] {db after : Database}

theorem updateVersion_retained {catalog : M3Catalog} {artifactId : ArtifactId} {versionId : ArtifactVersionId}
    {document : DocumentArtifact} {version accepted : DocumentVersion} {actor acceptedAt : String}
    (found : (catalog.deliverables.documents.find? fun document => document.metadata.id = artifactId) = some document)
    (inside : (document.versions.find? fun version => version.id = versionId) = some version)
    (done : version.accept actor acceptedAt = .ok accepted) :
    catalog.retained (updateVersion catalog artifactId versionId fun _ => accepted) = true := by
  refine M3Catalog.retained_iff.mpr ⟨fun fixed before => ?_, List.Subset.refl _⟩
  obtain ⟨other, present, item, listed, fixes⟩ := M3Catalog.mem_acceptedVersions.mp before
  refine M3Catalog.mem_acceptedVersions.mpr ?_
  let updated (document : DocumentArtifact) : DocumentArtifact :=
    { document with versions := Lookup.modifyFirst (·.id) versionId (fun _ => accepted) document.versions }
  have reached : other ∈ Lookup.modifyFirst (·.metadata.id) artifactId updated catalog.deliverables.documents ∨
      (catalog.deliverables.documents.find? fun document => document.metadata.id = artifactId) = some other ∧
        updated other ∈ Lookup.modifyFirst (·.metadata.id) artifactId updated catalog.deliverables.documents :=
    Lookup.mem_of_mem_modifyFirst present
  rcases reached with kept | ⟨first, changed⟩
  · exact ⟨other, kept, item, listed, fixes⟩
  · -- the document of the command: the version it accepts was not accepted before
    obtain rfl := Option.some.inj (found.symm.trans first)
    refine ⟨updated document, changed, item, ?_, fixes⟩
    have stays : item ∈ (updated document).versions ∨
        (document.versions.find? fun version => version.id = versionId) = some item ∧
          accepted ∈ (updated document).versions :=
      Lookup.mem_of_mem_modifyFirst listed
    rcases stays with kept | ⟨located, _⟩
    · exact kept
    · obtain rfl := Option.some.inj (inside.symm.trans located)
      rw [DocumentVersion.accepted?_of_accept done] at fixes
      cases fixes

theorem Redrafts.retained {catalog : M3Catalog} (drafts : Redrafts db catalog) :
    db.m3.content.retained catalog = true := by
  cases drafts with
  | created =>
    refine M3Catalog.retained_iff.mpr ⟨?_, List.Subset.refl _⟩
    simp only [M3Catalog.acceptedVersions, addDocument, List.flatMap_append]
    exact List.subset_append_left ..
  | accepted found inside done => exact updateVersion_retained found inside done
  | delivered | costed => exact M3Catalog.retained_iff.mpr ⟨List.Subset.refl _, List.Subset.refl _⟩

omit [Sha256] in
theorem retained_of_unconfigured {catalog later : M3Catalog} (unconfigured : m3IsUnconfigured catalog = true) :
    catalog.retained later = true := by
  have nothing : catalog.meetings.decisionBaselines = [] ∧ catalog.deliverables.documents = [] := by
    simp only [m3IsUnconfigured, Bool.or_eq_true, Bool.and_eq_true, decide_eq_true_eq] at unconfigured
    rcases unconfigured with rfl | ⟨⟨_, meetings⟩, deliverables⟩
    · exact ⟨rfl, rfl⟩
    · rw [meetings, deliverables]
      exact ⟨rfl, rfl⟩
  refine M3Catalog.retained_iff.mpr ?_
  simp only [M3Catalog.acceptedVersions, M3Catalog.acceptedDecisions, nothing.1, nothing.2, List.map_nil,
    List.flatMap_nil]
  exact ⟨List.nil_subset _, List.nil_subset _⟩

variable [SerdeJson]

/-- Every change but the replacement of the M3 catalog retains what is accepted. -/
theorem Change.retains {action : Action} (change : Change db action after) :
    db.m3.content.retained after.m3.content = true ∨
      ∃ command, action = .command (.replaceM3Catalog command) ∧ after.m3.content = command.catalog ∧
        validateM3Catalog command.catalog db.identity.content = .ok () ∧
        db.m3.revision = command.expectedRevision ∧ db.m3.revision + 1 < sqlLimit := by
  have same : ∀ {later : Database}, later.m3 = db.m3 → db.m3.content.retained later.m3.content = true := by
    intro later kept
    rw [kept]
    exact M3Catalog.retained_refl _
  cases change with
  | replacedM3 events expected valid bounded => exact .inr ⟨_, rfl, rfl, valid, expected, bounded⟩
  | prepared events made initial unconfigured => exact .inl (retained_of_unconfigured unconfigured)
  | accepted events made =>
    left
    obtain ⟨baseline, _, _, _, _, rfl⟩ := Core.acceptMvpDecision_ok made
    refine M3Catalog.retained_iff.mpr ⟨List.Subset.refl _, ?_⟩
    simp only [M3Catalog.acceptedDecisions, MeetingCatalog.acceptMeeting, List.map_append]
    exact List.subset_append_left ..
  | storedM3 stored drafts =>
    obtain ⟨_, _, _, rfl⟩ := stored
    exact .inl drafts.retained
  | worked stored =>
    obtain ⟨_, _, _, _, _, rfl⟩ := stored
    exact .inl (same rfl)
  | begun events begun serving attended current left => exact .inl (same (Beginning.stages left).m3)
  | finished events trusted finishing =>
    left
    show db.m3.content.retained finishing.finished.m3 = true
    rw [finishing.m3Made]
    exact M3Catalog.retained_iff.mpr ⟨List.Subset.refl _, List.Subset.refl _⟩
  | decided issued events deciding informed => exact .inl (same (onDecision_spares informed).m3)
  | cancelled events some => exact .inl (same some.spares.m3)
  | revoked events spent cancels => exact .inl (same cancels.spares.m3)
  | recovered events middle proved catalogValid recoverable revised expired => exact .inl (same expired.spares.m3)
  | _ => exact .inl (same rfl)

theorem DaemonProcess.next_retains (process : DaemonProcess) (action : Action)
    (kept : replacesAccepted process action = false) :
    process.db.m3.content.retained (process.next action).db.m3.content = true := by
  rcases process.next_change action with same | change
  · rw [same]
    exact M3Catalog.retained_refl _
  · rcases change.retains with retained | ⟨command, rfl, replaced, valid, expected, bounded⟩
    · exact retained
    · rcases process.next_command (.replaceM3Catalog command) with serving | same
      · rw [replaced]
        have checks := isOk_iff.mpr ⟨_, valid⟩
        simpa only [replacesAccepted, serving, checks, expected, decide_true, expected ▸ bounded, Bool.true_and,
          Bool.not_eq_false'] using kept
      · rw [same]
        exact M3Catalog.retained_refl _

end Steps

section Runs

variable [Sha256] [SerdeJson]

/-- What is accepted in a reachable state is accepted later, with the same content, hash, actor and time, when no
replacement of the M3 catalog loses it. -/
theorem accepted_content_immutable (first rest : List Action)
    (permitted : Machine.Allowed DaemonProcess.next (fun process action => replacesAccepted process action = false)
      (DaemonProcess.fresh.run first) rest) :
    let process := DaemonProcess.fresh.run first
    process.db.m3.content.acceptedVersions ⊆ (process.run rest).db.m3.content.acceptedVersions ∧
      process.db.m3.content.acceptedDecisions ⊆ (process.run rest).db.m3.content.acceptedDecisions := by
  intro process
  refine M3Catalog.retained_iff.mp ?_
  exact Machine.allowed_run_relates
    (fun before later : DaemonProcess => before.db.m3.content.retained later.db.m3.content = true)
    (fun _ => M3Catalog.retained_refl _) (fun _ _ _ => M3Catalog.retained_trans) DaemonProcess.next_retains permitted

/-- The digests of the decision in `firstRun` and of another one. -/
def decisionDigests : List (String × String) :=
  [("Research the market.", "6b443c7d97756474b1fe3e2e90f203ccfc82464df739285ea228f4359ec0f314"),
    ("Leave the market.", "42f946084e2fbaba0e0a28096b86dfd81065fc12d29b7a9b3244a39ff2f6357f")]

omit [Sha256] [SerdeJson] in
theorem accepted_content_immutable_restarted :
    let process := @DaemonProcess.run (.table decisionDigests) SerdeJson.compact .fresh (firstRun.take 2)
    let rest := firstRun.drop 2 ++ [.restart 9]
    process.db.m3.content.acceptedVersions ⊆
        (@DaemonProcess.run (.table decisionDigests) SerdeJson.compact process rest).db.m3.content.acceptedVersions ∧
      process.db.m3.content.acceptedDecisions ⊆
        (@DaemonProcess.run (.table decisionDigests) SerdeJson.compact process rest).db.m3.content.acceptedDecisions := by
  have permitted : ∀ process, @Machine.Allowed _ _ (@DaemonProcess.next (.table decisionDigests) SerdeJson.compact)
      (fun process action => @replacesAccepted (.table decisionDigests) process action = false) process
      (firstRun.drop 2 ++ [.restart 9]) :=
    fun _ => ⟨rfl, rfl, trivial⟩
  have kept := @accepted_content_immutable (.table decisionDigests) SerdeJson.compact (firstRun.take 2)
    (firstRun.drop 2 ++ [.restart 9]) (permitted _)
  exact kept

/-- Another decision under the identity of the accepted one, with its own hash. -/
def rewrittenBaseline : DecisionBaseline :=
  ⟨metadata (nth 20), nth 2, "Leave the market.",
    "sha256:42f946084e2fbaba0e0a28096b86dfd81065fc12d29b7a9b3244a39ff2f6357f", "owner", "2026-09-03"⟩

omit [Sha256] [SerdeJson] in
/-- A catalog whose decision was rewritten replaces the one in which it was accepted. -/
theorem accepted_content_immutable_fails :
    let process := @DaemonProcess.run (.table decisionDigests) SerdeJson.compact .fresh (firstRun.take 2)
    let stored := process.db.m3.content
    let submitted := { stored with meetings := { stored.meetings with decisionBaselines := [rewrittenBaseline] } }
    let later := @DaemonProcess.next (.table decisionDigests) SerdeJson.compact process
      (.command (.replaceM3Catalog ⟨2, submitted⟩))
    stored.acceptedDecisions.map (·.content) = ["Research the market."] ∧
      later.db.m3.content.acceptedDecisions = [rewrittenBaseline.decision] ∧
      ¬stored.acceptedDecisions ⊆ later.db.m3.content.acceptedDecisions := by
  decide +kernel

end Runs

end Bastet.Daemon
