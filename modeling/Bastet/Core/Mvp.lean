import Bastet.Core.M3

/-! The first project of a workstation: its draft, and the decision that starts its graph.
The random identifiers of the source are arguments. -/

set_option autoImplicit false

namespace Bastet.Core

open Fallible Lookup

/-- `value.trim()`. -/
def trim (value : String) : String :=
  String.ofList (((value.toList.dropWhile isWhitespace).reverse.dropWhile isWhitespace).reverse)

inductive MvpError where
  | invalidProject
  | invalidDraft
  | notAwaitingDecision
  deriving DecidableEq, Repr

structure MvpDraft where
  identity : IdentityCatalog
  m3 : M3Catalog
  projectId : ProjectId
  meetingId : MeetingId
  researchRoleIds : RoleId × RoleId
  integratorRoleId : RoleId
  deriving DecidableEq, Repr

/-- The identifiers a draft is made of. -/
structure MvpDraftIds where
  projectId : ProjectId
  meetingId : MeetingId
  roomId : RoomId
  researchRoleIds : RoleId × RoleId
  integratorRoleId : RoleId
  codexProviderId : AgentProviderId
  agyProviderId : AgentProviderId
  openaiProviderId : ModelProviderId
  agyModelProviderId : ModelProviderId
  codexModelId : ModelId
  agyModelId : ModelId
  codexAgentId : AgentInstanceId
  agyAgentId : AgentInstanceId
  assignmentIds : PetAssignmentId × PetAssignmentId × PetAssignmentId
  deriving DecidableEq, Repr

def metadata {Id : Type} (id : Id) : EntityMetadata Id :=
  ⟨id, 0, "locally-created", "locally-created",
    ⟨"local_user", "mvp_vertical_slice", "bastet-workstation"⟩, .active⟩

def policy (layer : PolicyLayer) (level : PermissionLevel) : ScopedPolicy :=
  ⟨layer, ⟨level, level, level, .deny, .deny, false⟩⟩

/-- The sixteen bytes of the built-in profile's id are all `0xBA`. -/
def builtinPetProfileId : PetProfileId :=
  ⟨0xBABABABABABABABABABABABABABABABA#128⟩

def builtinPetProfile : PetProfile :=
  ⟨{ metadata builtinPetProfileId with
      provenance := ⟨"first_party", "bastet-cat-v1", "bastet-workstation"⟩ },
    "Bastet Cat", 1,
    requiredPetStates.map fun state => ⟨state, "builtin://bastet-cat/" ++ state, "pet.state." ++ state⟩⟩

def assignment (id : PetAssignmentId) (projectId : ProjectId) (roleId : RoleId) (agentInstanceId : AgentInstanceId)
    (petProfileId : PetProfileId) : PetAssignment :=
  ⟨metadata id, projectId, roleId, agentInstanceId, petProfileId⟩

namespace MvpDraft

def draftIdentity (ids : MvpDraftIds) (projectName workspaceRoot codexModel agyModel : String) : IdentityCatalog :=
  let projectPolicy := policy .project .use
  let rolePolicy := policy .roleOrAgent .use
  { IdentityCatalog.empty with
    agentProviders := [⟨metadata ids.codexProviderId, "codex_cli", "Codex CLI"⟩,
      ⟨metadata ids.agyProviderId, "agy_cli", "Agy CLI"⟩]
    modelProviders := [⟨metadata ids.openaiProviderId, "openai", "OpenAI"⟩,
      ⟨metadata ids.agyModelProviderId, "agy", "Agy"⟩]
    models := [⟨metadata ids.codexModelId, ids.openaiProviderId, trim codexModel, ["low", "medium", "high"]⟩,
      ⟨metadata ids.agyModelId, ids.agyModelProviderId, trim agyModel, ["low", "medium", "high"]⟩]
    agentInstances := [⟨metadata ids.codexAgentId, ids.codexProviderId, none, some ids.codexModelId⟩,
      ⟨metadata ids.agyAgentId, ids.agyProviderId, none, some ids.agyModelId⟩]
    projects := [⟨metadata ids.projectId, trim projectName, workspaceRoot, projectPolicy⟩]
    roles := [⟨metadata ids.researchRoleIds.1, "Research A", ["independent research branch A"], rolePolicy⟩,
      ⟨metadata ids.researchRoleIds.2, "Research B", ["independent research branch B"], rolePolicy⟩,
      ⟨metadata ids.integratorRoleId, "Document Integrator", ["join evidence into a versioned document"],
        rolePolicy⟩] }

def draftOffice (ids : MvpDraftIds) : OfficeCatalog where
  petProfiles := [builtinPetProfile]
  petAssignments :=
    [assignment ids.assignmentIds.1 ids.projectId ids.researchRoleIds.1 ids.codexAgentId builtinPetProfile.metadata.id,
      assignment ids.assignmentIds.2.1 ids.projectId ids.researchRoleIds.2 ids.agyAgentId
        builtinPetProfile.metadata.id,
      assignment ids.assignmentIds.2.2 ids.projectId ids.integratorRoleId ids.codexAgentId
        builtinPetProfile.metadata.id]
  rooms := [⟨metadata ids.roomId, ids.projectId, "Project Room", 12⟩]

def draftMeetings (ids : MvpDraftIds) : MeetingCatalog where
  meetings := [⟨metadata ids.meetingId, ids.projectId, ids.roomId,
    [ids.researchRoleIds.1, ids.researchRoleIds.2, ids.integratorRoleId], 3,
    [⟨1, "Two independent research branches followed by one explicit document join."⟩], .awaitingDecision⟩]
  decisionBaselines := []

def validate [Sha256] (self : MvpDraft) : Except MvpError Unit := do
  self.identity.validate.mapError fun _ => .invalidDraft
  (self.m3.office.validate self.identity).mapError fun _ => .invalidDraft
  (self.m3.meetings.validate self.identity self.m3.office).mapError fun _ => .invalidDraft

/-- `directory` says whether the workspace root is absolute and names a directory. -/
def prepare [Sha256] (ids : MvpDraftIds) (directory : Bool) (projectName workspaceRoot codexModel agyModel : String) :
    Except MvpError MvpDraft := do
  rejectIf (isBlank projectName || !directory || isBlank codexModel || isBlank agyModel) .invalidProject
  let draft : MvpDraft :=
    ⟨draftIdentity ids projectName workspaceRoot codexModel agyModel,
      ⟨draftOffice ids, draftMeetings ids, ⟨[], [], []⟩⟩,
      ids.projectId, ids.meetingId, ids.researchRoleIds, ids.integratorRoleId⟩
  draft.validate
  return draft

end MvpDraft

/-- The identifiers an accepted decision is made of. -/
structure DecisionIds where
  baselineId : DecisionBaselineId
  left : GraphNodeId
  right : GraphNodeId
  join : GraphNodeId
  executionId : GraphRunId
  deriving DecidableEq, Repr

/-- Two research nodes and the join of their results. -/
def researchGraph (ids : DecisionIds) (leftRole rightRole integratorRole : RoleId) : WorkflowGraph where
  decisionBaselineId := ids.baselineId
  nodes := [⟨ids.left, .research, leftRole, "Independent research A", []⟩,
    ⟨ids.right, .research, rightRole, "Independent research B", []⟩,
    ⟨ids.join, .join, integratorRole, "Join research into document", [ids.left, ids.right]⟩]

def MeetingCatalog.acceptMeeting (self : MeetingCatalog) (meetingId : MeetingId) (baseline : DecisionBaseline) :
    MeetingCatalog where
  meetings := modifyFirst (·.metadata.id) meetingId (fun meeting => { meeting with state := .accepted }) self.meetings
  decisionBaselines := self.decisionBaselines ++ [baseline]

def acceptMvpDecision [Sha256] (ids : DecisionIds) (m3 : M3Catalog) (identity : IdentityCatalog)
    (meetingId : MeetingId) (content actor acceptedAt : String) : Except MvpError (M3Catalog × GraphExecution) := do
  let meeting ← okOr (m3.meetings.meetings.find? fun meeting => meeting.metadata.id = meetingId) .invalidDraft
  rejectIf (decide (meeting.state ≠ .awaitingDecision)) .notAwaitingDecision
  match meeting.participantRoleIds with
  | [leftRole, rightRole, integratorRole] => do
    rejectIf ([leftRole, rightRole, integratorRole].any fun roleId =>
      !(identity.roles.any fun role => role.metadata.id = roleId)) .invalidDraft
    let baseline ← (DecisionBaseline.create (metadata ids.baselineId) meetingId content actor acceptedAt).mapError
      fun _ => MvpError.invalidDraft
    let execution ← (GraphExecution.start ids.executionId
      (researchGraph ids leftRole rightRole integratorRole)).mapError fun _ => MvpError.invalidDraft
    return ({ m3 with meetings := m3.meetings.acceptMeeting meetingId baseline }, execution)
  | _ => .error .invalidDraft

/-- An accepted decision leaves its baseline, and starts an execution for it. -/
theorem acceptMvpDecision_ok [Sha256] {ids : DecisionIds} {m3 catalog : M3Catalog} {identity : IdentityCatalog}
    {meetingId : MeetingId} {content actor acceptedAt : String} {execution : GraphExecution}
    (accepted : acceptMvpDecision ids m3 identity meetingId content actor acceptedAt = .ok (catalog, execution)) :
    ∃ baseline graph,
      DecisionBaseline.create (metadata ids.baselineId) meetingId content actor acceptedAt = .ok baseline ∧
      GraphExecution.start ids.executionId graph = .ok execution ∧ graph.decisionBaselineId = ids.baselineId ∧
      catalog = { m3 with meetings := m3.meetings.acceptMeeting meetingId baseline } := by
  simp only [acceptMvpDecision, bind_ok, exists_unit] at accepted
  obtain ⟨_, _, _, accepted⟩ := accepted
  split at accepted
  · simp only [bind_ok, exists_unit, mapError_ok, pure_ok, Prod.mk.injEq] at accepted
    obtain ⟨_, baseline, created, _, started, rfl, rfl⟩ := accepted
    exact ⟨baseline, _, created, started, rfl, rfl⟩
  · cases accepted

end Bastet.Core
