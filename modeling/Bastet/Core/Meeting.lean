import Bastet.Library.Lookup
import Bastet.Core.Graph
import Bastet.Core.Office

/-! Project meetings and the decision baselines a human accepts from them. -/

set_option autoImplicit false

namespace Bastet.Core

open Fallible

def maxMeetingRounds : Nat := 5

def maxMeetingParticipants : Nat := 12

inductive MeetingState where
  | draft
  | inProgress
  | awaitingDecision
  | accepted
  deriving DecidableEq, Repr

structure MeetingRound where
  index : Nat
  summary : String
  deriving DecidableEq, Repr

structure ProjectMeeting where
  metadata : EntityMetadata MeetingId
  projectId : ProjectId
  roomId : RoomId
  participantRoleIds : List RoleId
  maxRounds : Nat
  rounds : List MeetingRound
  state : MeetingState
  deriving DecidableEq, Repr

structure DecisionBaseline where
  metadata : EntityMetadata DecisionBaselineId
  meetingId : MeetingId
  content : String
  contentHash : String
  acceptedBy : String
  acceptedAt : String
  deriving DecidableEq, Repr

structure MeetingCatalog where
  meetings : List ProjectMeeting
  decisionBaselines : List DecisionBaseline
  deriving DecidableEq, Repr

inductive MeetingError where
  | invalidRoom
  | invalidParticipants
  | invalidRoundLimit
  | invalidRounds
  | missingMeeting
  | meetingNotAwaitingDecision
  | missingAcceptance
  | hashMismatch
  | duplicateBaseline
  deriving DecidableEq, Repr

section Baselines

variable [Sha256]

def hashContent (content : String) : String :=
  "sha256:" ++ Sha256.hex content

def DecisionBaseline.create (metadata : EntityMetadata DecisionBaselineId) (meetingId : MeetingId)
    (content acceptedBy acceptedAt : String) : Except MeetingError DecisionBaseline := do
  rejectIf (isBlank content || isBlank acceptedBy || isBlank acceptedAt) .missingAcceptance
  return ⟨metadata, meetingId, content, hashContent content, acceptedBy, acceptedAt⟩

def DecisionBaseline.validateUnchanged (self : DecisionBaseline) : Except MeetingError Unit := do
  rejectIf (isBlank self.content || isBlank self.acceptedBy || isBlank self.acceptedAt) .missingAcceptance
  rejectIf (decide (self.contentHash ≠ hashContent self.content)) .hashMismatch

end Baselines

namespace MeetingCatalog

/-- A round is numbered by its place, from one, and has a summary. -/
def roundInvalid (entry : MeetingRound × Nat) : Bool :=
  decide (entry.1.index ≠ min (entry.2 + 1) 255) || isBlank entry.1.summary

def validateMeeting (identity : IdentityCatalog) (office : OfficeCatalog) (meeting : ProjectMeeting) :
    Except MeetingError Unit := do
  rejectIf (!(office.rooms.any fun room => room.metadata.id = meeting.roomId && room.projectId = meeting.projectId))
    .invalidRoom
  rejectIf (meeting.participantRoleIds.isEmpty ||
    decide (maxMeetingParticipants < meeting.participantRoleIds.length) ||
    decide (meeting.participantRoleIds.toFinset.card ≠ meeting.participantRoleIds.length) ||
    meeting.participantRoleIds.any fun roleId => !(identity.roles.any fun role => role.metadata.id = roleId))
    .invalidParticipants
  rejectIf (decide (meeting.maxRounds = 0) || decide (maxMeetingRounds < meeting.maxRounds)) .invalidRoundLimit
  rejectIf (decide (meeting.maxRounds < meeting.rounds.length) || meeting.rounds.zipIdx.any roundInvalid) .invalidRounds

/-- A baseline is checked against the meetings that already have one. -/
def validateBaseline [Sha256] (self : MeetingCatalog) (decided : List MeetingId) (baseline : DecisionBaseline) :
    Except MeetingError (List MeetingId) := do
  baseline.validateUnchanged
  let meeting ← okOr (self.meetings.find? fun meeting => meeting.metadata.id = baseline.meetingId) .missingMeeting
  rejectIf (!(meeting.state = .awaitingDecision || meeting.state = .accepted)) .meetingNotAwaitingDecision
  rejectIf (decide (baseline.meetingId ∈ decided)) .duplicateBaseline
  return baseline.meetingId :: decided

def validate [Sha256] (self : MeetingCatalog) (identity : IdentityCatalog) (office : OfficeCatalog) :
    Except MeetingError Unit := do
  forEach (validateMeeting identity office) self.meetings
  let _ ← foldEach self.validateBaseline self.decisionBaselines []

end MeetingCatalog

end Bastet.Core
