import Bastet.Core.Catalog

/-! The office of a project: pet profiles, their assignment to roles, and rooms. -/

set_option autoImplicit false

namespace Bastet.Core

open Fallible

def requiredPetStates : List String :=
  ["idle", "thinking", "working", "waiting", "blocked", "approval_required", "succeeded", "failed"]

structure PetStateAsset where
  stateKey : String
  assetRef : String
  accessibleLabelKey : String
  deriving DecidableEq, Repr

structure PetProfile where
  metadata : EntityMetadata PetProfileId
  name : String
  version : Nat
  states : List PetStateAsset
  deriving DecidableEq, Repr

structure PetAssignment where
  metadata : EntityMetadata PetAssignmentId
  projectId : ProjectId
  roleId : RoleId
  agentInstanceId : AgentInstanceId
  petProfileId : PetProfileId
  deriving DecidableEq, Repr

structure Room where
  metadata : EntityMetadata RoomId
  projectId : ProjectId
  name : String
  capacity : Nat
  deriving DecidableEq, Repr

structure OfficeCatalog where
  petProfiles : List PetProfile
  petAssignments : List PetAssignment
  rooms : List Room
  deriving DecidableEq, Repr

inductive OfficeError where
  | duplicateId (entity : String) (id : Uuid)
  | emptyField (entity field : String)
  | invalidVersion
  | invalidCapacity
  | missingPetState (state : String)
  | duplicatePetState (state : String)
  | missingPetProfile
  | missingIdentityReference
  | missingProject
  | duplicateRoleAssignment
  deriving DecidableEq, Repr

namespace OfficeCatalog

def unique (entity : String) (ids : List Uuid) : Except OfficeError Unit :=
  distinctFrom (OfficeError.duplicateId entity) [] ids

def nonempty (entity field value : String) : Except OfficeError Unit :=
  rejectIf (isBlank value) (.emptyField entity field)

/-- The states of a profile, read one after another with the keys seen so far. -/
def validateStates (states : List String) (asset : PetStateAsset) : Except OfficeError (List String) := do
  nonempty "PetStateAsset" "state_key" asset.stateKey
  nonempty "PetStateAsset" "asset_ref" asset.assetRef
  nonempty "PetStateAsset" "accessible_label_key" asset.accessibleLabelKey
  rejectIf (decide (asset.stateKey ∈ states)) (.duplicatePetState asset.stateKey)
  return asset.stateKey :: states

def validateProfile (profile : PetProfile) : Except OfficeError Unit := do
  nonempty "PetProfile" "name" profile.name
  rejectIf (decide (profile.version = 0)) .invalidVersion
  let states ← foldEach validateStates profile.states []
  forEach (fun required => rejectIf (decide (required ∉ states)) (.missingPetState required)) requiredPetStates

/-- An assignment is checked against the roles already assigned. -/
def validateAssignment (self : OfficeCatalog) (identity : IdentityCatalog) (assigned : List (ProjectId × RoleId))
    (assignment : PetAssignment) : Except OfficeError (List (ProjectId × RoleId)) := do
  rejectIf (!(self.petProfiles.any fun profile => profile.metadata.id = assignment.petProfileId)) .missingPetProfile
  rejectIf (!(identity.projects.any fun project => project.metadata.id = assignment.projectId) ||
    !(identity.roles.any fun role => role.metadata.id = assignment.roleId) ||
    !(identity.agentInstances.any fun agent => agent.metadata.id = assignment.agentInstanceId))
    .missingIdentityReference
  rejectIf (decide ((assignment.projectId, assignment.roleId) ∈ assigned)) .duplicateRoleAssignment
  return (assignment.projectId, assignment.roleId) :: assigned

def validateRoom (identity : IdentityCatalog) (room : Room) : Except OfficeError Unit := do
  nonempty "Room" "name" room.name
  rejectIf (decide (room.capacity = 0)) .invalidCapacity
  rejectIf (!(identity.projects.any fun project => project.metadata.id = room.projectId)) .missingProject

def validate (self : OfficeCatalog) (identity : IdentityCatalog) : Except OfficeError Unit := do
  unique "PetProfile" (self.petProfiles.map (·.metadata.id.value))
  unique "PetAssignment" (self.petAssignments.map (·.metadata.id.value))
  unique "Room" (self.rooms.map (·.metadata.id.value))
  forEach validateProfile self.petProfiles
  let _ ← foldEach (self.validateAssignment identity) self.petAssignments []
  forEach (validateRoom identity) self.rooms

end OfficeCatalog

end Bastet.Core
