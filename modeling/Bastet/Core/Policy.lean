import Bastet.Library.Fallible

/-! Permission ceilings of the policy layers, and their restriction. -/

set_option autoImplicit false

namespace Bastet.Core

open Fallible

inductive PermissionLevel where
  | deny
  | observe
  | use
  deriving DecidableEq, Repr

def PermissionLevel.rank : PermissionLevel → Nat
  | .deny => 0
  | .observe => 1
  | .use => 2

structure PolicyCeiling where
  filesystem : PermissionLevel
  network : PermissionLevel
  process : PermissionLevel
  device : PermissionLevel
  credential : PermissionLevel
  persistentApproval : Bool
  deriving DecidableEq, Repr

inductive PolicyLayer where
  | workstation
  | project
  | roleOrAgent
  | singleRun
  deriving DecidableEq, Repr

def PolicyLayer.rank : PolicyLayer → Nat
  | .workstation => 0
  | .project => 1
  | .roleOrAgent => 2
  | .singleRun => 3

inductive PolicyError where
  | exceedsParent (field : String)
  | invalidLayerOrder
  deriving DecidableEq, Repr

structure ScopedPolicy where
  layer : PolicyLayer
  ceiling : PolicyCeiling
  deriving DecidableEq, Repr

/-- The graded fields of a parent ceiling beside those a child asks for. -/
def PolicyCeiling.levels (parent child : PolicyCeiling) : List (String × PermissionLevel × PermissionLevel) :=
  [("filesystem", parent.filesystem, child.filesystem),
    ("network", parent.network, child.network),
    ("process", parent.process, child.process),
    ("device", parent.device, child.device),
    ("credential", parent.credential, child.credential)]

def ScopedPolicy.restrict (self child : ScopedPolicy) : Except PolicyError ScopedPolicy := do
  rejectIf (decide (child.layer.rank ≤ self.layer.rank)) .invalidLayerOrder
  forEach (fun (field, parent, requested) =>
    rejectIf (decide (parent.rank < requested.rank)) (.exceedsParent field))
    (self.ceiling.levels child.ceiling)
  rejectIf (child.ceiling.persistentApproval && !self.ceiling.persistentApproval)
    (.exceedsParent "persistent_approval")
  return child

end Bastet.Core
