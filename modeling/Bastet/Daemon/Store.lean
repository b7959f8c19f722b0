import Bastet.Core.Approval
import Bastet.Core.Mvp

/-! How the store's commands fail, and the small checks every command is written with. -/

set_option autoImplicit false

namespace Bastet.Daemon

open Fallible Bastet.Core

inductive DaemonLifecycle where
  | starting
  | ready
  | checkpointing
  | suspended
  | stopping
  | recovering
  deriving DecidableEq, Repr

/-- `format!("{:?}", state).to_lowercase()`. -/
def runStateName : NormalizedRunState → String
  | .starting => "starting"
  | .running => "running"
  | .awaitingApproval => "awaitingapproval"
  | .blocked => "blocked"
  | .cancelling => "cancelling"
  | .cancelled => "cancelled"
  | .failed => "failed"
  | .succeeded => "succeeded"
  | .recovering => "recovering"
  | .uncertain => "uncertain"

/-- The text of an error: one of the source's own, or another error rendered by `to_string`. -/
inductive Message where
  | text (text : String)
  | office (error : OfficeError)
  | meeting (error : MeetingError)
  | deliverable (error : DeliverableError)
  | m3 (error : M3Error)
  | mvp (error : MvpError)
  deriving DecidableEq, Repr

inductive StoreError where
  | database
  | revisionConflict (expected actual : Nat)
  | invalidLifecycle (expected : DaemonLifecycle) (actual : DaemonLifecycle)
  | poisoned
  | invalidCatalog (error : CatalogError)
  | serialization
  | invalidApproval (error : ApprovalError)
  | approvalNotFound
  | approvalConflict
  | credentialGrantNotFound
  | credentialGrantRejected
  | revisionOverflow
  | runNotFound
  | invalidRunState (reason : String)
  | runControlRejected
  | providerRunsActive
  | invalidGraph (error : GraphError)
  | invalidM3 (message : Message)
  | invalidMvp (message : Message)
  | invalidDocument (message : Message)
  | invalidCost (message : Message)
  | graphNotFound
  | graphConflict
  deriving DecidableEq, Repr

/-- A command fails with an error of the store, or at an assertion inside its transaction. -/
abbrev StoreResult (α : Type) := Except (Fault StoreError) α

section Checks

variable {α ε : Type}

/-- The `?` of the source on a result of another error type. -/
def lift (convert : ε → StoreError) (value : Except ε α) : StoreResult α :=
  checked (value.mapError convert)

/-- The same on a result with assertions. -/
def liftFault (convert : ε → StoreError) : Except (Fault ε) α → StoreResult α
  | .ok value => .ok value
  | .error (.error error) => .error (.error (convert error))
  | .error (.panic message) => .error (.panic message)

def reject (bad : Bool) (error : StoreError) : StoreResult Unit :=
  rejectIf bad (.error error)

def required (value : Option α) (error : StoreError) : StoreResult α :=
  okOr value (.error error)

/-- The revision a client expects is the stored one. -/
def expectRevision (expected actual : Nat) : StoreResult Unit :=
  reject (decide (actual ≠ expected)) (.revisionConflict expected actual)

/-- `revision.checked_add(1).ok_or(StoreError::RevisionOverflow)` on a `u64`. -/
def nextRevision (revision : Nat) : StoreResult Nat := do
  reject (decide (2 ^ 64 ≤ revision + 1)) .revisionOverflow
  return revision + 1

/-- An SQL integer holds the numbers below this one. -/
def sqlLimit : Nat := 2 ^ 63

/-- Binding a `u64` to an SQL parameter. -/
def storable (value : Nat) : StoreResult Unit :=
  reject (decide (sqlLimit ≤ value)) .database

/-- `now_ms`: the clock in milliseconds, as far as an SQL integer holds it. -/
def nowMs (now : Nat) : StoreResult Unit :=
  reject (decide (sqlLimit ≤ now)) .credentialGrantRejected

@[simp] theorem lift_ok {convert : ε → StoreError} {value : Except ε α} {result : α} :
    lift convert value = .ok result ↔ value = .ok result := by
  simp [lift]

@[simp] theorem liftFault_ok {convert : ε → StoreError} {value : Except (Fault ε) α} {result : α} :
    liftFault convert value = .ok result ↔ value = .ok result := by
  rcases value with (error | message) | value <;> simp [liftFault]

@[simp] theorem reject_ok {bad : Bool} {error : StoreError} {result : Unit} :
    reject bad error = .ok result ↔ bad = false :=
  rejectIf_ok

@[simp] theorem required_ok {value : Option α} {error : StoreError} {result : α} :
    required value error = .ok result ↔ value = some result :=
  okOr_ok

@[simp] theorem expectRevision_ok {expected actual : Nat} {result : Unit} :
    expectRevision expected actual = .ok result ↔ actual = expected := by
  simp [expectRevision]

@[simp] theorem nextRevision_ok {revision next : Nat} :
    nextRevision revision = .ok next ↔ revision + 1 < 2 ^ 64 ∧ revision + 1 = next := by
  simp only [nextRevision, bind_ok, exists_unit, reject_ok, decide_eq_false_iff_not, not_le, pure_ok]

@[simp] theorem storable_ok {value : Nat} {result : Unit} :
    storable value = .ok result ↔ value < sqlLimit := by
  simp only [storable, reject_ok, decide_eq_false_iff_not, not_le]

@[simp] theorem nowMs_ok {now : Nat} {result : Unit} : nowMs now = .ok result ↔ now < sqlLimit := by
  simp only [nowMs, reject_ok, decide_eq_false_iff_not, not_le]

end Checks

/-- `timestamp()`: the clock in milliseconds as text. -/
def timestamp (now : Nat) : String :=
  toString now

/-- `entity_metadata`. -/
def entityMetadata {Id : Type} (now : Nat) (id : Id) (sourceId : String) : EntityMetadata Id :=
  ⟨id, 0, timestamp now, timestamp now, ⟨"local_user", sourceId, "bastet-daemon"⟩, .active⟩

end Bastet.Daemon
