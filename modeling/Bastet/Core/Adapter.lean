import Bastet.Core.Identity

/-! What an adapter reports about a run: its normalized state, failure and cost evidence. -/

set_option autoImplicit false

namespace Bastet.Core

def agentAdapterContractVersion : Nat := 1

inductive AdapterOperation where
  | discover
  | install
  | update
  | version
  | doctor
  | authenticate
  | inspectAuthentication
  | listModels
  | start
  | attach
  | prompt
  | steer
  | followUp
  | status
  | explain
  | wait
  | cancel
  | terminate
  | exportSession
  | exportResult
  | exportUsage
  deriving DecidableEq, Repr

structure AdapterCapabilities where
  operations : List AdapterOperation
  reasoningControls : List String
  supportsReadOnly : Bool
  supportsWrite : Bool
  supportsResume : Bool
  supportsStructuredEvents : Bool
  deriving DecidableEq, Repr

inductive EvidenceClass where
  | providerReported
  | agentReported
  | locallyMeasured
  | estimated
  | unknown
  deriving DecidableEq, Repr

inductive NormalizedRunState where
  | starting
  | running
  | awaitingApproval
  | blocked
  | cancelling
  | cancelled
  | failed
  | succeeded
  | recovering
  | uncertain
  deriving DecidableEq, Repr

/-- The states a run never leaves. -/
def NormalizedRunState.isTerminal : NormalizedRunState → Bool
  | .cancelled | .failed | .succeeded | .blocked | .uncertain => true
  | _ => false

inductive AdapterFailureKind where
  | binaryMissing
  | authentication
  | quota
  | permissionDenied
  | timeout
  | cancelled
  | crashed
  | protocolDrift
  | malformedOutput
  | unsupported
  | unknown
  deriving DecidableEq, Repr

/-- An event of a run as an adapter reports it, in its own numbering. -/
structure NormalizedAdapterEvent where
  contractVersion : Nat
  runId : RunId
  sequence : Nat
  state : NormalizedRunState
  eventType : String
  occurredAt : String
  evidenceClass : EvidenceClass
  providerEventId : Option String
  redactedPayloadJson : String
  deriving DecidableEq, Repr

structure AdapterFailure where
  kind : AdapterFailureKind
  messageKey : String
  retryable : Bool
  providerCode : Option String
  redactedDetail : Option String
  deriving DecidableEq, Repr

/-- A floating-point value: not a number, an infinity, or a finite number. -/
inductive Floating where
  | nan
  | infinite (negative : Bool)
  | finite (value : Rat)
  deriving DecidableEq, Repr

def Floating.isFinite : Floating → Bool
  | .finite _ => true
  | _ => false

/-- `value < 0.0`, which no comparison with NaN satisfies. -/
def Floating.isNegative : Floating → Bool
  | .nan => false
  | .infinite negative => negative
  | .finite value => decide (value < 0)

/-- `(0.0..=1.0).contains(&value)`. -/
def Floating.inUnitInterval : Floating → Bool
  | .finite value => decide (0 ≤ value) && decide (value ≤ 1)
  | _ => false

/-- `value >= 0.0`, which NaN does not satisfy either. -/
def Floating.isNonnegative : Floating → Bool
  | .nan => false
  | .infinite negative => !negative
  | .finite value => decide (0 ≤ value)

structure CostEvidence where
  evidenceClass : EvidenceClass
  currency : Option String
  amount : Option Floating
  inputTokens : Option Nat
  outputTokens : Option Nat
  confidence : Floating
  deriving DecidableEq, Repr

end Bastet.Core
