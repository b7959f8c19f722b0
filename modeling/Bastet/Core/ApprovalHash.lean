import Bastet.Core.ApprovalSound
import Bastet.Core.JsonText

/-! What the hash of an approval request determines: the encoding of each part is injective. -/

set_option autoImplicit false

namespace Bastet.Core

open Fallible Function

section Encoding

theorem option_injective {α : Type} {encode : α → Json} (injective : Injective encode)
    (present : ∀ value, encode value ≠ .null) : Injective (Json.option encode) := by
  rintro (_ | first) (_ | second) same
  · rfl
  · exact absurd same.symm (present second)
  · exact absurd same (present first)
  · exact congrArg some (injective same)

/-- A field that is left out is told apart from every value it could have. -/
theorem optionalField_injective {α : Type} {name : String} {encode : α → Json} (injective : Injective encode) :
    Injective (Json.optionalField name encode) := by
  rintro (_ | first) (_ | second) same
  · rfl
  · simp [Json.optionalField] at same
  · simp [Json.optionalField] at same
  · simp only [Json.optionalField, List.cons.injEq, Prod.mk.injEq, true_and, and_true] at same
    exact congrArg some (injective same)

theorem string_injective : Injective Json.string := by
  intro first second same
  exact Json.string.inj same

theorem PermissionLevel.toJson_injective : Injective PermissionLevel.toJson := by
  rintro (_ | _ | _) (_ | _ | _) same <;> simp [toJson] at same ⊢

theorem PolicyLayer.toJson_injective : Injective PolicyLayer.toJson := by
  rintro (_ | _ | _ | _) (_ | _ | _ | _) same <;> simp [toJson] at same ⊢

theorem CredentialBackend.toJson_injective : Injective CredentialBackend.toJson := by
  rintro (_ | _ | _) (_ | _ | _) same <;> simp [toJson] at same ⊢

theorem ApprovalRisk.toJson_injective : Injective ApprovalRisk.toJson := by
  rintro (_ | _ | _ | _) (_ | _ | _ | _) same <;> simp [toJson] at same ⊢

theorem ScopedPolicy.toJson_injective : Injective ScopedPolicy.toJson := by
  rintro ⟨layer, filesystem, network, process, device, credential, persistent⟩
    ⟨otherLayer, otherFilesystem, otherNetwork, otherProcess, otherDevice, otherCredential, otherPersistent⟩ same
  simp only [toJson, Json.object.injEq, Json.bool.injEq, List.cons.injEq, Prod.mk.injEq, true_and, and_true,
    PolicyLayer.toJson_injective.eq_iff, PermissionLevel.toJson_injective.eq_iff] at same
  obtain ⟨rfl, rfl, rfl, rfl, rfl, rfl, rfl⟩ := same
  rfl

theorem CredentialGrantBinding.toJson_injective : Injective CredentialGrantBinding.toJson := by
  rintro ⟨provider, account, adapterKind, identity, reference, backend, service, label, capability⟩
    ⟨otherProvider, otherAccount, otherKind, otherIdentity, otherReference, otherBackend, otherService, otherLabel,
      otherCapability⟩ same
  simp only [toJson, Json.object.injEq, Json.string.injEq, List.cons.injEq, Prod.mk.injEq, true_and, and_true,
    Json.uuid_injective.eq_iff, CredentialBackend.toJson_injective.eq_iff] at same
  obtain ⟨rfl, rfl, rfl, rfl, rfl, rfl, rfl, rfl, rfl⟩ := same
  rfl

theorem uuid_present {kind : EntityKind} (id : StableId kind) : Json.uuid id ≠ .null := by
  simp [Json.uuid]

theorem string_present (value : String) : Json.string value ≠ .null := by
  simp

/-- The optional binding is the last field, so what precedes it is read off first. -/
theorem ApprovalScope.toJson_injective : Injective ApprovalScope.toJson := by
  rintro ⟨project, run, roots, data, network, references, destination, binding⟩
    ⟨otherProject, otherRun, otherRoots, otherData, otherNetwork, otherReferences, otherDestination, otherBinding⟩ same
  simp only [toJson, Json.object.injEq, Json.array.injEq, List.cons_append, List.nil_append, List.cons.injEq,
    Prod.mk.injEq, true_and, Json.uuid_injective.eq_iff, (option_injective Json.uuid_injective uuid_present).eq_iff,
    (option_injective string_injective string_present).eq_iff, string_injective.list_map.eq_iff,
    Json.uuid_injective.list_map.eq_iff,
    (optionalField_injective CredentialGrantBinding.toJson_injective).eq_iff] at same
  obtain ⟨rfl, rfl, rfl, rfl, rfl, rfl, rfl, rfl⟩ := same
  rfl

theorem ApprovalAction.toJson_injective : Injective ApprovalAction.toJson := by
  rintro ⟨agent, role, actionKey, reasonKey, consequenceKey, risk, scope, policy⟩
    ⟨otherAgent, otherRole, otherAction, otherReason, otherConsequence, otherRisk, otherScope, otherPolicy⟩ same
  simp only [toJson, Json.object.injEq, Json.string.injEq, List.cons.injEq, Prod.mk.injEq, true_and, and_true,
    Json.uuid_injective.eq_iff, (option_injective Json.uuid_injective uuid_present).eq_iff, ApprovalRisk.toJson_injective.eq_iff,
    ApprovalScope.toJson_injective.eq_iff, ScopedPolicy.toJson_injective.eq_iff] at same
  obtain ⟨rfl, rfl, rfl, rfl, rfl, rfl, rfl, rfl⟩ := same
  rfl

theorem hashInput_inj {id other : ApprovalRequestId} {createdAtMs expiresAtMs started ended : Nat}
    {action change : ApprovalAction} :
    hashInput id createdAtMs expiresAtMs action = hashInput other started ended change ↔
      id = other ∧ createdAtMs = started ∧ expiresAtMs = ended ∧ action = change := by
  simp only [hashInput, Json.object.injEq, Json.number.injEq, List.cons.injEq, Prod.mk.injEq, true_and, and_true,
    Json.uuid_injective.eq_iff, ApprovalAction.toJson_injective.eq_iff]

end Encoding

section Binding

variable [SerdeJson]

/-- The text that is hashed for a request. -/
def ApprovalRequest.encoded (request : ApprovalRequest) : String :=
  SerdeJson.text (hashInput request.id request.createdAtMs request.expiresAtMs request.action)

theorem ApprovalRequest.encoded_injective (faithful : Injective SerdeJson.text) {first second : ApprovalRequest}
    (same : first.encoded = second.encoded) :
    first.id = second.id ∧ first.createdAtMs = second.createdAtMs ∧ first.expiresAtMs = second.expiresAtMs ∧
      first.action = second.action :=
  hashInput_inj.mp (faithful same)

variable [Sha256]

theorem validateUnchanged_ok {request : ApprovalRequest} :
    request.validateUnchanged = .ok () ↔ Sha256.hex request.encoded = request.requestHash := by
  unfold ApprovalRequest.validateUnchanged canonicalHash ApprovalRequest.encoded
  rw [rejectIf_ok, decide_eq_false_iff_not, not_not]

omit [SerdeJson] [Sha256] in
theorem verifyDecision_names {request : ApprovalRequest} {decision : ApprovalDecision}
    (accepted : request.verifyDecision decision = .ok ()) :
    decision.requestId = request.id ∧ decision.requestHash = request.requestHash := by
  simp only [ApprovalRequest.verifyDecision, bind_ok, exists_unit, rejectIf_ok, Bool.or_eq_false_iff,
    decide_eq_false_iff_not, not_not] at accepted
  exact accepted.2.1

/-- Unchanged requests with the same hash are the same request, and a decision that one of them accepts is accepted
by no other request. -/
theorem approval_hash_binds (faithful : Injective SerdeJson.text) (first second : ApprovalRequest)
    (collisionFree : Sha256.hex first.encoded = Sha256.hex second.encoded → first.encoded = second.encoded)
    (unchanged : first.validateUnchanged = .ok ()) (kept : second.validateUnchanged = .ok ()) :
    (first.requestHash = second.requestHash →
      first.id = second.id ∧ first.createdAtMs = second.createdAtMs ∧ first.expiresAtMs = second.expiresAtMs ∧
        first.action = second.action) ∧
      ∀ decision, first.verifyDecision decision = .ok () → second.verifyDecision decision = .ok () →
        first = second := by
  have hashed : Sha256.hex first.encoded = first.requestHash := validateUnchanged_ok.mp unchanged
  have rehashed : Sha256.hex second.encoded = second.requestHash := validateUnchanged_ok.mp kept
  have binds : first.requestHash = second.requestHash →
      first.id = second.id ∧ first.createdAtMs = second.createdAtMs ∧ first.expiresAtMs = second.expiresAtMs ∧
        first.action = second.action := by
    intro same
    apply ApprovalRequest.encoded_injective faithful
    exact collisionFree (hashed.trans (same.trans rehashed.symm))
  refine ⟨binds, fun decision decides replays => ?_⟩
  have hash : first.requestHash = second.requestHash :=
    (verifyDecision_names decides).2.symm.trans (verifyDecision_names replays).2
  obtain ⟨id, createdAt, expiresAt, action⟩ := binds hash
  cases first
  cases second
  simp_all

end Binding

section Distinct

/-- The text of a request in the compact format. -/
abbrev ApprovalRequest.compactText (request : ApprovalRequest) : String :=
  @encoded SerdeJson.compact request

/-- The digests of the request for a run and of the one without. -/
abbrev twoDigests : Sha256 :=
  .table [(unscopedRequest.compactText, unscopedRequest.requestHash), (runRequest.compactText, runRequest.requestHash)]

theorem compactText_apart : unscopedRequest.compactText ≠ runRequest.compactText := by
  intro same
  have actions := (@ApprovalRequest.encoded_injective SerdeJson.compact Json.compact_injective _ _ same).2.2.2
  exact absurd actions (by decide)

theorem unscoped_digest : twoDigests.hex unscopedRequest.compactText = unscopedRequest.requestHash :=
  table_first _ _ _

theorem run_digest : twoDigests.hex runRequest.compactText = runRequest.requestHash :=
  (table_rest compactText_apart _ _).trans (table_first _ _ _)

theorem approval_hash_binds_two :
    unscopedRequest ≠ runRequest ∧
      ∀ decision, unscopedRequest.verifyDecision decision = .ok () → ¬runRequest.verifyDecision decision = .ok () := by
  have apart : unscopedRequest ≠ runRequest := by decide
  have collisionFree : twoDigests.hex unscopedRequest.compactText = twoDigests.hex runRequest.compactText →
      unscopedRequest.compactText = runRequest.compactText := by
    rw [unscoped_digest, run_digest]
    exact fun same => absurd same (by decide)
  have binds := @approval_hash_binds SerdeJson.compact twoDigests Json.compact_injective unscopedRequest runRequest
    collisionFree ((@validateUnchanged_ok SerdeJson.compact twoDigests _).mpr unscoped_digest)
    ((@validateUnchanged_ok SerdeJson.compact twoDigests _).mpr run_digest)
  exact ⟨apart, fun decision decides replays => apart (binds.2 decision decides replays)⟩

end Distinct

end Bastet.Core
