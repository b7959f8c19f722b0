import Bastet.Library.PrefixCode
import Bastet.Core.JsonText
import Bastet.Daemon.Launch
import Mathlib.Logic.Function.Basic

/-! Read-only access to the native credential-store entry a launch selects. The store
itself and SHA-256 are code of other crates. -/

set_option autoImplicit false

namespace Bastet.Daemon

open Fallible Bastet.Core PrefixCode Function

/-- A string of the language: its length in bytes is a machine word. -/
abbrev Str := {text : String // text.utf8ByteSize < 2 ^ 64}

class Sha256Bytes where
  digest : List UInt8 → Vector UInt8 32

/-- Digests of finitely many contents. -/
abbrev Sha256Bytes.table (digests : List (List UInt8 × Vector UInt8 32)) : Sha256Bytes where
  digest content := ((digests.find? fun digest => digest.1 = content).map (·.2)).getD (Vector.replicate 32 0)

def nativeNamespace : String := "bastet-workstation.v1"

/-- The eight bytes of a word, the most significant first. -/
def toBeBytes (value : UInt64) : List UInt8 :=
  [56, 48, 40, 32, 24, 16, 8, 0].map fun places => (value >>> UInt64.ofNat places).toUInt8

/-- What the digest is given of one field. -/
def windowsTargetField (field : String) : List UInt8 :=
  toBeBytes (UInt64.ofNat field.utf8ByteSize) ++ asBytes field

def windowsTargetContent (service account : String) : List UInt8 :=
  [service, account].flatMap windowsTargetField

def lowerHexByte (byte : UInt8) : List Char :=
  [Json.hexDigit (byte.toNat / 16), Json.hexDigit (byte.toNat % 16)]

def lowerHex (bytes : List UInt8) : String :=
  String.ofList (bytes.flatMap lowerHexByte)

section Target

/-- Each byte of a word is one of its digits to base 256. -/
theorem shifted_byte (value : UInt64) {places : Nat} (small : places < 64) :
    (value >>> UInt64.ofNat places).toUInt8.toNat = value.toNat / 2 ^ places % 256 := by
  have word : (UInt64.ofNat places).toNat = places := by
    rw [UInt64.toNat_ofNat', Nat.mod_eq_of_lt (by omega)]
  rw [UInt64.toNat_toUInt8, UInt64.toNat_shiftRight, word, Nat.mod_eq_of_lt small, Nat.shiftRight_eq_div_pow]

theorem length_toBeBytes (value : UInt64) : (toBeBytes value).length = 8 :=
  rfl

theorem toBeBytes_injective : Injective toBeBytes := by
  intro value other same
  have digits : ∀ places ∈ [56, 48, 40, 32, 24, 16, 8, 0],
      value.toNat / 2 ^ places % 256 = other.toNat / 2 ^ places % 256 := by
    intro places member
    have small : places < 64 := by
      simp only [List.mem_cons, List.not_mem_nil, or_false] at member
      omega
    rw [← shifted_byte value small, ← shifted_byte other small, List.map_inj_left.mp same places member]
  simp only [List.forall_mem_cons] at digits
  obtain ⟨first, second, third, fourth, fifth, sixth, seventh, eighth, _⟩ := digits
  have small := value.toNat_lt
  have bounded := other.toNat_lt
  apply UInt64.toNat_inj.mp
  omega

/-- The length goes before the text, so the text ends where the length tells. -/
theorem field_readable : Readable (fun field : Str => windowsTargetField field.val) anything := by
  have counts : Readable toBeBytes anything := readable_of_width (fun _ => length_toBeBytes _) toBeBytes_injective
  refine readable_counted counts ?_ fun field other same => Subtype.ext (asBytes_injective same)
  intro field other same
  rw [length_asBytes, length_asBytes]
  have sizes := congrArg UInt64.toNat same
  simpa only [UInt64.toNat_ofNat', Nat.mod_eq_of_lt field.property, Nat.mod_eq_of_lt other.property] using sizes

theorem windowsTargetContent_inj {service account other label : Str}
    (same : windowsTargetContent service.val account.val = windowsTargetContent other.val label.val) :
    service = other ∧ account = label := by
  have fields : [service, account] = [other, label] := field_readable.sequence rfl same
  simpa using fields

theorem length_lowerHexByte (byte : UInt8) : (lowerHexByte byte).length = 2 :=
  rfl

theorem lowerHexByte_injective : Injective lowerHexByte := by
  intro byte other same
  simp only [lowerHexByte, List.cons.injEq, and_true] at same
  obtain ⟨high, low⟩ := same
  have value := byte.toNat_lt
  have bound := other.toNat_lt
  have upper : byte.toNat / 16 = other.toNat / 16 := by
    rw [← Json.hexValue_hexDigit (show byte.toNat / 16 < 16 by omega), high, Json.hexValue_hexDigit (by omega)]
  have lower : byte.toNat % 16 = other.toNat % 16 := by
    rw [← Json.hexValue_hexDigit (Nat.mod_lt byte.toNat (by omega : 0 < 16)), low, Json.hexValue_hexDigit (Nat.mod_lt _ (by omega))]
  apply UInt8.toNat_inj.mp
  omega

theorem lowerHex_inj {bytes others : List UInt8} (count : bytes.length = others.length)
    (same : lowerHex bytes = lowerHex others) : bytes = others := by
  have digits : Readable lowerHexByte anything := readable_of_width (fun _ => length_lowerHexByte _) lowerHexByte_injective
  exact digits.sequence count (String.ofList_injective same)

variable [Sha256Bytes]

/-- The entry's name in the store of Windows. -/
def windowsTarget (service account : String) : String :=
  "bastet-workstation.v1:" ++ lowerHex (Sha256Bytes.digest (windowsTargetContent service account)).toList

theorem windowsTarget_digest {service account other label : String}
    (same : windowsTarget service account = windowsTarget other label) :
    Sha256Bytes.digest (windowsTargetContent service account) =
      Sha256Bytes.digest (windowsTargetContent other label) := by
  have texts := (String.append_right_inj _).mp same
  have count : ∀ first second : Vector UInt8 32, first.toList.length = second.toList.length := by
    intro first second
    rw [Vector.length_toList, Vector.length_toList]
  exact Vector.toList_inj.mp (lowerHex_inj (count _ _) texts)

/-- Two selections share an entry of the store only when they are the same selection. -/
theorem windowsTarget_separates (service account other label : Str)
    (collisionFree : Sha256Bytes.digest (windowsTargetContent service.val account.val) =
      Sha256Bytes.digest (windowsTargetContent other.val label.val) →
      windowsTargetContent service.val account.val = windowsTargetContent other.val label.val) :
    windowsTarget service.val account.val = windowsTarget other.val label.val ↔ service = other ∧ account = label := by
  constructor
  · intro same
    exact windowsTargetContent_inj (collisionFree (windowsTarget_digest same))
  · rintro ⟨rfl, rfl⟩
    rfl

/-- The digests of two selections whose texts joined by a dot are the same. -/
abbrev dottedDigests : Sha256Bytes := .table [
  (windowsTargetContent "c" "a.b", #v[0x2f, 0xbd, 0x39, 0x96, 0x4d, 0xa3, 0x05, 0xcf, 0x81, 0x7b, 0xe9, 0x5d, 0xd1, 0xac, 0xe9, 0xb0,
    0x38, 0xdf, 0xc7, 0x6c, 0x0f, 0xae, 0x1a, 0xdf, 0x0a, 0xea, 0xe7, 0x6c, 0x5c, 0x01, 0x91, 0x7c]),
  (windowsTargetContent "b.c" "a", #v[0xfa, 0xeb, 0xce, 0xec, 0x9f, 0xda, 0x6d, 0x5f, 0x61, 0xe9, 0xdd, 0xe0, 0x30, 0xa6, 0x4f, 0x88,
    0x1c, 0x7f, 0x64, 0x62, 0x86, 0xa6, 0x6b, 0x8f, 0x95, 0xbe, 0xda, 0xe7, 0x25, 0x29, 0x84, 0xc4])]

omit [Sha256Bytes] in
theorem dotted_separate :
    @windowsTarget dottedDigests "c" "a.b" ≠ @windowsTarget dottedDigests "b.c" "a" := by
  have apart : ∀ text ∈ ["c", "a.b", "b.c", "a"], text.utf8ByteSize < 2 ^ 64 := by decide
  have collisionFree : dottedDigests.digest (windowsTargetContent "c" "a.b") =
      dottedDigests.digest (windowsTargetContent "b.c" "a") →
      windowsTargetContent "c" "a.b" = windowsTargetContent "b.c" "a" := by decide +kernel
  intro same
  have selections := (@windowsTarget_separates dottedDigests ⟨"c", apart _ (by simp)⟩ ⟨"a.b", apart _ (by simp)⟩
    ⟨"b.c", apart _ (by simp)⟩ ⟨"a", apart _ (by simp)⟩ collisionFree).mp same
  simp at selections

end Target

section Reader

inductive CredentialReadError where
  | invalidService
  | invalidAccount
  | unsupportedBackend
  | notFound
  | noStorageAccess
  | platformFailure
  | locatorTooLong
  | invalidPlatformLocator
  | ambiguous
  | badEncoding
  | emptySecret
  | secretTooLarge
  deriving DecidableEq, Repr

inductive KeyringError where
  | platformFailure
  | noStorageAccess
  | noEntry
  | badEncoding (bytes : List UInt8)
  | tooLong
  | invalid
  | ambiguous
  | other

def sanitizeKeyringError : KeyringError → CredentialReadError
  | .platformFailure => .platformFailure
  | .noStorageAccess => .noStorageAccess
  | .noEntry => .notFound
  | .badEncoding _ => .badEncoding
  | .tooLong => .locatorTooLong
  | .invalid => .invalidPlatformLocator
  | .ambiguous => .ambiguous
  | .other => .platformFailure

def maxSecretBytes : Nat := 64 * 1024

structure SecretBytes where
  bytes : List UInt8
  present : bytes ≠ []
  bounded : bytes.length ≤ maxSecretBytes

def SecretBytes.new (bytes : List UInt8) : Except CredentialReadError SecretBytes :=
  if empty : bytes = [] then .error .emptySecret
  else if large : maxSecretBytes < bytes.length then .error .secretTooLarge
  else .ok ⟨bytes, empty, Nat.le_of_not_lt large⟩

inductive Host where
  | macos
  | windows
  | linux
  | other
  deriving DecidableEq, Repr

def validateLocator (value : String) (error : CredentialReadError) : Except CredentialReadError Unit :=
  rejectIf (value.isEmpty ∨ '\x00' ∈ value.toList) error

def Host.supports : Host → CredentialBackend → Bool
  | .macos, .macosKeychain => true
  | .windows, .windowsCredentialManager => true
  | .linux, .linuxSecretService => true
  | _, _ => false

def validateHostBackend (host : Host) (backend : CredentialBackend) : Except CredentialReadError Unit :=
  rejectIf (¬host.supports backend) .unsupportedBackend

/-- The crate that locates an entry of the host's store and reads it. -/
structure Keyring (Entry : Type) where
  newWithTarget : Option String → String → String → Except KeyringError Entry
  getSecret : Entry → Except KeyringError (List UInt8)

variable {Entry : Type} (host : Host) (keyring : Keyring Entry) (selection : ProviderCredentialSelection)

def NativeCredentialReader.validate : Except CredentialReadError Unit := do
  validateLocator selection.service .invalidService
  validateLocator selection.accountLabel .invalidAccount
  validateHostBackend host selection.backend

variable [Sha256Bytes]

/-- Under which target each host's store has the entry; other hosts have no store. -/
def Host.target (service account : String) : Except CredentialReadError (Option String) :=
  match host with
  | .macos => .ok none
  | .windows => .ok (some (windowsTarget service account))
  | .linux => .ok (some nativeNamespace)
  | .other => .error .unsupportedBackend

def readSecret (service account : String) : Except CredentialReadError (List UInt8) := do
  let target ← host.target service account
  let credential ← (keyring.newWithTarget target service account).mapError sanitizeKeyringError
  (keyring.getSecret credential).mapError sanitizeKeyringError

def NativeCredentialReader.read : Except CredentialReadError SecretBytes := do
  NativeCredentialReader.validate host selection
  let bytes ← readSecret host keyring selection.service selection.accountLabel
  SecretBytes.new bytes

variable {host keyring selection}

omit [Sha256Bytes] in
theorem validate_host (valid : NativeCredentialReader.validate host selection = .ok ()) :
    host.supports selection.backend = true ∧ selection.service ≠ "" ∧ selection.accountLabel ≠ "" := by
  simp only [NativeCredentialReader.validate, validateLocator, validateHostBackend, bind_ok, exists_unit,
    rejectIf_ok, decide_eq_false_iff_not, not_or, not_not] at valid
  obtain ⟨⟨service, _⟩, ⟨account, _⟩, host⟩ := valid
  exact ⟨host, by simpa using service, by simpa using account⟩

/-- What is read was an entry the store located for the selection, and only an accepted selection reads. -/
theorem read_ok {secret : SecretBytes} (reads : NativeCredentialReader.read host keyring selection = .ok secret) :
    NativeCredentialReader.validate host selection = .ok () ∧
      ∃ target entry, host.target selection.service selection.accountLabel = .ok target ∧
        keyring.newWithTarget target selection.service selection.accountLabel = .ok entry ∧
        keyring.getSecret entry = .ok secret.bytes := by
  simp only [NativeCredentialReader.read, readSecret, bind_ok, exists_unit, mapError_ok] at reads
  obtain ⟨valid, bytes, ⟨target, located, entry, opened, found⟩, made⟩ := reads
  have kept : secret.bytes = bytes := by
    unfold SecretBytes.new at made
    split_ifs at made
    cases made
    rfl
  exact ⟨valid, target, entry, located, opened, kept ▸ found⟩

/-- Another entry of the store has no part in what a selection reads. -/
theorem read_update [DecidableEq Entry] {entry : Entry} {answer : Except KeyringError (List UInt8)}
    (apart : ∀ target, host.target selection.service selection.accountLabel = .ok target →
      keyring.newWithTarget target selection.service selection.accountLabel ≠ .ok entry) :
    NativeCredentialReader.read host { keyring with getSecret := update keyring.getSecret entry answer } selection =
      NativeCredentialReader.read host keyring selection := by
  have unread : readSecret host { keyring with getSecret := update keyring.getSecret entry answer }
      selection.service selection.accountLabel = readSecret host keyring selection.service selection.accountLabel := by
    unfold readSecret
    cases located : host.target selection.service selection.accountLabel with
    | error error => rfl
    | ok target =>
      change (Except.mapError _ (keyring.newWithTarget target _ _) >>= _) =
        (Except.mapError _ (keyring.newWithTarget target _ _) >>= _)
      cases opened : keyring.newWithTarget target selection.service selection.accountLabel with
      | error error => rfl
      | ok other =>
        have differs : other ≠ entry := fun same => apart target located (same ▸ opened)
        exact congrArg (Except.mapError _) (update_of_ne differs answer keyring.getSecret)
  unfold NativeCredentialReader.read
  rw [unread]

end Reader

end Bastet.Daemon
