import Bastet.Adapter.CodexTracker
import Bastet.Library.Table

/-! Snapshots of a workspace, and the receipt of what a run changed in it. -/

set_option autoImplicit false

namespace Bastet.Adapter

open Fallible Bastet.Core

abbrev Digest : Type := Vector UInt8 32

/-- The digests of the files under a root, one for each path. -/
abbrev Files : Type := Table (Prod.fst : String × Digest → String)

structure WorkspaceSnapshot where
  root : String
  files : Files

namespace WorkspaceSnapshot

/-- `WorkspaceSnapshot::capture(root)`, with what scanning the root gives. -/
def capture (root : String) (scan : Except Codex.WorkspaceEvidenceError Files) :
    Except Codex.WorkspaceEvidenceError WorkspaceSnapshot :=
  scan.map fun files => ⟨root, files⟩

def digest? (self : WorkspaceSnapshot) (path : String) : Option Digest :=
  (self.files.find? path).map Prod.snd

def changedFiles (self after : WorkspaceSnapshot) : Nat :=
  self.files.rows.countP (fun file => decide (after.digest? file.1 ≠ some file.2)) +
    after.files.rows.countP (fun file => (self.files.find? file.1).isNone)

variable [SerdeJson]

def receiptText (changedFiles : Nat) : String :=
  SerdeJson.text (.object [("changed_files", .number changedFiles),
    ("evidence", .string "bastet.workspace_snapshot.changed"), ("evidence_class", .string "locally_measured")])

def writeReceipt (self after : WorkspaceSnapshot) : Except Codex.WorkspaceEvidenceError (Option String) := do
  rejectIf (self.root != after.root) .invalidRoot
  let changedFiles := self.changedFiles after
  if changedFiles = 0 then return none
  return some (receiptText changedFiles)

/-- What a capture after the run shows against the one before. -/
def receiptAfter (self : WorkspaceSnapshot) (scan : Except Codex.WorkspaceEvidenceError Files) :
    Except Codex.WorkspaceEvidenceError (Option String) := do
  self.writeReceipt (← capture self.root scan)

variable {self : WorkspaceSnapshot} {files : Files}

omit [SerdeJson] in
theorem digest?_eq_some {path : String} {digest : Digest} :
    self.digest? path = some digest ↔ (path, digest) ∈ self.files.rows := by
  unfold digest?
  rw [Option.map_eq_some_iff]
  constructor
  · rintro ⟨⟨name, held⟩, found, rfl⟩
    obtain ⟨member, rfl⟩ := Table.find?_iff.mp found
    exact member
  · intro member
    exact ⟨(path, digest), Table.find?_iff.mpr ⟨member, rfl⟩, rfl⟩

omit [SerdeJson] in
/-- No file has changed exactly when both snapshots give every path the same digest. -/
theorem changedFiles_eq_zero {after : WorkspaceSnapshot} :
    self.changedFiles after = 0 ↔ ∀ path, self.digest? path = after.digest? path := by
  unfold changedFiles
  rw [Nat.add_eq_zero_iff, List.countP_eq_zero, List.countP_eq_zero]
  constructor
  · rintro ⟨kept, added⟩ path
    cases before : self.digest? path with
    | some digest =>
      have same : after.digest? path = some digest := by simpa using kept (path, digest) (digest?_eq_some.mp before)
      exact same.symm
    | none =>
      cases now : after.digest? path with
      | none => rfl
      | some digest =>
        have known := added (path, digest) (digest?_eq_some.mp now)
        have absent : self.files.find? path = none := by simpa [digest?] using before
        simp [absent] at known
  · intro same
    constructor
    · intro file member
      have before : self.digest? file.1 = some file.2 := digest?_eq_some.mpr member
      simp [← same, before]
    · intro file member
      have before : self.digest? file.1 = some file.2 := by
        rw [same]
        exact digest?_eq_some.mpr member
      obtain ⟨row, found, -⟩ := Option.map_eq_some_iff.mp before
      simp [found]

/-- A scan that succeeds gives a receipt exactly when some path has another digest, or has one in one snapshot only. -/
theorem receiptAfter_ok (self : WorkspaceSnapshot) (files : Files) :
    ∃ receipt, self.receiptAfter (.ok files) = .ok receipt ∧
      (receipt = none ↔ ∀ path, self.digest? path = digest? ⟨self.root, files⟩ path) ∧
      ∀ text, receipt = some text → ∃ changedFiles, text = receiptText changedFiles := by
  unfold receiptAfter capture writeReceipt
  simp only [Except.map, ok_bind, bne_self_eq_false, rejectIf]
  rw [← changedFiles_eq_zero]
  by_cases unchanged : self.changedFiles ⟨self.root, files⟩ = 0
  · rw [if_pos unchanged]
    exact ⟨none, rfl, by simp [unchanged], fun text given => by cases given⟩
  · rw [if_neg unchanged]
    exact ⟨_, rfl, by simp [unchanged], fun text given => ⟨_, (Option.some.inj given).symm⟩⟩

/-- What a run shows of its workspace when it ends; one that may not write has no snapshot and shows nothing. -/
def shown (before : Option WorkspaceSnapshot) (scan : Except Codex.WorkspaceEvidenceError Files) :
    Except Codex.WorkspaceEvidenceError (Option String) :=
  match before with
  | none => .ok none
  | some before => before.receiptAfter scan

/-- A receipt, of a change that was measured, exactly when some path has another digest than before. -/
structure Shows (before : Option WorkspaceSnapshot) (files : Files) (receipt : Option String) : Prop where
  changed : receipt.isSome = true ↔ ∃ snapshot, before = some snapshot ∧
    ∃ path, snapshot.digest? path ≠ digest? ⟨snapshot.root, files⟩ path
  measured : ∀ text, receipt = some text → ∃ changedFiles, text = receiptText changedFiles

theorem shown_shows (before : Option WorkspaceSnapshot) (files : Files) :
    ∃ receipt, shown before (.ok files) = .ok receipt ∧ Shows before files receipt := by
  cases before with
  | none => exact ⟨none, rfl, by simp, fun text given => by cases given⟩
  | some snapshot =>
    obtain ⟨receipt, told, unchanged, measured⟩ := snapshot.receiptAfter_ok files
    refine ⟨receipt, told, ?_, measured⟩
    rw [Option.isSome_iff_ne_none, ne_eq, unchanged, not_forall]
    simp

end WorkspaceSnapshot

end Bastet.Adapter
