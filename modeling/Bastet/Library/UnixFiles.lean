import Mathlib.Logic.Function.Basic

/-! The names of one directory over the inodes of a Unix file system, with the calls a local socket server makes of
them. Inode numbers are never used twice, an advisory lock belongs to the process that took it, and a local socket
answers while a process listens on its inode. -/

set_option autoImplicit false

namespace UnixFiles

inductive FileType where
  | regular
  | directory
  | symlink
  | socket
  | other
  deriving DecidableEq, Repr

structure Metadata where
  fileType : FileType
  uid : Nat
  mode : Nat
  nlink : Nat
  deriving DecidableEq, Repr

namespace Metadata

/-- Of the account, and closed to its group and to everybody else. -/
def isPrivate (self : Metadata) (uid : Nat) : Bool :=
  decide (self.uid = uid) && decide (self.mode &&& 0o077 = 0)

/-- The account may write: its own files by the owner bit, and every file as the superuser. -/
def writable (self : Metadata) (uid : Nat) : Bool :=
  decide (uid = 0) || (decide (self.uid = uid) && decide (self.mode &&& 0o200 ≠ 0))

end Metadata

inductive Errno where
  | notFound
  | alreadyExists
  | addressInUse
  | connectionRefused
  | permissionDenied
  | wouldBlock
  | tooManyLinks
  | isDirectory
  | noDevice
  deriving DecidableEq, Repr

structure Files (Name Process : Type) where
  /-- The directory that holds the names. -/
  parent : Metadata
  entry : Name → Option Nat
  inode : Nat → Metadata
  /-- The inode a symbolic link leads to, if it leads anywhere. -/
  target : Nat → Option Nat
  lockedBy : Nat → Option Process
  listener : Nat → Option Process
  fresh : Nat

variable {Name Process : Type} [DecidableEq Name] [DecidableEq Process]

namespace Files

variable (files : Files Name Process)

/-- A new inode under a name: nobody has locked it and nobody listens on it. -/
def create (name : Name) (metadata : Metadata) (target : Option Nat) : Files Name Process :=
  { files with
    entry := Function.update files.entry name (some files.fresh)
    inode := Function.update files.inode files.fresh metadata
    target := Function.update files.target files.fresh target
    lockedBy := Function.update files.lockedBy files.fresh none
    listener := Function.update files.listener files.fresh none
    fresh := files.fresh + 1 }

/-- `lstat`: a final symbolic link is not followed. -/
def symlinkMetadata (name : Name) : Except Errno (Nat × Metadata) :=
  match files.entry name with
  | some inode => .ok (inode, files.inode inode)
  | none => .error .notFound

/-- Opening for reading and writing with `O_CREAT` and `O_NOFOLLOW`. -/
def openNoFollow (name : Name) (uid mode : Nat) : Except Errno (Nat × Files Name Process) :=
  match files.entry name with
  | none => .ok (files.fresh, files.create name ⟨.regular, uid, mode, 1⟩ none)
  | some inode =>
    match (files.inode inode).fileType with
    | .symlink => .error .tooManyLinks
    | .directory => .error .isDirectory
    | .socket => .error .noDevice
    | .regular | .other => .ok (inode, files)

/-- An exclusive `flock` that does not wait. -/
def flock (inode : Nat) (process : Process) : Except Errno (Files Name Process) :=
  match files.lockedBy inode with
  | none => .ok { files with lockedBy := Function.update files.lockedBy inode (some process) }
  | some holder => if holder = process then .ok files else .error .wouldBlock

/-- A symbolic link leads to its target, and anything else is itself. -/
def follow (inode : Nat) : Option Nat :=
  if (files.inode inode).fileType = .symlink then files.target inode else some inode

/-- The process that answers, which is the one that listens. -/
def connect (name : Name) (uid : Nat) : Except Errno Process :=
  match (files.entry name).bind files.follow with
  | none => .error .notFound
  | some inode =>
    if (files.inode inode).fileType ≠ .socket then .error .connectionRefused
    else if (files.inode inode).writable uid = false then .error .permissionDenied
    else
      match files.listener inode with
      | none => .error .connectionRefused
      | some process => .ok process

def removeFile (name : Name) : Except Errno (Files Name Process) :=
  match files.entry name with
  | none => .error .notFound
  | some inode =>
    if (files.inode inode).fileType = .directory then .error .isDirectory
    else
      let metadata := files.inode inode
      .ok
        { files with
          entry := Function.update files.entry name none
          inode := Function.update files.inode inode { metadata with nlink := metadata.nlink - 1 } }

/-- `bind` makes the socket's file; nobody listens on it yet. -/
def bindSocket (name : Name) (uid mode : Nat) : Except Errno (Nat × Files Name Process) :=
  match files.entry name with
  | some _ => .error .addressInUse
  | none => .ok (files.fresh, files.create name ⟨.socket, uid, mode, 1⟩ none)

def listen (inode : Nat) (process : Process) : Files Name Process :=
  { files with listener := Function.update files.listener inode (some process) }

/-- `chmod` follows a symbolic link and is refused on a file of another account. -/
def setPermissions (name : Name) (uid mode : Nat) : Except Errno (Files Name Process) :=
  match (files.entry name).bind files.follow with
  | none => .error .notFound
  | some inode =>
    if uid ≠ 0 ∧ (files.inode inode).uid ≠ uid then .error .permissionDenied
    else .ok { files with inode := Function.update files.inode inode { files.inode inode with mode := mode } }

/-- Closing the handle on which the lock was taken releases it. -/
def unlock (inode : Nat) (process : Process) : Files Name Process :=
  if files.lockedBy inode = some process then
    { files with lockedBy := Function.update files.lockedBy inode none }
  else files

def hangUp (inode : Nat) (process : Process) : Files Name Process :=
  if files.listener inode = some process then
    { files with listener := Function.update files.listener inode none }
  else files

end Files

section Calls

variable {files after : Files Name Process} {name : Name} {inode : Nat} {uid mode : Nat} {process : Process}

omit [DecidableEq Process] in
@[simp] theorem Files.create_entry (files : Files Name Process) (name : Name) (metadata : Metadata)
    (target : Option Nat) : (files.create name metadata target).entry name = some files.fresh :=
  Function.update_self _ _ _

omit [DecidableEq Process] in
theorem Files.create_entry_of_ne {other : Name} (apart : other ≠ name) (metadata : Metadata) (target : Option Nat) :
    (files.create name metadata target).entry other = files.entry other :=
  Function.update_of_ne apart _ _

/-- Every name leads to an inode that has been made. -/
def Files.Named (files : Files Name Process) : Prop :=
  ∀ name inode, files.entry name = some inode → inode < files.fresh

omit [DecidableEq Process] in
theorem Files.Named.create (named : files.Named) (name : Name) (metadata : Metadata) (target : Option Nat) :
    (files.create name metadata target).Named := by
  intro other inode found
  by_cases same : other = name
  · subst same
    simp only [Files.create, Function.update_self, Option.some.injEq] at found
    simp only [Files.create, ← found]
    exact Nat.lt_succ_self _
  · simp only [Files.create, Function.update_of_ne same] at found
    exact Nat.lt_succ_of_lt (named other inode found)

omit [DecidableEq Process] in
/-- A file that is opened is the one its name leads to, or a new one. -/
theorem Files.openNoFollow_ok (opened : files.openNoFollow name uid mode = .ok (inode, after)) :
    (files.entry name = some inode ∧ after = files) ∨
      (files.entry name = none ∧ inode = files.fresh ∧ after = files.create name ⟨.regular, uid, mode, 1⟩ none) := by
  unfold Files.openNoFollow at opened
  split at opened
  · rename_i absent
    cases opened
    exact .inr ⟨absent, rfl, rfl⟩
  · rename_i found
    split at opened
    all_goals cases opened
    all_goals exact .inl ⟨found, rfl⟩

omit [DecidableEq Name] in
/-- A lock is taken that nobody else has. -/
theorem Files.flock_ok (locked : files.flock inode process = .ok after) :
    (∀ holder, files.lockedBy inode = some holder → holder = process) ∧
      after = { files with lockedBy := Function.update files.lockedBy inode (some process) } := by
  unfold Files.flock at locked
  split at locked
  · rename_i free
    cases locked
    exact ⟨by simp [free], rfl⟩
  · rename_i holder taken
    split at locked
    · rename_i same
      cases locked
      subst same
      refine ⟨fun other again => Option.some.inj (again.symm.trans taken), ?_⟩
      rw [← taken, Function.update_eq_self]
    · cases locked

omit [DecidableEq Process] in
theorem Files.removeFile_ok (removed : files.removeFile name = .ok after) :
    ∃ inode, files.entry name = some inode ∧ after.entry = Function.update files.entry name none ∧
      after.parent = files.parent ∧ after.target = files.target ∧ after.lockedBy = files.lockedBy ∧
      after.listener = files.listener ∧ after.fresh = files.fresh ∧
      ∀ other, other ≠ inode → after.inode other = files.inode other := by
  unfold Files.removeFile at removed
  split at removed
  · cases removed
  · rename_i inode found
    split at removed
    · cases removed
    · cases removed
      exact ⟨inode, found, rfl, rfl, rfl, rfl, rfl, rfl, fun other apart => Function.update_of_ne apart _ _⟩

omit [DecidableEq Process] in
theorem Files.bindSocket_ok (made : files.bindSocket name uid mode = .ok (inode, after)) :
    files.entry name = none ∧ inode = files.fresh ∧ after = files.create name ⟨.socket, uid, mode, 1⟩ none := by
  unfold Files.bindSocket at made
  split at made
  · cases made
  · rename_i absent
    cases made
    exact ⟨absent, rfl, rfl⟩

omit [DecidableEq Name] [DecidableEq Process] in
theorem Files.setPermissions_ok (changed : files.setPermissions name uid mode = .ok after) :
    ∃ inode, (files.entry name).bind files.follow = some inode ∧
      after = { files with inode := Function.update files.inode inode { files.inode inode with mode := mode } } := by
  unfold Files.setPermissions at changed
  split at changed
  · cases changed
  · rename_i inode found
    split at changed
    · cases changed
    · cases changed
      exact ⟨inode, found, rfl⟩

omit [DecidableEq Name] [DecidableEq Process] in
/-- Nobody answers on a socket exactly when nobody listens on it. -/
theorem Files.connect_refused (found : files.entry name = some inode) (socket : (files.inode inode).fileType = .socket) :
    files.connect name uid = .error .connectionRefused ↔
      (files.inode inode).writable uid = true ∧ files.listener inode = none := by
  have followed : (files.entry name).bind files.follow = some inode := by
    rw [found]
    simp [Files.follow, socket]
  rw [Files.connect, followed]
  cases writable : (files.inode inode).writable uid with
  | false => simp [socket, writable]
  | true => cases listening : files.listener inode <;> simp [socket, writable, listening]

end Calls

end UnixFiles
