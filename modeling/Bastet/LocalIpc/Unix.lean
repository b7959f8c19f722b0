import Bastet.Library.Fallible
import Bastet.Library.Machine
import Bastet.Library.UnixFiles

/-! The local endpoint of a database on a Unix system: its directory holds a socket and a lock file, `bind` takes the
lock before it looks at the socket, and the guard it returns is kept until the daemon is done with its store. -/

set_option autoImplicit false

namespace Bastet.LocalIpc

open UnixFiles Fallible

inductive EndpointName where
  | socket
  | lock
  deriving DecidableEq, Repr

abbrev EndpointFiles (Process : Type) := Files EndpointName Process

/-- The account the daemons run under, and what it masks out of the mode of a new file. -/
structure Account where
  uid : Nat
  umask : Nat
  deriving DecidableEq, Repr

namespace Account

def created (self : Account) (mode : Nat) : Nat :=
  mode ^^^ (mode &&& self.umask)

def socketMode (self : Account) : Nat :=
  self.created 0o777

end Account

section Calls

variable {Process : Type} [DecidableEq Process] (account : Account) (files : EndpointFiles Process)

def directoryIsValid : Bool :=
  decide (files.parent.fileType = .directory) && files.parent.isPrivate account.uid

def socketIsValid (metadata : Metadata) : Bool :=
  decide (metadata.fileType = .socket) && metadata.isPrivate account.uid

def lockIsValid (metadata : Metadata) : Bool :=
  decide (metadata.fileType = .regular) && metadata.isPrivate account.uid && decide (metadata.nlink = 1)

def validateDirectory : Except Errno Unit :=
  rejectIf (!directoryIsValid account files) .permissionDenied

def validateSocket : Except Errno (Nat × Metadata) := do
  validateDirectory account files
  let (inode, metadata) ← files.symlinkMetadata .socket
  rejectIf (!socketIsValid account metadata) .permissionDenied
  return (inode, metadata)

/-- A client checks the name it connects to, and then the process that answered. -/
def connect (uidOf : Process → Nat) : Except Errno Process := do
  let _ ← validateSocket account files
  let peer ← files.connect .socket account.uid
  rejectIf (!decide (uidOf peer = account.uid)) .permissionDenied
  return peer

/-- What `bind` keeps: the handle of the lock, the socket it listens on, and the inode the guard compares. -/
structure EndpointGuard where
  lock : Nat
  listener : Nat
  inode : Nat
  deriving DecidableEq, Repr

/-- A name that is taken is freed when its socket is private and refuses connections. -/
def removeStale : Except Errno (EndpointFiles Process) :=
  match files.symlinkMetadata .socket with
  | .ok _ => do
    let _ ← validateSocket account files
    match files.connect .socket account.uid with
    | .ok _ => .error .addressInUse
    | .error .connectionRefused => files.removeFile .socket
    | .error error => .error error
  | .error .notFound => .ok files
  | .error error => .error error

/-- A new socket, restricted and checked, for a daemon that has the lock and a free name. -/
def publish (process : Process) (lock : Nat) : Except Errno (EndpointGuard × EndpointFiles Process) := do
  let (listener, files) ← files.bindSocket .socket account.uid account.socketMode
  let files := files.listen listener process
  let files ← files.setPermissions .socket account.uid 0o600
  let (inode, _) ← validateSocket account files
  return (⟨lock, listener, inode⟩, files)

def bind (process : Process) : Except Errno (EndpointGuard × EndpointFiles Process) := do
  validateDirectory account files
  let (lock, files) ← files.openNoFollow .lock account.uid (account.created 0o600)
  rejectIf (!lockIsValid account (files.inode lock)) .permissionDenied
  let files ← files.flock lock process
  let files ← removeStale account files
  publish account files process lock

end Calls

/-- The next call of a daemon. -/
inductive Call where
  /-- `bind`, one call after the other. -/
  | validateDirectory
  | openLock
  | checkLock
  | takeLock
  | inspectSocket
  | validateParent
  | validateSocket
  | probeSocket
  | removeStale
  | bindSocket
  | listen
  | setPermissions
  | confirmParent
  | confirmSocket
  /-- `Store::open` and `mark_ready`. -/
  | openStore
  | serve
  /-- The listener is closed, and the accepted connections are completed. -/
  | drain
  /-- Dropping the guard, and then its lock. -/
  | compareSocket
  | removeSocket
  | closeLock
  | exit
  deriving DecidableEq, Repr

structure Daemon where
  call : Call
  running : Bool
  lock : Option Nat
  listener : Option Nat
  inode : Option Nat
  deriving DecidableEq, Repr

namespace Daemon

def fresh : Daemon := ⟨.validateDirectory, true, none, none, none⟩

/-- The daemon has opened its store, or is opening it, and is not done with it. -/
def usesStore (self : Daemon) : Bool :=
  self.running && (self.call = .openStore || self.call = .serve || self.call = .drain)

/-- The daemon holds the lock of the endpoint. -/
def locked (self : Daemon) : Bool :=
  self.running &&
    match self.call with
    | .validateDirectory | .openLock | .checkLock | .takeLock | .exit => false
    | _ => true

/-- The guard is built, and has not been dropped. -/
def guarded (self : Daemon) : Bool :=
  self.running && (self.usesStore || self.call = .compareSocket || self.call = .removeSocket)

end Daemon

section Steps

variable {Process : Type} [DecidableEq Process] (account : Account)

abbrev Advance (Process : Type) := EndpointFiles Process × Daemon

/-- The call returned an error, or a check refused, and the daemon ends. -/
def fail (files : EndpointFiles Process) (daemon : Daemon) : Advance Process :=
  (files, { daemon with running := false })

def proceed (files : EndpointFiles Process) (daemon : Daemon) (call : Call) : Advance Process :=
  (files, { daemon with call := call })

/-- One call of a running daemon. -/
def advance (files : EndpointFiles Process) (process : Process) (daemon : Daemon) : Advance Process :=
  match daemon.call with
  | .validateDirectory =>
    if directoryIsValid account files then proceed files daemon .openLock else fail files daemon
  | .openLock =>
    match files.openNoFollow .lock account.uid (account.created 0o600) with
    | .ok (lock, files) => proceed files { daemon with lock := some lock } .checkLock
    | .error _ => fail files daemon
  | .checkLock =>
    if daemon.lock.any fun lock => lockIsValid account (files.inode lock) then proceed files daemon .takeLock
    else fail files daemon
  | .takeLock =>
    -- `LOCK_NB`: while another daemon holds the lock, the call fails and does not wait
    match daemon.lock with
    | none => fail files daemon
    | some lock =>
      match files.flock lock process with
      | .ok files => proceed files daemon .inspectSocket
      | .error _ => fail files daemon
  | .inspectSocket =>
    match files.symlinkMetadata .socket with
    | .ok _ => proceed files daemon .validateParent
    | .error .notFound => proceed files daemon .bindSocket
    | .error _ => fail files daemon
  | .validateParent =>
    if directoryIsValid account files then proceed files daemon .validateSocket else fail files daemon
  | .validateSocket =>
    match files.symlinkMetadata .socket with
    | .ok (_, metadata) =>
      if socketIsValid account metadata then proceed files daemon .probeSocket else fail files daemon
    | .error _ => fail files daemon
  | .probeSocket =>
    match files.connect .socket account.uid with
    -- only a socket nobody listens on is removed; one that answers is in use
    | .error .connectionRefused => proceed files daemon .removeStale
    | _ => fail files daemon
  | .removeStale =>
    match files.removeFile .socket with
    | .ok files => proceed files daemon .bindSocket
    | .error _ => fail files daemon
  | .bindSocket =>
    match files.bindSocket .socket account.uid account.socketMode with
    | .ok (listener, files) => proceed files { daemon with listener := some listener } .listen
    | .error _ => fail files daemon
  | .listen =>
    match daemon.listener with
    | none => fail files daemon
    | some listener => proceed (files.listen listener process) daemon .setPermissions
  | .setPermissions =>
    match files.setPermissions .socket account.uid 0o600 with
    | .ok files => proceed files daemon .confirmParent
    | .error _ => fail files daemon
  | .confirmParent =>
    if directoryIsValid account files then proceed files daemon .confirmSocket else fail files daemon
  | .confirmSocket =>
    match files.symlinkMetadata .socket with
    | .ok (inode, metadata) =>
      if socketIsValid account metadata then proceed files { daemon with inode := some inode } .openStore
      else fail files daemon
    | .error _ => fail files daemon
  | .openStore => proceed files daemon .serve
  | .serve => proceed files daemon .serve
  | .drain => proceed files daemon .compareSocket
  | .compareSocket =>
    match files.symlinkMetadata .socket with
    | .ok (inode, metadata) =>
      if metadata.fileType = .socket ∧ daemon.inode = some inode then proceed files daemon .removeSocket
      else proceed files daemon .closeLock
    -- dropping the guard has no result, so an error is passed over
    | .error _ => proceed files daemon .closeLock
  | .removeSocket =>
    match files.removeFile .socket with
    | .ok files => proceed files daemon .closeLock
    | .error _ => proceed files daemon .closeLock
  | .closeLock =>
    -- the lock is released with its file, which keeps its name
    match daemon.lock with
    | none => fail files { daemon with call := .exit }
    | some lock => fail (files.unlock lock process) { daemon with call := .exit, lock := none }
  | .exit => fail files daemon

/-- What other programs of the machine may do to the endpoint. -/
inductive Disturbance (Process : Type) where
  /-- A new file under a name, in the place of whatever was there. -/
  | place (name : EndpointName) (metadata : Metadata) (target : Option Nat) (listener : Option Process)
  | remove (name : EndpointName)
  | setMetadata (inode : Nat) (metadata : Metadata)
  | setParent (metadata : Metadata)
  deriving DecidableEq, Repr

inductive Action (Process : Type) where
  | start (process : Process)
  | step (process : Process)
  /-- A graceful shutdown. -/
  | shutdown (process : Process)
  /-- `Store::open` or the server returned an error. -/
  | abandon (process : Process)
  /-- The daemon is killed, or its next call fails for a reason outside the model. -/
  | stop (process : Process)
  /-- The handles of a daemon that has ended are closed, in either order. -/
  | closeLock (process : Process)
  | closeListener (process : Process)
  | disturb (disturbance : Disturbance Process)
  deriving DecidableEq, Repr

structure Host (Process : Type) where
  files : EndpointFiles Process
  daemon : Process → Daemon

/-- No daemon has been started. -/
def idle : Daemon := ⟨.exit, false, none, none, none⟩

def Host.put (host : Host Process) (process : Process) (result : Advance Process) : Host Process :=
  ⟨result.1, Function.update host.daemon process result.2⟩

def disturbed (files : EndpointFiles Process) : Disturbance Process → EndpointFiles Process
  | .place name metadata target listener =>
    let placed := files.create name metadata target
    { placed with listener := Function.update placed.listener files.fresh listener }
  | .remove name => { files with entry := Function.update files.entry name none }
  | .setMetadata inode metadata => { files with inode := Function.update files.inode inode metadata }
  | .setParent metadata => { files with parent := metadata }

/-- Closing the listener of a daemon, which nobody can connect to from then on. -/
def closedListener (files : EndpointFiles Process) (process : Process) (daemon : Daemon) : Advance Process :=
  match daemon.listener with
  | none => (files, daemon)
  | some listener => (files.hangUp listener process, { daemon with listener := none })

def closedLock (files : EndpointFiles Process) (process : Process) (daemon : Daemon) : Advance Process :=
  match daemon.lock with
  | none => (files, daemon)
  | some lock => (files.unlock lock process, { daemon with lock := none })

def next (host : Host Process) : Action Process → Host Process
  | .start process =>
    if host.daemon process = idle then host.put process (host.files, .fresh) else host
  | .step process =>
    if (host.daemon process).running then
      host.put process (advance account host.files process (host.daemon process))
    else host
  | .shutdown process =>
    if (host.daemon process).running ∧ (host.daemon process).call = .serve then
      host.put process (closedListener host.files process { host.daemon process with call := .drain })
    else host
  | .abandon process =>
    if (host.daemon process).running ∧
        ((host.daemon process).call = .openStore ∨ (host.daemon process).call = .serve) then
      host.put process (host.files, { host.daemon process with call := .compareSocket })
    else host
  | .stop process => host.put process (host.files, { host.daemon process with running := false })
  | .closeLock process =>
    if (host.daemon process).running then host
    else host.put process (closedLock host.files process (host.daemon process))
  | .closeListener process =>
    if (host.daemon process).running then host
    else host.put process (closedListener host.files process (host.daemon process))
  | .disturb disturbance => { host with files := disturbed host.files disturbance }

end Steps

end Bastet.LocalIpc
