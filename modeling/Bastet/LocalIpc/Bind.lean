import Bastet.LocalIpc.Endpoint

/-! A daemon that is not interrupted computes `bind`, and what `bind` needs of the endpoint to succeed. -/

set_option autoImplicit false

namespace Bastet.LocalIpc

open UnixFiles Fallible

variable {Process : Type} [DecidableEq Process] {account : Account}

section Uninterrupted

variable {files after : EndpointFiles Process} {process : Process}

/-- A step that is not interrupted by another daemon; one that has ended makes no further call. -/
def stepOnce (account : Account) (process : Process) (state : Advance Process) : Advance Process :=
  if state.2.running then advance account state.1 process state.2 else state

/-- A daemon that serves with what `bind` has returned. -/
def EndpointGuard.serving (guard : EndpointGuard) : Daemon :=
  ⟨.serve, true, some guard.lock, some guard.listener, some guard.inode⟩

/-- After so many calls the daemon serves with the guard, or has ended with the error. -/
def Ends (account : Account) (process : Process) (calls : Nat) (state : Advance Process) :
    Except Errno (EndpointGuard × EndpointFiles Process) → Prop
  | .ok (guard, after) => (stepOnce account process)^[calls] state = (after, guard.serving)
  | .error _ => ((stepOnce account process)^[calls] state).2.running = false

theorem Ends.step {calls : Nat} {state later : Advance Process}
    {result : Except Errno (EndpointGuard × EndpointFiles Process)} (running : state.2.running = true)
    (stepped : advance account state.1 process state.2 = later) (ends : Ends account process calls later result) :
    Ends account process (calls + 1) state result := by
  have first : stepOnce account process state = later := by rw [stepOnce, if_pos running, stepped]
  cases result with
  | error error =>
    simp only [Ends, Function.iterate_succ_apply, first]
    exact ends
  | ok result =>
    simp only [Ends, Function.iterate_succ_apply, first]
    exact ends

theorem Ends.ended {calls : Nat} {state : Advance Process} (ended : state.2.running = false) (error : Errno) :
    Ends account process calls state (.error error) := by
  have fixed : stepOnce account process state = state := by simp [stepOnce, ended]
  simp only [Ends, Function.iterate_fixed fixed]
  exact ended

theorem Ends.served {calls : Nat} {guard : EndpointGuard} :
    Ends account process calls (files, guard.serving) (.ok (guard, files)) := by
  have fixed : stepOnce account process (files, guard.serving) = (files, guard.serving) := by
    simp [stepOnce, EndpointGuard.serving, advance, proceed]
  exact Function.iterate_fixed fixed calls

theorem Ends.fails {calls : Nat} {daemon : Daemon} (running : daemon.running = true)
    (stepped : advance account files process daemon = (files, { daemon with running := false })) (error : Errno) :
    Ends account process (calls + 1) (files, daemon) (.error error) :=
  .step running stepped (.ended rfl error)

theorem ends_confirm (calls lock listener : Nat) :
    Ends account process (calls + 3) (files, ⟨.confirmParent, true, some lock, some listener, none⟩)
      (do
        let (inode, _) ← validateSocket account files
        return (⟨lock, listener, inode⟩, files)) := by
  cases valid : directoryIsValid account files with
  | false =>
    simp only [validateSocket, validateDirectory, valid, rejectIf]
    exact .fails rfl (by simp [advance, valid, fail]) _
  | true =>
    have parent : advance account files process ⟨.confirmParent, true, some lock, some listener, none⟩ =
        (files, ⟨.confirmSocket, true, some lock, some listener, none⟩) := by simp [advance, valid, proceed]
    refine .step rfl parent ?_
    simp only [validateSocket, validateDirectory, valid, rejectIf]
    cases found : files.symlinkMetadata .socket with
    | error error => exact .fails rfl (by simp [advance, found, fail]) _
    | ok entry =>
      obtain ⟨inode, metadata⟩ := entry
      cases checked : socketIsValid account metadata with
      | false =>
        simp only [ok_bind, Bool.not_true, Bool.false_eq_true, if_false, checked, Bool.not_false, if_true, error_bind]
        exact .fails rfl (by simp [advance, found, checked, fail]) _
      | true =>
        have confirmed : advance account files process ⟨.confirmSocket, true, some lock, some listener, none⟩ =
            (files, ⟨.openStore, true, some lock, some listener, some inode⟩) := by
          simp [advance, found, checked, proceed]
        refine .step rfl confirmed (.step rfl rfl ?_)
        simp only [ok_bind, Bool.not_true, Bool.false_eq_true, if_false, checked, pure_bind]
        have served : Ends account process calls (files, EndpointGuard.serving ⟨lock, listener, inode⟩)
            (.ok (⟨lock, listener, inode⟩, files)) := .served
        exact served

theorem ends_publish (calls lock : Nat) :
    Ends account process (calls + 6) (files, ⟨.bindSocket, true, some lock, none, none⟩)
      (publish account files process lock) := by
  unfold publish
  cases made : files.bindSocket .socket account.uid account.socketMode with
  | error error => exact .fails rfl (by simp [advance, made, fail]) _
  | ok result =>
    obtain ⟨listener, bound⟩ := result
    have first : advance account files process ⟨.bindSocket, true, some lock, none, none⟩ =
        (bound, ⟨.listen, true, some lock, some listener, none⟩) := by simp [advance, made, proceed]
    have second : advance account bound process ⟨.listen, true, some lock, some listener, none⟩ =
        (bound.listen listener process, ⟨.setPermissions, true, some lock, some listener, none⟩) := by
      simp [advance, proceed]
    refine .step rfl first (.step rfl second ?_)
    simp only [ok_bind]
    cases changed : (bound.listen listener process).setPermissions .socket account.uid 0o600 with
    | error error => exact .fails rfl (by simp [advance, changed, fail]) _
    | ok restricted =>
      have third : advance account (bound.listen listener process) process
          ⟨.setPermissions, true, some lock, some listener, none⟩ =
          (restricted, ⟨.confirmParent, true, some lock, some listener, none⟩) := by simp [advance, changed, proceed]
      exact .step rfl third (ends_confirm calls lock listener)

theorem ends_removeStale (calls lock : Nat) :
    Ends account process (calls + 11) (files, ⟨.inspectSocket, true, some lock, none, none⟩)
      (removeStale account files >>= fun files => publish account files process lock) := by
  unfold removeStale
  cases found : files.symlinkMetadata .socket with
  | error error =>
    cases error with
    | notFound =>
      have absent : advance account files process ⟨.inspectSocket, true, some lock, none, none⟩ =
          (files, ⟨.bindSocket, true, some lock, none, none⟩) := by simp [advance, found, proceed]
      exact .step rfl absent (ends_publish (calls + 4) lock)
    | _ => exact .fails rfl (by simp [advance, found, fail]) _
  | ok entry =>
    obtain ⟨inode, metadata⟩ := entry
    have present : advance account files process ⟨.inspectSocket, true, some lock, none, none⟩ =
        (files, ⟨.validateParent, true, some lock, none, none⟩) := by simp [advance, found, proceed]
    refine .step rfl present ?_
    cases valid : directoryIsValid account files with
    | false =>
      simp only [validateSocket, validateDirectory, valid, rejectIf]
      exact .fails rfl (by simp [advance, valid, fail]) _
    | true =>
      have parent : advance account files process ⟨.validateParent, true, some lock, none, none⟩ =
          (files, ⟨.validateSocket, true, some lock, none, none⟩) := by simp [advance, valid, proceed]
      refine .step rfl parent ?_
      cases checked : socketIsValid account metadata with
      | false =>
        simp only [validateSocket, validateDirectory, valid, rejectIf, found, ok_bind, Bool.not_true, Bool.false_eq_true,
          if_false, checked, Bool.not_false, if_true, error_bind]
        exact .fails rfl (by simp [advance, found, checked, fail]) _
      | true =>
        have validated : advance account files process ⟨.validateSocket, true, some lock, none, none⟩ =
            (files, ⟨.probeSocket, true, some lock, none, none⟩) := by simp [advance, found, checked, proceed]
        refine .step rfl validated ?_
        simp only [validateSocket, validateDirectory, valid, rejectIf, found, ok_bind, Bool.not_true, Bool.false_eq_true,
          if_false, checked]
        cases answer : files.connect .socket account.uid with
        | ok peer => exact .fails rfl (by simp [advance, answer, fail]) _
        | error error =>
          cases error with
          | connectionRefused =>
            have refused : advance account files process ⟨.probeSocket, true, some lock, none, none⟩ =
                (files, ⟨.removeStale, true, some lock, none, none⟩) := by simp [advance, answer, proceed]
            refine .step rfl refused ?_
            cases removed : files.removeFile .socket with
            | error error => exact .fails rfl (by simp [advance, removed, fail]) _
            | ok freed =>
              have free : advance account files process ⟨.removeStale, true, some lock, none, none⟩ =
                  (freed, ⟨.bindSocket, true, some lock, none, none⟩) := by simp [advance, removed, proceed]
              exact .step rfl free (ends_publish calls lock)
          | _ => exact .fails rfl (by simp [advance, answer, fail]) _

/-- The calls of a daemon that nobody interrupts compute `bind`. -/
theorem ends_bind (calls : Nat) :
    Ends account process (calls + 15) (files, .fresh) (bind account files process) := by
  unfold bind
  cases valid : directoryIsValid account files with
  | false =>
    simp only [validateDirectory, valid, rejectIf]
    exact .fails rfl (by simp [advance, Daemon.fresh, valid, fail]) _
  | true =>
    have parent : advance account files process .fresh = (files, ⟨.openLock, true, none, none, none⟩) := by
      simp [advance, Daemon.fresh, valid, proceed]
    refine .step rfl parent ?_
    simp only [validateDirectory, valid, rejectIf, Bool.not_true, Bool.false_eq_true, if_false, ok_bind]
    cases opened : files.openNoFollow .lock account.uid (account.created 0o600) with
    | error error => exact .fails rfl (by simp [advance, opened, fail]) _
    | ok result =>
      obtain ⟨lock, made⟩ := result
      have handle : advance account files process ⟨.openLock, true, none, none, none⟩ =
          (made, ⟨.checkLock, true, some lock, none, none⟩) := by simp [advance, opened, proceed]
      refine .step rfl handle ?_
      simp only [ok_bind]
      cases checked : lockIsValid account (made.inode lock) with
      | false => exact .fails rfl (by simp [advance, checked, fail]) _
      | true =>
        have private_ : advance account made process ⟨.checkLock, true, some lock, none, none⟩ =
            (made, ⟨.takeLock, true, some lock, none, none⟩) := by simp [advance, checked, proceed]
        refine .step rfl private_ ?_
        simp only [Bool.not_true, Bool.false_eq_true, if_false, ok_bind]
        cases taken : made.flock lock process with
        | error error => exact .fails rfl (by simp [advance, taken, fail]) _
        | ok locked =>
          have holding : advance account made process ⟨.takeLock, true, some lock, none, none⟩ =
              (locked, ⟨.inspectSocket, true, some lock, none, none⟩) := by simp [advance, taken, proceed]
          exact .step rfl holding (ends_removeStale calls lock)

end Uninterrupted

section Starting

variable {files after : EndpointFiles Process} {process : Process}

/-- A socket that the next daemon may free, once nobody answers on it. -/
def tidy (account : Account) (metadata : Metadata) : Bool :=
  socketIsValid account metadata && metadata.writable account.uid

/-- What the daemon's umask leaves of a new socket is tidy already. -/
def tidyMode (account : Account) : Bool :=
  tidy account ⟨.socket, account.uid, account.socketMode, 1⟩

omit [DecidableEq Process] in
theorem symlinkMetadata_eq {inode : Nat} (found : files.entry .socket = some inode) :
    files.symlinkMetadata .socket = .ok (inode, files.inode inode) := by
  rw [Files.symlinkMetadata, found]

omit [DecidableEq Process] in
theorem validateSocket_eq {inode : Nat} (valid : directoryIsValid account files = true)
    (found : files.entry .socket = some inode) (checked : socketIsValid account (files.inode inode) = true) :
    validateSocket account files = .ok (inode, files.inode inode) := by
  simp [validateSocket, validateDirectory, valid, rejectIf, symlinkMetadata_eq found, checked]

/-- A new lock file is private, whatever the umask leaves of its mode. -/
theorem created_isPrivate (account : Account) : account.created 0o600 &&& 0o077 = 0 := by
  apply Nat.eq_of_testBit_eq
  intro bit
  have apart : (Nat.testBit 0o600 bit && Nat.testBit 0o077 bit) = false := by
    rw [← Nat.testBit_and]
    exact Nat.zero_testBit bit
  rw [Account.created, Nat.testBit_and, Nat.testBit_xor, Nat.testBit_and, Nat.zero_testBit]
  cases outer : Nat.testBit 0o600 bit with
  | false => simp
  | true =>
    rw [outer, Bool.true_and] at apart
    rw [apart, Bool.and_false]

theorem lockIsValid_created (account : Account) :
    lockIsValid account ⟨.regular, account.uid, account.created 0o600, 1⟩ = true := by
  simp [lockIsValid, Metadata.isPrivate, created_isPrivate]

omit [DecidableEq Process] in
/-- A daemon with the lock and a free name publishes its socket. -/
theorem publish_succeeds (account : Account) (process : Process) (valid : directoryIsValid account files = true) (free : files.entry .socket = none)
    (lock : Nat) : ∃ result, publish account files process lock = .ok result := by
  have made : files.bindSocket .socket account.uid account.socketMode =
      .ok (files.fresh, files.create .socket ⟨.socket, account.uid, account.socketMode, 1⟩ none) := by
    rw [Files.bindSocket, free]
  simp only [publish, made, ok_bind]
  generalize answering : (files.create .socket ⟨.socket, account.uid, account.socketMode, 1⟩ none).listen
    files.fresh process = bound
  have entry : bound.entry .socket = some files.fresh := by
    rw [← answering]
    simp [Files.listen]
  have inode : bound.inode files.fresh = ⟨.socket, account.uid, account.socketMode, 1⟩ := by
    rw [← answering]
    exact Function.update_self _ _ _
  have followed : (bound.entry .socket).bind bound.follow = some files.fresh := by
    rw [entry]
    simp [Files.follow, inode]
  have changed : bound.setPermissions .socket account.uid 0o600 = .ok
      { bound with inode := Function.update bound.inode files.fresh { bound.inode files.fresh with mode := 0o600 } } := by
    simp [Files.setPermissions, followed, inode]
  have parent : bound.parent = files.parent := by
    rw [← answering]
    rfl
  rw [changed, ok_bind, @validateSocket_eq _ _ _ files.fresh]
  · exact ⟨_, rfl⟩
  · simpa only [directoryIsValid, parent] using valid
  · exact entry
  · simp [inode, socketIsValid, Metadata.isPrivate]

omit [DecidableEq Process] in
/-- A name is free after its tidy, unanswered socket has been removed. -/
theorem removeStale_succeeds (valid : directoryIsValid account files = true)
    (stale : ∀ inode, files.entry .socket = some inode →
      tidy account (files.inode inode) = true ∧ files.listener inode = none) :
    ∃ after, removeStale account files = .ok after ∧ after.entry .socket = none ∧ after.parent = files.parent := by
  cases found : files.entry .socket with
  | none => exact ⟨files, by simp [removeStale, Files.symlinkMetadata, found], found, rfl⟩
  | some inode =>
    obtain ⟨kept, quiet⟩ := stale inode found
    simp only [tidy, Bool.and_eq_true] at kept
    obtain ⟨checked, writable⟩ := kept
    have socket := socketIsValid_fileType checked
    have refused : files.connect .socket account.uid = .error .connectionRefused :=
      (Files.connect_refused found socket).mpr ⟨writable, quiet⟩
    obtain ⟨freed, removed⟩ : ∃ freed, files.removeFile .socket = .ok freed := by
      simp [Files.removeFile, found, socket]
    obtain ⟨_, _, entries, parent, _⟩ := Files.removeFile_ok removed
    refine ⟨freed, ?_, by rw [entries, Function.update_self], parent⟩
    simp [removeStale, symlinkMetadata_eq found, validateSocket_eq valid found checked, refused, removed]

/-- A directory in which the next daemon can take the lock. -/
structure LockFree (account : Account) (files : EndpointFiles Process) : Prop where
  named : files.Named
  valid : ∀ inode, files.entry .lock = some inode → lockIsValid account (files.inode inode) = true
  free : ∀ inode, files.entry .lock = some inode → files.lockedBy inode = none

theorem bind_succeeds (valid : directoryIsValid account files = true) (lock : LockFree account files)
    (stale : ∀ inode, files.entry .socket = some inode →
      tidy account (files.inode inode) = true ∧ files.listener inode = none) (process : Process) :
    ∃ result, bind account files process = .ok result := by
  obtain ⟨inode, opened, handle, checked, kept, unlocked⟩ : ∃ inode opened,
      files.openNoFollow .lock account.uid (account.created 0o600) = .ok (inode, opened) ∧
      lockIsValid account (opened.inode inode) = true ∧ KeepsSocket files opened ∧ opened.lockedBy inode = none := by
    cases found : files.entry .lock with
    | none =>
      have handle : files.openNoFollow .lock account.uid (account.created 0o600) = .ok (files.fresh,
          files.create .lock ⟨.regular, account.uid, account.created 0o600, 1⟩ none) := by
        rw [Files.openNoFollow, found]
      refine ⟨_, _, handle, ?_, .openNoFollow lock.named handle, Function.update_self _ _ _⟩
      simpa only [Files.create, Function.update_self] using lockIsValid_created account
    | some inode =>
      have checked := lock.valid inode found
      have regular : (files.inode inode).fileType = .regular := by
        simp only [lockIsValid, Bool.and_eq_true, decide_eq_true_eq] at checked
        exact checked.1.1
      have handle : files.openNoFollow .lock account.uid (account.created 0o600) = .ok (inode, files) := by
        rw [Files.openNoFollow, found]
        simp [regular]
      exact ⟨inode, files, handle, checked, .refl files, lock.free inode found⟩
  obtain ⟨locked, taken⟩ : ∃ locked, opened.flock inode process = .ok locked := by
    rw [Files.flock, unlocked]
    exact ⟨_, rfl⟩
  have still : KeepsSocket opened locked := .flock taken
  have parent : locked.parent = files.parent := still.parent.trans kept.parent
  obtain ⟨freed, removed, free, unchanged⟩ : ∃ freed, removeStale account locked = .ok freed ∧
      freed.entry .socket = none ∧ freed.parent = locked.parent := by
    apply removeStale_succeeds (by rw [directoryIsValid, parent]; exact valid)
    intro socket found
    have between : opened.entry .socket = some socket := still.entry ▸ found
    have before : files.entry .socket = some socket := kept.entry ▸ between
    rw [still.inode socket between, kept.inode socket before, still.listener socket between, kept.listener socket before]
    exact stale socket before
  obtain ⟨result, published⟩ := publish_succeeds account process
    (by rw [directoryIsValid, unchanged, parent]; exact valid) free inode
  refine ⟨result, ?_⟩
  simp [bind, validateDirectory, valid, rejectIf, handle, checked, taken, removed, published]

/-- Nothing is published over a socket that may not be freed. -/
theorem bind_refuses {inode : Nat} (named : files.Named) (found : files.entry .socket = some inode)
    (untidy : tidy account (files.inode inode) = false) :
    ∃ error, bind account files process = .error error := by
  cases outcome : bind account files process with
  | error error => exact ⟨error, rfl⟩
  | ok result =>
    simp only [bind, bind_ok, exists_unit, rejectIf_ok, Prod.exists] at outcome
    obtain ⟨_, lock, opened, handle, _, locked, taken, freed, removed, _⟩ := outcome
    have kept : KeepsSocket files opened := .openNoFollow named handle
    have still : KeepsSocket opened locked := .flock taken
    have between : opened.entry .socket = some inode := kept.entry.trans found
    have reached : locked.entry .socket = some inode := still.entry.trans between
    have same : locked.inode inode = files.inode inode := (still.inode inode between).trans (kept.inode inode found)
    rw [removeStale, symlinkMetadata_eq reached] at removed
    simp only [bind_ok, Prod.exists] at removed
    obtain ⟨_, _, validated, answer⟩ := removed
    have checked : socketIsValid account (files.inode inode) = true := by
      simp only [validateSocket, bind_ok, symlinkMetadata_eq reached, rejectIf_ok, Prod.exists] at validated
      obtain ⟨_, _, _, _, pair, _, valid, _⟩ := validated
      simp only [Except.ok.injEq, Prod.mk.injEq] at pair
      rw [← pair.2, same] at valid
      simpa using valid
    have refused : locked.connect .socket account.uid = .error .connectionRefused := by
      split at answer
      · cases answer
      · assumption
      · cases answer
    rw [Files.connect_refused reached (by rw [same, socketIsValid_fileType checked]), same] at refused
    rw [tidy, checked, refused.1] at untidy
    cases untidy

end Starting

end Bastet.LocalIpc
