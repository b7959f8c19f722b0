import Bastet.LocalIpc.Exclusion

/-! What the name of the socket leads to, as long as only daemons touch it: a daemon that serves is the one that
answers, a name is freed only of a private socket that nobody listens on or by the daemon that made it, and what a
daemon may not free stays. -/

set_option autoImplicit false

namespace Bastet.LocalIpc

open UnixFiles Fallible

variable {Process : Type} [DecidableEq Process] {account : Account}

/-- Only daemons take steps. -/
def Undisturbed (_ : Host Process) : Action Process → Prop
  | .disturb _ => False
  | _ => True

omit [DecidableEq Process] in
theorem Undisturbed.leavesLock {host : Host Process} {action : Action Process} (undisturbed : Undisturbed host action) :
    LeavesLock host action := by
  cases action with
  | disturb _ => exact undisturbed.elim
  | _ => trivial

/-- The calls a daemon makes with a socket of its own under the name. -/
def Call.owns : Call → Bool
  | .listen | .setPermissions | .confirmParent | .confirmSocket | .openStore | .serve | .drain | .compareSocket
  | .removeSocket => true
  | _ => false

/-- The calls at which the socket's name may change hands. -/
def Call.touches (self : Call) : Bool :=
  self.owns || self = .removeStale || self = .bindSocket

section Advances

variable {files after : EndpointFiles Process} {process : Process} {daemon later : Daemon}

/-- What a step of one daemon leaves of the socket: its name, its file, and who listens on it. -/
structure LeavesSocket (files : EndpointFiles Process) (process : Process) (after : EndpointFiles Process) : Prop where
  parent : after.parent = files.parent
  entry : after.entry .socket = files.entry .socket
  inode : ∀ inode, files.entry .socket = some inode → after.inode inode = files.inode inode
  target : ∀ inode, files.entry .socket = some inode → after.target inode = files.target inode
  quiet : ∀ inode, files.entry .socket = some inode → files.listener inode = none → after.listener inode = none
  others : ∀ inode other, files.entry .socket = some inode → other ≠ process → files.listener inode = some other →
    after.listener inode = some other

/-- A step after which the name, its file and its listener are as before. -/
structure KeepsSocket (files after : EndpointFiles Process) : Prop where
  parent : after.parent = files.parent
  entry : after.entry .socket = files.entry .socket
  inode : ∀ inode, files.entry .socket = some inode → after.inode inode = files.inode inode
  target : ∀ inode, files.entry .socket = some inode → after.target inode = files.target inode
  listener : ∀ inode, files.entry .socket = some inode → after.listener inode = files.listener inode

omit [DecidableEq Process] in
theorem KeepsSocket.refl (files : EndpointFiles Process) : KeepsSocket files files :=
  ⟨rfl, rfl, fun _ _ => rfl, fun _ _ => rfl, fun _ _ => rfl⟩

omit [DecidableEq Process] in
theorem KeepsSocket.leaves (kept : KeepsSocket files after) : LeavesSocket files process after where
  parent := kept.parent
  entry := kept.entry
  inode := kept.inode
  target := kept.target
  quiet := fun inode found quiet => (kept.listener inode found).trans quiet
  others := fun inode _ found _ listening => (kept.listener inode found).trans listening

omit [DecidableEq Process] in
theorem KeepsSocket.connect (kept : KeepsSocket files after) (uid : Nat)
    (plain : ∀ inode, files.entry .socket = some inode → (files.inode inode).fileType ≠ .symlink) :
    after.connect .socket uid = files.connect .socket uid := by
  cases found : files.entry .socket with
  | none => simp [Files.connect, kept.entry, found]
  | some inode =>
    have direct := plain inode found
    simp [Files.connect, kept.entry, found, Files.follow, kept.inode inode found, kept.listener inode found, direct]

omit [DecidableEq Process] in
theorem KeepsSocket.openNoFollow {uid mode lock : Nat} (named : files.Named)
    (opened : files.openNoFollow .lock uid mode = .ok (lock, after)) : KeepsSocket files after := by
  obtain ⟨_, rfl⟩ | ⟨_, _, rfl⟩ := Files.openNoFollow_ok opened
  · exact .refl _
  · have older : ∀ inode, files.entry .socket = some inode → inode ≠ files.fresh :=
      fun inode found => Nat.ne_of_lt (named .socket inode found)
    refine ⟨rfl, Files.create_entry_of_ne (by decide) _ _, ?_, ?_, ?_⟩
    all_goals intro inode found
    all_goals exact Function.update_of_ne (older inode found) _ _

theorem KeepsSocket.flock {inode : Nat} (taken : files.flock inode process = .ok after) : KeepsSocket files after := by
  obtain ⟨_, rfl⟩ := Files.flock_ok taken
  exact ⟨rfl, rfl, fun _ _ => rfl, fun _ _ => rfl, fun _ _ => rfl⟩

theorem KeepsSocket.unlock (inode : Nat) : KeepsSocket files (files.unlock inode process) := by
  unfold Files.unlock
  split
  · exact ⟨rfl, rfl, fun _ _ => rfl, fun _ _ => rfl, fun _ _ => rfl⟩
  · exact .refl files

theorem LeavesSocket.hangUp (inode : Nat) : LeavesSocket files process (files.hangUp inode process) := by
  unfold Files.hangUp
  split
  · rename_i own
    refine ⟨rfl, rfl, fun _ _ => rfl, fun _ _ => rfl, fun found _ quiet => ?_, fun found other _ apart listening => ?_⟩
    · by_cases same : found = inode
      · subst same
        exact Function.update_self _ _ _
      · exact (Function.update_of_ne same _ _).trans quiet
    · have differ : found ≠ inode := by
        rintro rfl
        exact apart (Option.some.inj (listening.symm.trans own))
      exact (Function.update_of_ne differ _ _).trans listening
  · exact (KeepsSocket.refl files).leaves

/-- A daemon that has made the socket: the name leads to it, and once it listens it is the one that answers. -/
structure Owns (account : Account) (files : EndpointFiles Process) (process : Process) (daemon : Daemon) (inode : Nat) :
    Prop where
  entry : files.entry .socket = some inode
  fileType : (files.inode inode).fileType = .socket
  uid : (files.inode inode).uid = account.uid
  mode : (files.inode inode).mode =
    if daemon.call = .listen ∨ daemon.call = .setPermissions then account.socketMode else 0o600
  compared : daemon.call ∈ [.openStore, .serve, .drain, .compareSocket, .removeSocket] → daemon.inode = some inode
  opened : daemon.call ∈ [.listen, .setPermissions, .confirmParent, .confirmSocket, .openStore, .serve] →
    daemon.listener = some inode
  listening : daemon.call ≠ .listen → daemon.listener = some inode → files.listener inode = some process

/-- What a daemon has found out about the socket, and still holds. -/
structure Placed (account : Account) (files : EndpointFiles Process) (process : Process) (daemon : Daemon) : Prop where
  validParent : daemon.running = true → daemon.call ≠ .validateDirectory → directoryIsValid account files = true
  validated : daemon.running = true → daemon.call = .probeSocket ∨ daemon.call = .removeStale →
    ∃ inode, files.entry .socket = some inode ∧ socketIsValid account (files.inode inode) = true
  refused : daemon.running = true → daemon.call = .removeStale →
    files.connect .socket account.uid = .error .connectionRefused
  vacant : daemon.running = true → daemon.call = .bindSocket → files.entry .socket = none
  owns : daemon.running = true → daemon.call.owns = true → ∃ inode, Owns account files process daemon inode

theorem socketIsValid_fileType {metadata : Metadata} (valid : socketIsValid account metadata = true) :
    metadata.fileType = .socket := by
  simp only [socketIsValid, Bool.and_eq_true, decide_eq_true_eq] at valid
  exact valid.1

omit [DecidableEq Process] in
theorem LeavesSocket.refused (left : LeavesSocket files process after) {inode : Nat}
    (found : files.entry .socket = some inode) (socket : (files.inode inode).fileType = .socket)
    (refused : files.connect .socket account.uid = .error .connectionRefused) :
    after.connect .socket account.uid = .error .connectionRefused := by
  obtain ⟨writable, quiet⟩ := (Files.connect_refused found socket).mp refused
  have same := left.inode inode found
  rw [Files.connect_refused (left.entry.trans found) (by rw [same, socket]), same]
  exact ⟨writable, left.quiet inode found quiet⟩

omit [DecidableEq Process] in
theorem LeavesSocket.directoryIsValid (left : LeavesSocket files process after) :
    directoryIsValid account after = directoryIsValid account files := by
  rw [LocalIpc.directoryIsValid, LocalIpc.directoryIsValid, left.parent]

omit [DecidableEq Process] in
theorem Owns.left {inode : Nat} {other : Process} (owns : Owns account files other daemon inode)
    (left : LeavesSocket files process after) (apart : other ≠ process) : Owns account after other daemon inode := by
  have same := left.inode inode owns.entry
  refine ⟨left.entry.trans owns.entry, ?_, ?_, ?_, owns.compared, owns.opened, fun listening opened => ?_⟩
  · rw [same, owns.fileType]
  · rw [same, owns.uid]
  · rw [same, owns.mode]
  · exact left.others inode other owns.entry apart (owns.listening listening opened)

omit [DecidableEq Process] in
theorem Placed.left {other : Process} (placed : Placed account files other daemon)
    (left : LeavesSocket files process after) (apart : other ≠ process) : Placed account after other daemon where
  validParent := fun running called => left.directoryIsValid.trans (placed.validParent running called)
  validated := by
    intro running called
    obtain ⟨inode, found, valid⟩ := placed.validated running called
    exact ⟨inode, left.entry.trans found, by rw [left.inode inode found, valid]⟩
  refused := by
    intro running called
    obtain ⟨inode, found, valid⟩ := placed.validated running (.inr called)
    exact left.refused found (socketIsValid_fileType valid) (placed.refused running called)
  vacant := fun running called => left.entry.trans (placed.vacant running called)
  owns := by
    intro running called
    obtain ⟨inode, owns⟩ := placed.owns running called
    exact ⟨inode, owns.left left apart⟩

omit [DecidableEq Process] in
/-- A daemon without the lock has found out nothing but that the directory is its own. -/
theorem Placed.unlocked (unlocked : daemon.locked = false)
    (valid : daemon.running = true → daemon.call ≠ .validateDirectory → directoryIsValid account files = true) :
    Placed account files process daemon := by
  have early : daemon.running = true → daemon.call ∈ [.validateDirectory, .openLock, .checkLock, .takeLock, .exit] := by
    intro running
    simp only [Daemon.locked, running, Bool.true_and] at unlocked
    cases called : daemon.call <;> simp [called] at unlocked ⊢
  refine ⟨valid, fun running called => ?_, fun running called => ?_, fun running called => ?_, fun running called => ?_⟩
  · have := early running
    obtain called | called := called <;> simp [called] at this
  · have := early running
    simp [called] at this
  · have := early running
    simp [called] at this
  · have := early running
    cases exact : daemon.call <;> simp [exact, Call.owns] at this called

omit [DecidableEq Process] in
/-- A daemon that has ended has nothing left to rely on. -/
theorem Placed.ended (ended : daemon.running = false) : Placed account files process daemon := by
  refine .unlocked (by simp [Daemon.locked, ended]) fun running => ?_
  rw [ended] at running
  cases running

omit [DecidableEq Process] in
/-- What holds of a daemon that goes on to a call at which it need not know more. -/
theorem Placed.of_valid (valid : directoryIsValid account files = true)
    (plain : daemon.call ∉ [.probeSocket, .removeStale, .bindSocket] ∧ daemon.call.owns = false) :
    Placed account files process daemon := by
  obtain ⟨apart, unowned⟩ := plain
  simp only [List.mem_cons, List.not_mem_nil, or_false, not_or] at apart
  refine ⟨fun _ _ => valid, fun _ called => ?_, fun _ called => absurd called apart.2.1,
    fun _ called => absurd called apart.2.2, fun _ called => ?_⟩
  · obtain called | called := called
    · exact absurd called apart.1
    · exact absurd called apart.2.1
  · rw [unowned] at called
    cases called

omit [DecidableEq Process] in
theorem Owns.placed (inode : Nat) (owns : Owns account files process daemon inode)
    (valid : directoryIsValid account files = true) (owner : daemon.call.owns = true) :
    Placed account files process daemon := by
  refine ⟨fun _ _ => valid, fun _ called => ?_, fun _ called => ?_, fun _ called => ?_, fun _ _ => ⟨inode, owns⟩⟩
  · obtain called | called := called <;> simp [called, Call.owns] at owner
  · simp [called, Call.owns] at owner
  · simp [called, Call.owns] at owner

omit [DecidableEq Process] in
/-- An owner that goes on to its next call with the same files. -/
theorem Owns.proceed {inode : Nat} (owns : Owns account files process daemon inode) {call : Call}
    (mode : ¬(daemon.call = .listen ∨ daemon.call = .setPermissions)) (further : ¬(call = .listen ∨ call = .setPermissions))
    (compared : call ∈ [.openStore, .serve, .drain, .compareSocket, .removeSocket] → daemon.inode = some inode)
    (opened : call ∈ [.listen, .setPermissions, .confirmParent, .confirmSocket, .openStore, .serve] →
      daemon.listener = some inode) :
    Owns account files process { daemon with call := call } inode where
  entry := owns.entry
  fileType := owns.fileType
  uid := owns.uid
  mode := by
    rw [if_neg further, owns.mode, if_neg mode]
  compared := compared
  opened := opened
  listening := fun _ handle => owns.listening (fun called => mode (.inl called)) handle

omit [DecidableEq Process] in
theorem Owns.setPermissions {inode : Nat} (owns : Owns account files process daemon inode)
    (called : daemon.call = .setPermissions)
    (changed : files.setPermissions .socket account.uid 0o600 = .ok after) :
    Owns account after process { daemon with call := .confirmParent } inode ∧ after.parent = files.parent := by
  obtain ⟨found, followed, rfl⟩ := Files.setPermissions_ok changed
  have itself : (files.entry .socket).bind files.follow = some inode := by
    rw [owns.entry]
    simp [Files.follow, owns.fileType]
  obtain rfl : inode = found := Option.some.inj (itself.symm.trans followed)
  refine ⟨⟨owns.entry, ?_, ?_, ?_, by simp, fun _ => owns.opened (by simp [called]), fun _ handle => ?_⟩, rfl⟩
  · simp [owns.fileType]
  · simp [owns.uid]
  · simp
  · exact owns.listening (by simp [called]) handle

theorem advance_placed (placed : Placed account files process daemon) (named : files.Named)
    (running : daemon.running = true) :
    Placed account (advance account files process daemon).1 process (advance account files process daemon).2 := by
  have ended : ∀ {files : EndpointFiles Process}, Placed account files process (LocalIpc.fail files daemon).2 :=
    .ended rfl
  have valid := placed.validParent running
  cases called : daemon.call with
  | validateDirectory =>
    simp only [advance, called]
    split
    · rename_i valid
      exact .of_valid valid (by simp [LocalIpc.proceed, Call.owns])
    · exact ended
  | openLock =>
    simp only [advance, called]
    split
    · rename_i lock after opened
      have left : LeavesSocket files process after := (KeepsSocket.openNoFollow named opened).leaves
      exact .of_valid (left.directoryIsValid.trans (valid (by simp [called]))) (by simp [LocalIpc.proceed, Call.owns])
    · exact ended
  | checkLock =>
    simp only [advance, called]
    split
    · exact .of_valid (valid (by simp [called])) (by simp [LocalIpc.proceed, Call.owns])
    · exact ended
  | takeLock =>
    simp only [advance, called]
    split
    · exact ended
    · split
      · rename_i after taken
        have left : LeavesSocket files process after := (KeepsSocket.flock taken).leaves
        exact .of_valid (left.directoryIsValid.trans (valid (by simp [called]))) (by simp [LocalIpc.proceed, Call.owns])
      · exact ended
  | inspectSocket =>
    simp only [advance, called]
    split
    · exact .of_valid (valid (by simp [called])) (by simp [LocalIpc.proceed, Call.owns])
    · rename_i absent
      -- the lock keeps the name free until this daemon binds it
      have vacant : files.entry .socket = none := by
        unfold Files.symlinkMetadata at absent
        split at absent
        · cases absent
        · assumption
      exact ⟨fun _ _ => valid (by simp [called]), by simp [LocalIpc.proceed], by simp [LocalIpc.proceed],
        fun _ _ => vacant, by simp [LocalIpc.proceed, Call.owns]⟩
    · exact ended
  | validateParent =>
    simp only [advance, called]
    split
    · exact .of_valid (valid (by simp [called])) (by simp [LocalIpc.proceed, Call.owns])
    · exact ended
  | validateSocket =>
    simp only [advance, called]
    split
    · rename_i inode metadata found
      split
      · rename_i checked
        have validated : ∃ inode, files.entry .socket = some inode ∧ socketIsValid account (files.inode inode) = true := by
          unfold Files.symlinkMetadata at found
          split at found
          · rename_i inode entry
            cases found
            exact ⟨inode, entry, checked⟩
          · cases found
        exact ⟨fun _ _ => valid (by simp [called]), fun _ _ => validated, by simp [LocalIpc.proceed],
          by simp [LocalIpc.proceed], by simp [LocalIpc.proceed, Call.owns]⟩
      · exact ended
    · exact ended
  | probeSocket =>
    simp only [advance, called]
    split
    · rename_i refused
      exact ⟨fun _ _ => valid (by simp [called]), fun _ _ => placed.validated running (.inl called), fun _ _ => refused,
        by simp [LocalIpc.proceed], by simp [LocalIpc.proceed, Call.owns]⟩
    · exact ended
  | removeStale =>
    simp only [advance, called]
    split
    · rename_i after removed
      obtain ⟨_, _, entries, parent, _⟩ := Files.removeFile_ok removed
      have still : directoryIsValid account after = true := by
        rw [directoryIsValid, parent]
        exact valid (by simp [called])
      exact ⟨fun _ _ => still, by simp [LocalIpc.proceed], by simp [LocalIpc.proceed],
        fun _ _ => by simp [LocalIpc.proceed, entries], by simp [LocalIpc.proceed, Call.owns]⟩
    · exact ended
  | bindSocket =>
    simp only [advance, called]
    split
    · rename_i listener after made
      obtain ⟨_, rfl, rfl⟩ := Files.bindSocket_ok made
      refine Owns.placed files.fresh ⟨by simp [LocalIpc.proceed], ?_, ?_, ?_, ?_, ?_, ?_⟩
        (valid (by simp [called])) rfl
      all_goals simp [LocalIpc.proceed, Files.create]
    · exact ended
  | listen =>
    obtain ⟨inode, owns⟩ := placed.owns running (by simp [called, Call.owns])
    have opened := owns.opened (by simp [called])
    simp only [advance, called, opened]
    refine Owns.placed inode ⟨owns.entry, owns.fileType, owns.uid, ?_, ?_, ?_, ?_⟩ (valid (by simp [called])) rfl
    · simp [LocalIpc.proceed, Files.listen, owns.mode, called]
    · simp [LocalIpc.proceed]
    · simp [LocalIpc.proceed, opened]
    · simp [LocalIpc.proceed, Files.listen]
  | setPermissions =>
    obtain ⟨inode, owns⟩ := placed.owns running (by simp [called, Call.owns])
    simp only [advance, called]
    split
    · rename_i after changed
      obtain ⟨later, parent⟩ := owns.setPermissions called changed
      have still : directoryIsValid account after = true := by
        rw [directoryIsValid, parent]
        exact valid (by simp [called])
      exact later.placed _ still rfl
    · exact ended
  | confirmParent =>
    obtain ⟨inode, owns⟩ := placed.owns running (by simp [called, Call.owns])
    simp only [advance, called]
    split
    · refine Owns.placed inode ?_ (valid (by simp [called])) rfl
      exact owns.proceed (by simp [called]) (by simp) (by simp) (fun _ => owns.opened (by simp [called]))
    · exact ended
  | confirmSocket =>
    obtain ⟨inode, owns⟩ := placed.owns running (by simp [called, Call.owns])
    simp only [advance, called, Files.symlinkMetadata, owns.entry]
    split
    · refine Owns.placed inode ?_ (valid (by simp [called])) rfl
      refine ⟨owns.entry, owns.fileType, owns.uid, ?_, fun _ => rfl, fun _ => owns.opened (by simp [called]), ?_⟩
      · simp [LocalIpc.proceed, owns.mode, called]
      · exact fun _ => owns.listening (by simp [called])
    · exact ended
  | openStore | serve =>
    obtain ⟨inode, owns⟩ := placed.owns running (by simp [called, Call.owns])
    simp only [advance, called]
    refine Owns.placed inode ?_ (valid (by simp [called])) rfl
    exact owns.proceed (by simp [called]) (by simp) (fun _ => owns.compared (by simp [called]))
      (fun _ => owns.opened (by simp [called]))
  | drain =>
    obtain ⟨inode, owns⟩ := placed.owns running (by simp [called, Call.owns])
    simp only [advance, called]
    refine Owns.placed inode ?_ (valid (by simp [called])) rfl
    exact owns.proceed (by simp [called]) (by simp) (fun _ => owns.compared (by simp [called])) (by simp)
  | compareSocket =>
    obtain ⟨inode, owns⟩ := placed.owns running (by simp [called, Call.owns])
    simp only [advance, called, Files.symlinkMetadata, owns.entry]
    split
    · refine Owns.placed inode ?_ (valid (by simp [called])) rfl
      exact owns.proceed (by simp [called]) (by simp) (fun _ => owns.compared (by simp [called])) (by simp)
    · exact .of_valid (valid (by simp [called])) (by simp [LocalIpc.proceed, Call.owns])
  | removeSocket =>
    simp only [advance, called]
    split
    · rename_i after removed
      obtain ⟨_, _, _, parent, _⟩ := Files.removeFile_ok removed
      have still : directoryIsValid account after = true := by
        rw [directoryIsValid, parent]
        exact valid (by simp [called])
      exact .of_valid still (by simp [LocalIpc.proceed, Call.owns])
    · exact .of_valid (valid (by simp [called])) (by simp [LocalIpc.proceed, Call.owns])
  | closeLock =>
    simp only [advance, called]
    split
    · exact .ended rfl
    · exact .ended rfl
  | exit =>
    simp only [advance, called]
    exact .ended rfl

/-- Before it may free the name, and after it has dropped its guard, a daemon leaves the socket alone. -/
theorem advance_keeps (named : files.Named) (untouched : daemon.call.touches = false) :
    KeepsSocket files (advance account files process daemon).1 := by
  have here := KeepsSocket.refl files
  cases called : daemon.call with
  | validateDirectory | checkLock | inspectSocket | validateParent | validateSocket | probeSocket =>
    simp only [advance, called]
    repeat' split
    all_goals exact here
  | openLock =>
    simp only [advance, called]
    split
    · rename_i lock after opened
      exact .openNoFollow named opened
    · exact here
  | takeLock =>
    simp only [advance, called]
    split
    · exact here
    · split
      · rename_i after taken
        exact .flock taken
      · exact here
  | closeLock =>
    simp only [advance, called]
    split
    · exact here
    · exact .unlock _
  | exit =>
    simp only [advance, called]
    exact here
  | removeStale | bindSocket | listen | setPermissions | confirmParent | confirmSocket | openStore | serve | drain
  | compareSocket | removeSocket =>
    simp [called, Call.touches, Call.owns] at untouched

/-- Touching the socket takes the lock. -/
theorem Daemon.locked_of_touches (running : daemon.running = true) (touches : daemon.call.touches = true) :
    daemon.locked = true := by
  cases called : daemon.call <;> simp [Daemon.locked, running, called, Call.touches, Call.owns] at touches ⊢

end Advances

section Hosts

variable {host : Host Process}

/-- The lock is held by one daemon at a time, and every daemon still relies on what it has found out. -/
structure Host.Settled (account : Account) (host : Host Process) : Prop where
  exclusive : host.Exclusive
  placed : ∀ process, Placed account host.files process (host.daemon process)

theorem Host.Settled.put (settled : host.Settled account) {process : Process} {result : Advance Process}
    (exclusive : (host.put process result).Exclusive)
    (placed : Placed account result.1 process result.2)
    (leaves : LeavesSocket host.files process result.1 ∨
      ((host.daemon process).locked = true ∧ result.1.parent = host.files.parent)) :
    (host.put process result).Settled account := by
  refine ⟨exclusive, fun other => ?_⟩
  by_cases same : other = process
  · subst same
    simp only [Host.put, Function.update_self]
    exact placed
  -- the step left the socket to the others, or its daemon held the lock, so that none of them relies on it
  · simp only [Host.put, Function.update_of_ne same]
    obtain leaves | ⟨locked, parent⟩ := leaves
    · exact (settled.placed other).left leaves same
    · refine .unlocked ?_ fun running called => ?_
      · cases too : (host.daemon other).locked with
        | false => rfl
        | true => exact absurd (settled.exclusive.unique too locked) same
      · rw [directoryIsValid, parent]
        exact (settled.placed other).validParent running called

theorem advance_parent {files : EndpointFiles Process} {process : Process} {daemon : Daemon} :
    (advance account files process daemon).1.parent = files.parent := by
  cases called : daemon.call with
  | openLock =>
    simp only [advance, called]
    split
    · rename_i lock after opened
      obtain ⟨_, rfl⟩ | ⟨_, _, rfl⟩ := Files.openNoFollow_ok opened <;> rfl
    · rfl
  | takeLock =>
    simp only [advance, called]
    split
    · rfl
    · split
      · rename_i after taken
        obtain ⟨_, rfl⟩ := Files.flock_ok taken
        rfl
      · rfl
  | removeStale | removeSocket =>
    simp only [advance, called]
    split
    · rename_i after removed
      obtain ⟨_, _, _, parent, _⟩ := Files.removeFile_ok removed
      exact parent
    · rfl
  | bindSocket =>
    simp only [advance, called]
    split
    · rename_i listener after made
      obtain ⟨_, _, rfl⟩ := Files.bindSocket_ok made
      rfl
    · rfl
  | setPermissions =>
    simp only [advance, called]
    split
    · rename_i after changed
      obtain ⟨_, _, rfl⟩ := Files.setPermissions_ok changed
      rfl
    · rfl
  | closeLock =>
    simp only [advance, called]
    split
    · rfl
    · exact (@KeepsSocket.unlock _ _ _ process _).parent
  | validateDirectory | checkLock | inspectSocket | validateParent | validateSocket | probeSocket | listen | confirmParent
  | confirmSocket | openStore | serve | drain | compareSocket | exit =>
    simp only [advance, called]
    repeat' split
    all_goals rfl

theorem advance_settled (settled : host.Settled account) {process : Process}
    (running : (host.daemon process).running = true) :
    (host.put process (advance account host.files process (host.daemon process))).Settled account := by
  have held := settled.exclusive process
  refine settled.put (settled.exclusive.put (advance_stepped held running))
    (advance_placed (settled.placed process) held.named running) ?_
  cases touches : (host.daemon process).call.touches with
  | false => exact .inl (advance_keeps held.named touches).leaves
  | true => exact .inr ⟨Daemon.locked_of_touches running touches, advance_parent⟩

theorem next_settled (settled : host.Settled account) {action : Action Process} (undisturbed : Undisturbed host action) :
    (next account host action).Settled account := by
  have exclusive : (next account host action).Exclusive := next_exclusive settled.exclusive undisturbed.leavesLock
  have here : ∀ process, LeavesSocket host.files process host.files := fun process => (KeepsSocket.refl host.files).leaves
  cases action with
  | start process =>
    simp only [next] at exclusive ⊢
    split
    · rename_i unstarted
      rw [if_pos unstarted] at exclusive
      exact settled.put exclusive (.unlocked rfl (by simp [Daemon.fresh])) (.inl (here process))
    · exact settled
  | step process =>
    simp only [next]
    split
    · rename_i running
      exact advance_settled settled running
    · exact settled
  | shutdown process =>
    simp only [next] at exclusive ⊢
    split
    · rename_i serving
      rw [if_pos serving] at exclusive
      have placed := settled.placed process
      obtain ⟨inode, owns⟩ := placed.owns serving.1 (by simp [serving.2, Call.owns])
      have opened := owns.opened (by simp [serving.2])
      -- the socket keeps its name, and no longer has a listener
      have left : LeavesSocket host.files process (host.files.hangUp inode process) := .hangUp inode
      simp only [closedListener, opened] at exclusive ⊢
      refine settled.put exclusive ?_ (.inl left)
      refine Owns.placed inode ⟨left.entry.trans owns.entry, ?_, ?_, ?_, fun _ => ?_, by simp, by simp⟩ ?_ rfl
      · rw [left.inode inode owns.entry, owns.fileType]
      · rw [left.inode inode owns.entry, owns.uid]
      · rw [left.inode inode owns.entry, owns.mode]
        simp [serving.2]
      · exact owns.compared (by simp [serving.2])
      · exact left.directoryIsValid.trans (placed.validParent serving.1 (by simp [serving.2]))
    · exact settled
  | abandon process =>
    simp only [next] at exclusive ⊢
    split
    · rename_i serving
      rw [if_pos serving] at exclusive
      have placed := settled.placed process
      obtain ⟨running, called⟩ := serving
      obtain ⟨inode, owns⟩ := placed.owns running (by obtain called | called := called <;> simp [called, Call.owns])
      have valid := placed.validParent running (by obtain called | called := called <;> simp [called])
      refine settled.put exclusive (Owns.placed inode ?_ valid rfl) (.inl (here process))
      apply owns.proceed
      · obtain called | called := called <;> simp [called]
      · simp
      · intro _
        exact owns.compared (by obtain called | called := called <;> simp [called])
      · simp
    · exact settled
  | stop process => exact settled.put exclusive (.ended rfl) (.inl (here process))
  | closeLock process =>
    simp only [next] at exclusive ⊢
    split
    · exact settled
    · rename_i ended
      rw [if_neg ended] at exclusive
      have ended := Bool.eq_false_iff.mpr ended
      refine settled.put exclusive ?_ ?_
      all_goals simp only [closedLock]
      all_goals split
      · exact .ended ended
      · exact .ended ended
      · exact .inl (here process)
      · exact .inl (KeepsSocket.unlock _).leaves
  | closeListener process =>
    simp only [next] at exclusive ⊢
    split
    · exact settled
    · rename_i ended
      rw [if_neg ended] at exclusive
      have ended := Bool.eq_false_iff.mpr ended
      refine settled.put exclusive ?_ ?_
      all_goals simp only [closedListener]
      all_goals split
      · exact .ended ended
      · exact .ended ended
      · exact .inl (here process)
      · exact .inl (.hangUp _)
  | disturb _ => exact undisturbed.elim

omit [DecidableEq Process] in
theorem Host.Unstarted.settled (unstarted : host.Unstarted) : host.Settled account := by
  refine ⟨unstarted.exclusive, fun process => ?_⟩
  rw [unstarted.daemons process]
  exact .ended rfl

theorem settled_of_run (unstarted : host.Unstarted) {actions : List (Action Process)}
    (undisturbed : Machine.Allowed (next account) Undisturbed host actions) :
    (Machine.run (next account) host actions).Settled account := by
  refine Machine.allowed_run_preserves ?_ unstarted.settled undisturbed
  intro before action alone settled
  exact next_settled settled alone

omit [DecidableEq Process] in
/-- A socket that has been restricted is private, and its daemon may write to it. -/
theorem Owns.restricted {files : EndpointFiles Process} {process : Process} {daemon : Daemon} {inode : Nat}
    (owns : Owns account files process daemon inode) (past : ¬(daemon.call = .listen ∨ daemon.call = .setPermissions)) :
    socketIsValid account (files.inode inode) = true ∧ (files.inode inode).writable account.uid = true := by
  have mode : (files.inode inode).mode = 0o600 := by rw [owns.mode, if_neg past]
  simp [socketIsValid, Metadata.isPrivate, Metadata.writable, owns.fileType, owns.uid, mode]

/-- While a daemon opens its store or serves, every client of the account that connects reaches this daemon, whatever
the other daemons have done or were killed at. -/
theorem serving_answers (unstarted : host.Unstarted) {actions : List (Action Process)}
    (undisturbed : Machine.Allowed (next account) Undisturbed host actions) (process : Process)
    (running : ((Machine.run (next account) host actions).daemon process).running = true)
    (called : ((Machine.run (next account) host actions).daemon process).call = .openStore ∨
      ((Machine.run (next account) host actions).daemon process).call = .serve)
    (uidOf : Process → Nat) (own : uidOf process = account.uid) :
    connect account (Machine.run (next account) host actions).files uidOf = .ok process := by
  have placed := (settled_of_run unstarted undisturbed).placed process
  generalize Machine.run (next account) host actions = reached at *
  obtain ⟨inode, owns⟩ := placed.owns running (by obtain called | called := called <;> simp [called, Call.owns])
  have past : ¬((reached.daemon process).call = .listen ∨ (reached.daemon process).call = .setPermissions) := by
    obtain called | called := called <;> simp [called]
  obtain ⟨valid, writable⟩ := owns.restricted past
  have parent : directoryIsValid account reached.files = true :=
    placed.validParent running (by obtain called | called := called <;> simp [called])
  have listening : reached.files.listener inode = some process := by
    apply owns.listening
    · exact fun listen => past (.inl listen)
    · exact owns.opened (by obtain called | called := called <;> simp [called])
  have answered : reached.files.connect .socket account.uid = .ok process := by
    have followed : (reached.files.entry .socket).bind reached.files.follow = some inode := by
      rw [owns.entry]
      simp [Files.follow, owns.fileType]
    simp [Files.connect, followed, owns.fileType, writable, listening]
  have checked : validateSocket account reached.files = .ok (inode, reached.files.inode inode) := by
    simp [validateSocket, validateDirectory, parent, rejectIf, Files.symlinkMetadata, owns.entry, valid]
  rw [connect, checked]
  simp [answered, own, rejectIf]

/-- The one step that frees the name is a daemon's own call. -/
theorem frees_step {process : Process} (settled : host.Settled account) {inode : Nat}
    (running : (host.daemon process).running = true) (found : host.files.entry .socket = some inode)
    (freed : (advance account host.files process (host.daemon process)).1.entry .socket ≠ some inode) :
    socketIsValid account (host.files.inode inode) = true ∧
      (host.files.connect .socket account.uid = .error .connectionRefused ∨
        ((host.daemon process).call = .removeSocket ∧ (host.daemon process).inode = some inode)) := by
  have placed := settled.placed process
  cases touches : (host.daemon process).call.touches with
  | false =>
    have kept : KeepsSocket host.files (advance account host.files process (host.daemon process)).1 :=
      advance_keeps (settled.exclusive process).named touches
    exact absurd (kept.entry.trans found) freed
  | true =>
    cases called : (host.daemon process).call with
    | removeStale =>
      obtain ⟨other, again, valid⟩ := placed.validated running (.inr called)
      obtain rfl : inode = other := Option.some.inj (found.symm.trans again)
      exact ⟨valid, .inl (placed.refused running called)⟩
    | removeSocket =>
      obtain ⟨other, owns⟩ := placed.owns running (by simp [called, Call.owns])
      obtain rfl : inode = other := Option.some.inj (found.symm.trans owns.entry)
      exact ⟨(owns.restricted (by simp [called])).1, .inr ⟨rfl, owns.compared (by simp [called])⟩⟩
    | bindSocket =>
      rw [placed.vacant running called] at found
      cases found
    | listen | confirmParent | confirmSocket | openStore | serve | drain | compareSocket =>
      refine absurd ?_ freed
      simp only [advance, called]
      repeat' split
      all_goals exact found
    | setPermissions =>
      refine absurd ?_ freed
      simp only [advance, called]
      split
      · rename_i after changed
        obtain ⟨_, _, rfl⟩ := Files.setPermissions_ok changed
        exact found
      · exact found
    | _ => simp [called, Call.touches, Call.owns] at touches

/-- The name of the socket is taken from a file by a daemon only, only from a private socket, and only where nobody
answers on it or where it is the daemon's own. -/
theorem name_freed (unstarted : host.Unstarted) {actions : List (Action Process)}
    (undisturbed : Machine.Allowed (next account) Undisturbed host actions) {action : Action Process}
    (daemons : Undisturbed (Machine.run (next account) host actions) action) {inode : Nat}
    (found : (Machine.run (next account) host actions).files.entry .socket = some inode)
    (freed : (next account (Machine.run (next account) host actions) action).files.entry .socket ≠ some inode) :
    ∃ process, action = .step process ∧
      socketIsValid account ((Machine.run (next account) host actions).files.inode inode) = true ∧
      ((Machine.run (next account) host actions).files.connect .socket account.uid = .error .connectionRefused ∨
        (((Machine.run (next account) host actions).daemon process).call = .removeSocket ∧
          ((Machine.run (next account) host actions).daemon process).inode = some inode)) := by
  have settled := settled_of_run unstarted undisturbed
  generalize Machine.run (next account) host actions = reached at *
  have hungUp : ∀ process (daemon : Daemon),
      (closedListener reached.files process daemon).1.entry .socket = reached.files.entry .socket := by
    intro process daemon
    unfold closedListener
    split
    · rfl
    · exact (@LeavesSocket.hangUp _ _ _ process _).entry
  cases action with
  | step process =>
    simp only [next] at freed
    split at freed
    · rename_i running
      exact ⟨process, rfl, frees_step settled running found freed⟩
    · exact absurd found freed
  | start process | abandon process =>
    simp only [next] at freed
    split at freed
    all_goals exact absurd found freed
  | shutdown process =>
    simp only [next] at freed
    split at freed
    · exact absurd ((hungUp process _).trans found) freed
    · exact absurd found freed
  | stop process => exact absurd found freed
  | closeLock process =>
    simp only [next] at freed
    split at freed
    · exact absurd found freed
    · refine absurd ?_ freed
      simp only [Host.put, closedLock]
      split
      · exact found
      · exact (@KeepsSocket.unlock _ _ _ process _).entry.trans found
  | closeListener process =>
    simp only [next] at freed
    split at freed
    · exact absurd found freed
    · exact absurd ((hungUp process _).trans found) freed
  | disturb _ => exact daemons.elim

/-- A file at the name of the socket that no daemon may free. -/
structure Host.Foreign (account : Account) (host : Host Process) (inode : Nat) (metadata : Metadata) : Prop where
  entry : host.files.entry .socket = some inode
  unchanged : host.files.inode inode = metadata
  kept : ¬(socketIsValid account metadata = true ∧ host.files.connect .socket account.uid = .error .connectionRefused)
  untouched : ∀ process, (host.daemon process).running = true → (host.daemon process).call.touches = false
  closed : ∀ process, (host.daemon process).listener = none

theorem Host.Foreign.put {inode : Nat} {metadata : Metadata} (foreign : host.Foreign account inode metadata)
    {process : Process} {result : Advance Process} (kept : KeepsSocket host.files result.1)
    (untouched : result.2.running = true → result.2.call.touches = false) (closed : result.2.listener = none) :
    (host.put process result).Foreign account inode metadata := by
  refine ⟨kept.entry.trans foreign.entry, (kept.inode inode foreign.entry).trans foreign.unchanged, ?_, ?_, ?_⟩
  · rintro ⟨valid, refused⟩
    have plain : ∀ found, host.files.entry .socket = some found → (host.files.inode found).fileType ≠ .symlink := by
      intro found entry
      obtain rfl : inode = found := Option.some.inj (foreign.entry.symm.trans entry)
      rw [foreign.unchanged, socketIsValid_fileType valid]
      decide
    exact foreign.kept ⟨valid, (kept.connect account.uid plain).symm.trans refused⟩
  · intro other
    by_cases same : other = process
    · subst same
      simpa only [Host.put, Function.update_self] using untouched
    · simpa only [Host.put, Function.update_of_ne same] using foreign.untouched other
  · intro other
    by_cases same : other = process
    · subst same
      simpa only [Host.put, Function.update_self] using closed
    · simpa only [Host.put, Function.update_of_ne same] using foreign.closed other

/-- A daemon that has not touched the socket goes on to touch it only where the name is free, or may be freed. -/
theorem advance_untouched {files : EndpointFiles Process} {process : Process} {daemon : Daemon} {inode : Nat}
    (placed : Placed account files process daemon) (running : daemon.running = true)
    (untouched : daemon.call.touches = false) (found : files.entry .socket = some inode)
    (kept : ¬(socketIsValid account (files.inode inode) = true ∧
      files.connect .socket account.uid = .error .connectionRefused)) :
    ((advance account files process daemon).2.running = true →
      (advance account files process daemon).2.call.touches = false) ∧
      (advance account files process daemon).2.listener = daemon.listener := by
  cases called : daemon.call with
  | probeSocket =>
    obtain ⟨other, again, valid⟩ := placed.validated running (.inl called)
    obtain rfl : inode = other := Option.some.inj (found.symm.trans again)
    simp only [advance, called]
    split
    · rename_i refused
      exact absurd ⟨valid, refused⟩ kept
    · exact ⟨by simp [fail], rfl⟩
  | inspectSocket =>
    simp only [advance, called, Files.symlinkMetadata, found]
    exact ⟨by simp [proceed, Call.touches, Call.owns], rfl⟩
  | validateDirectory | openLock | checkLock | takeLock | validateParent | validateSocket | closeLock | exit =>
    simp only [advance, called]
    repeat' split
    all_goals exact ⟨by simp [proceed, fail, Call.touches, Call.owns], rfl⟩
  | removeStale | bindSocket | listen | setPermissions | confirmParent | confirmSocket | openStore | serve | drain
  | compareSocket | removeSocket =>
    simp [called, Call.touches, Call.owns] at untouched

theorem next_foreign {inode : Nat} {metadata : Metadata} (settled : host.Settled account)
    (foreign : host.Foreign account inode metadata) {action : Action Process} (undisturbed : Undisturbed host action) :
    (next account host action).Foreign account inode metadata := by
  have here := KeepsSocket.refl host.files
  have idle : ∀ process, (host.daemon process).running = true →
      (host.daemon process).call ≠ .serve ∧ (host.daemon process).call ≠ .openStore := by
    intro process running
    have untouched := foreign.untouched process running
    constructor <;> intro called <;> simp [called, Call.touches, Call.owns] at untouched
  cases action with
  | start process =>
    simp only [next]
    split
    · exact foreign.put here (by simp [Daemon.fresh, Call.touches, Call.owns]) rfl
    · exact foreign
  | step process =>
    simp only [next]
    split
    · rename_i running
      have untouched := foreign.untouched process running
      obtain ⟨still, closed⟩ := advance_untouched (settled.placed process) running untouched foreign.entry
        (foreign.unchanged.symm ▸ foreign.kept)
      exact foreign.put (advance_keeps (settled.exclusive process).named untouched) still
        (closed.trans (foreign.closed process))
    · exact foreign
  | shutdown process =>
    simp only [next]
    split
    · rename_i serving
      exact absurd serving.2 (idle process serving.1).1
    · exact foreign
  | abandon process =>
    simp only [next]
    split
    · rename_i serving
      obtain ⟨running, called | called⟩ := serving
      · exact absurd called (idle process running).2
      · exact absurd called (idle process running).1
    · exact foreign
  | stop process => exact foreign.put here (by simp) (foreign.closed process)
  | closeLock process =>
    simp only [next]
    split
    · exact foreign
    · rename_i ended
      simp only [closedLock]
      split
      · exact foreign.put here (fun running => absurd running ended) (foreign.closed process)
      · exact foreign.put (.unlock _) (fun running => absurd running ended) (foreign.closed process)
  | closeListener process =>
    simp only [next]
    split
    · exact foreign
    · rename_i ended
      simp only [closedListener, foreign.closed process]
      exact foreign.put here (fun running => absurd running ended) (foreign.closed process)
  | disturb _ => exact undisturbed.elim

/-- A file at the name of the socket that is not a private socket of the account, or on which somebody else answers,
stays as it is, and no daemon comes to use its store. -/
theorem foreign_kept (unstarted : host.Unstarted) {inode : Nat} (found : host.files.entry .socket = some inode)
    (foreign : ¬(socketIsValid account (host.files.inode inode) = true ∧
      host.files.connect .socket account.uid = .error .connectionRefused))
    {actions : List (Action Process)} (undisturbed : Machine.Allowed (next account) Undisturbed host actions) :
    (Machine.run (next account) host actions).files.entry .socket = some inode ∧
      (Machine.run (next account) host actions).files.inode inode = host.files.inode inode ∧
      ∀ process, ((Machine.run (next account) host actions).daemon process).usesStore = false := by
  have step : ∀ (before : Host Process) (action : Action Process), Undisturbed before action →
      before.Settled account ∧ before.Foreign account inode (host.files.inode inode) →
      (next account before action).Settled account ∧
        (next account before action).Foreign account inode (host.files.inode inode) :=
    fun _ _ alone both => ⟨next_settled both.1 alone, next_foreign both.1 both.2 alone⟩
  have initial : host.Settled account ∧ host.Foreign account inode (host.files.inode inode) := by
    refine ⟨unstarted.settled, found, rfl, foreign, fun process => ?_, fun process => ?_⟩
    · simp [unstarted.daemons process, idle]
    · simp [unstarted.daemons process, idle]
  have reached : (Machine.run (next account) host actions).Settled account ∧
      (Machine.run (next account) host actions).Foreign account inode (host.files.inode inode) :=
    Machine.allowed_run_preserves step initial undisturbed
  refine ⟨reached.2.entry, reached.2.unchanged, fun process => ?_⟩
  have untouched := reached.2.untouched process
  generalize Machine.run (next account) host actions = after at *
  cases running : (after.daemon process).running with
  | false => simp [Daemon.usesStore, running]
  | true =>
    have untouched := untouched running
    simp only [Call.touches, Bool.or_eq_false_iff] at untouched
    cases called : (after.daemon process).call <;> simp [Daemon.usesStore, called, Call.owns] at untouched ⊢

end Hosts

section Witnesses

/-- A daemon that comes to serve an empty directory. -/
def firstStart : List (Action Nat) :=
  .start 0 :: List.replicate 11 (.step 0)

/-- It is shut down, and compares the socket with its own. -/
def firstShutdown : List (Action Nat) :=
  firstStart ++ [.shutdown 0, .step 0, .step 0]

theorem serving_answers_firstStart :
    connect ⟨1000, 0o022⟩ (Machine.run (next ⟨1000, 0o022⟩) emptyHost firstStart).files (fun _ => 1000) = .ok 0 := by
  refine serving_answers emptyHost_unstarted ?_ 0 (by decide +kernel) (.inr (by decide +kernel)) _ rfl
  simp [firstStart, List.replicate, Machine.Allowed, Undisturbed]

theorem name_freed_firstShutdown :
    ∃ process, Action.step 0 = Action.step process ∧
      socketIsValid ⟨1000, 0o022⟩ ((Machine.run (next ⟨1000, 0o022⟩) emptyHost firstShutdown).files.inode 1) = true ∧
      ((Machine.run (next ⟨1000, 0o022⟩) emptyHost firstShutdown).files.connect .socket 1000 =
          .error .connectionRefused ∨
        (((Machine.run (next ⟨1000, 0o022⟩) emptyHost firstShutdown).daemon process).call = .removeSocket ∧
          ((Machine.run (next ⟨1000, 0o022⟩) emptyHost firstShutdown).daemon process).inode = some 1)) := by
  refine name_freed emptyHost_unstarted ?_ (by exact trivial) (by decide +kernel) (by decide +kernel)
  simp [firstShutdown, firstStart, List.replicate, Machine.Allowed, Undisturbed]

/-- An ordinary file at the name of the socket. -/
def foreignHost : Host Nat :=
  ⟨emptyFiles.create .socket ⟨.regular, 1000, 0o600, 1⟩ none, fun _ => idle⟩

theorem foreignHost_unstarted : foreignHost.Unstarted :=
  ⟨emptyHost_unstarted.named.create _ _ _, fun _ => rfl, fun inode _ => by simp [foreignHost, emptyFiles, Files.create]⟩

theorem foreign_kept_firstStart :
    (Machine.run (next ⟨1000, 0o022⟩) foreignHost firstStart).files.entry .socket = some 0 ∧
      (Machine.run (next ⟨1000, 0o022⟩) foreignHost firstStart).files.inode 0 = foreignHost.files.inode 0 ∧
      ∀ process, ((Machine.run (next ⟨1000, 0o022⟩) foreignHost firstStart).daemon process).usesStore = false := by
  refine foreign_kept foreignHost_unstarted (by decide) (by decide) ?_
  simp [firstStart, List.replicate, Machine.Allowed, Undisturbed]

end Witnesses

end Bastet.LocalIpc
