import Bastet.LocalIpc.Bind

/-! What daemons that were shut down or killed leave behind. The next daemon starts unless an earlier one was killed
between making its socket and restricting it. -/

set_option autoImplicit false

namespace Bastet.LocalIpc

open UnixFiles Fallible

variable {Process : Type} [DecidableEq Process] {account : Account}

/-- The socket is there, under the mode the umask left it. -/
def Call.unrestricted (self : Call) : Bool :=
  self = .listen || self = .setPermissions

namespace Host

variable {host : Host Process}

/-- What every run leaves of an endpoint that was ready for its first daemon. -/
structure Swept (account : Account) (host : Host Process) : Prop where
  parent : directoryIsValid account host.files = true
  lock : ∀ inode, host.files.entry .lock = some inode → lockIsValid account (host.files.inode inode) = true
  clean : ∀ inode, host.files.entry .socket = some inode → tidy account (host.files.inode inode) = true ∨
    (tidyMode account = false ∧ ∃ process, (host.daemon process).call.unrestricted = true)
  leftover : tidyMode account = false → ∀ process, (host.daemon process).running = false →
    (host.daemon process).call.unrestricted = true →
    (∃ inode, host.files.entry .socket = some inode ∧ tidy account (host.files.inode inode) = false) ∧
      ∀ other, (host.daemon other).running = true → (host.daemon other).call.touches = false
  answered : ∀ inode process, host.files.entry .socket = some inode → host.files.listener inode = some process →
    (host.daemon process).listener = some inode

end Host

section Steps

variable {host : Host Process} {process : Process} {result : Advance Process}

omit [DecidableEq Process] in
theorem tidy_of_socketMode {metadata : Metadata} (fileType : metadata.fileType = .socket)
    (uid : metadata.uid = account.uid) (mode : metadata.mode = account.socketMode) :
    tidy account metadata = tidyMode account := by
  simp [tidy, tidyMode, socketIsValid, Metadata.isPrivate, Metadata.writable, fileType, uid, mode]

theorem unrestricted_touches {call : Call} (unrestricted : call.unrestricted = true) : call.touches = true := by
  simp only [Call.unrestricted, Bool.or_eq_true, decide_eq_true_eq] at unrestricted
  obtain rfl | rfl := unrestricted <;> rfl

omit [DecidableEq Process] in
/-- A daemon that is stopped while its socket is unrestricted leaves it there, and nobody else can touch it. -/
theorem Host.Settled.stopped (settled : host.Settled account) (untidy : tidyMode account = false)
    (running : (host.daemon process).running = true) (unrestricted : (host.daemon process).call.unrestricted = true) :
    (∃ inode, host.files.entry .socket = some inode ∧ tidy account (host.files.inode inode) = false) ∧
      ∀ other, other ≠ process → (host.daemon other).running = true → (host.daemon other).call.touches = false := by
  simp only [Call.unrestricted, Bool.or_eq_true, decide_eq_true_eq] at unrestricted
  obtain ⟨inode, owns⟩ := (settled.placed process).owns running
    (by obtain called | called := unrestricted <;> simp [called, Call.owns])
  refine ⟨⟨inode, owns.entry, ?_⟩, fun other apart active => ?_⟩
  · rw [tidy_of_socketMode owns.fileType owns.uid (by rw [owns.mode, if_pos unrestricted]), untidy]
  · cases touches : (host.daemon other).call.touches with
    | false => rfl
    | true =>
      have locked := Daemon.locked_of_touches active touches
      have here := Daemon.locked_of_touches running
        (by obtain called | called := unrestricted <;> simp [called, Call.touches, Call.owns])
      exact absurd (settled.exclusive.unique locked here) apart

/-- A step that leaves the socket, of a daemon that leaves nothing more unrestricted. -/
theorem Host.Swept.left (swept : host.Swept account) (left : LeavesSocket host.files process result.1)
    (lock : ∀ inode, result.1.entry .lock = some inode → lockIsValid account (result.1.inode inode) = true)
    (same : (host.daemon process).call.unrestricted = true → result.2.call.unrestricted = true)
    (back : result.2.running = false → result.2.call.unrestricted = true →
      (host.daemon process).running = false ∧ (host.daemon process).call.unrestricted = true)
    (untouched : tidyMode account = false → (∃ other, (host.daemon other).running = false ∧
        (host.daemon other).call.unrestricted = true) → result.2.running = true → result.2.call.touches = false)
    (listener : ∀ inode holder, host.files.entry .socket = some inode → result.1.listener inode = some holder →
      host.files.listener inode = some holder ∧
        (holder = process → (host.daemon process).listener = some inode → result.2.listener = some inode)) :
    (host.put process result).Swept account where
  parent := left.directoryIsValid ▸ swept.parent
  lock := lock
  clean := by
    intro inode found
    have before : host.files.entry .socket = some inode := left.entry ▸ found
    have file : result.1.inode inode = host.files.inode inode := left.inode inode before
    obtain tidied | ⟨untidy, other, unrestricted⟩ := swept.clean inode before
    · exact .inl (file.symm ▸ tidied)
    · refine .inr ⟨untidy, other, ?_⟩
      by_cases apart : other = process
      · subst apart
        simpa only [Host.put, Function.update_self] using same unrestricted
      · simpa only [Host.put, Function.update_of_ne apart] using unrestricted
  leftover := by
    intro untidy other ended unrestricted
    obtain ⟨earlier, exposed⟩ : (host.daemon other).running = false ∧ (host.daemon other).call.unrestricted = true := by
      by_cases apart : other = process
      · subst apart
        simp only [Host.put, Function.update_self] at ended unrestricted
        exact back ended unrestricted
      · simp only [Host.put, Function.update_of_ne apart] at ended unrestricted
        exact ⟨ended, unrestricted⟩
    obtain ⟨⟨inode, found, exposure⟩, idle⟩ := swept.leftover untidy other earlier exposed
    refine ⟨⟨inode, left.entry.trans found, ?_⟩, fun active running => ?_⟩
    · exact (congrArg (tidy account) (left.inode inode found)).trans exposure
    · by_cases apart : active = process
      · subst apart
        simp only [Host.put, Function.update_self] at running ⊢
        exact untouched untidy ⟨other, earlier, exposed⟩ running
      · simp only [Host.put, Function.update_of_ne apart] at running ⊢
        exact idle active running
  answered := by
    intro inode holder found listening
    have before : host.files.entry .socket = some inode := left.entry ▸ found
    obtain ⟨earlier, still⟩ := listener inode holder before listening
    have handle := swept.answered inode holder before earlier
    by_cases apart : holder = process
    · subst apart
      simpa only [Host.put, Function.update_self] using still rfl handle
    · simpa only [Host.put, Function.update_of_ne apart] using handle

/-- The same, of a step that leaves the listener too. -/
theorem Host.Swept.kept (swept : host.Swept account) (kept : KeepsSocket host.files result.1)
    (lock : ∀ inode, result.1.entry .lock = some inode → lockIsValid account (result.1.inode inode) = true)
    (same : (host.daemon process).call.unrestricted = true → result.2.call.unrestricted = true)
    (back : result.2.running = false → result.2.call.unrestricted = true →
      (host.daemon process).running = false ∧ (host.daemon process).call.unrestricted = true)
    (untouched : tidyMode account = false → (∃ other, (host.daemon other).running = false ∧
        (host.daemon other).call.unrestricted = true) → result.2.running = true → result.2.call.touches = false)
    (listener : ∀ inode, host.files.entry .socket = some inode → (host.daemon process).listener = some inode →
      result.2.listener = some inode) :
    (host.put process result).Swept account :=
  swept.left kept.leaves lock same back untouched fun inode _ found listening =>
    ⟨(kept.listener inode found) ▸ listening, fun _ => listener inode found⟩

omit [DecidableEq Process] in
/-- While a daemon may touch the socket, nobody else has left one unrestricted. -/
theorem Host.Swept.alone (swept : host.Swept account) (settled : host.Settled account)
    (running : (host.daemon process).running = true) (touches : (host.daemon process).call.touches = true)
    (untidy : tidyMode account = false) {other : Process} (unrestricted : (host.daemon other).call.unrestricted = true) :
    other = process := by
  cases ended : (host.daemon other).running with
  | false =>
    have idle := (swept.leftover untidy other ended unrestricted).2 process running
    rw [touches] at idle
    cases idle
  | true =>
    have locked := Daemon.locked_of_touches ended (unrestricted_touches unrestricted)
    exact settled.exclusive.unique locked (Daemon.locked_of_touches running touches)

/-- A step of the one daemon that may touch the socket. -/
theorem Host.Swept.touched (swept : host.Swept account) (settled : host.Settled account)
    (running : (host.daemon process).running = true) (touches : (host.daemon process).call.touches = true)
    (parent : result.1.parent = host.files.parent)
    (lock : ∀ inode, result.1.entry .lock = some inode → lockIsValid account (result.1.inode inode) = true)
    (clean : ∀ inode, result.1.entry .socket = some inode → tidy account (result.1.inode inode) = true ∨
      (tidyMode account = false ∧ result.2.call.unrestricted = true))
    (back : result.2.running = false → result.2.call.unrestricted = true →
      result.1 = host.files ∧ (host.daemon process).call.unrestricted = true)
    (answered : ∀ inode holder, result.1.entry .socket = some inode → result.1.listener inode = some holder →
      (host.files.entry .socket = some inode ∧ host.files.listener inode = some holder ∧
        result.2.listener = (host.daemon process).listener) ∨ (holder = process ∧ result.2.listener = some inode)) :
    (host.put process result).Swept account where
  parent := by
    have same : (host.put process result).files.parent = host.files.parent := parent
    rw [directoryIsValid, same]
    exact swept.parent
  lock := lock
  clean := by
    intro inode found
    obtain tidied | ⟨untidy, unrestricted⟩ := clean inode found
    · exact .inl tidied
    · exact .inr ⟨untidy, process, by simpa only [Host.put, Function.update_self] using unrestricted⟩
  leftover := by
    intro untidy other ended unrestricted
    have same : other = process := by
      by_contra apart
      simp only [Host.put, Function.update_of_ne apart] at unrestricted
      exact apart (swept.alone settled running touches untidy unrestricted)
    subst same
    simp only [Host.put, Function.update_self] at ended unrestricted
    obtain ⟨files, exposed⟩ := back ended unrestricted
    obtain ⟨left, idle⟩ := settled.stopped untidy running exposed
    refine ⟨by simpa only [Host.put, files] using left, fun active active_running => ?_⟩
    by_cases same : active = other
    · subst same
      simp only [Host.put, Function.update_self, ended] at active_running
      cases active_running
    · simp only [Host.put, Function.update_of_ne same] at active_running ⊢
      exact idle active same active_running
  answered := by
    intro inode holder found listening
    obtain ⟨before, earlier, handle⟩ | ⟨rfl, handle⟩ := answered inode holder found listening
    · have opened := swept.answered inode holder before earlier
      by_cases same : holder = process
      · subst same
        simpa only [Host.put, Function.update_self, handle] using opened
      · simpa only [Host.put, Function.update_of_ne same] using opened
    · simpa only [Host.put, Function.update_self] using handle

omit [DecidableEq Process] in
/-- The lock file is not the socket. -/
theorem Host.Swept.apart (swept : host.Swept account) {inode socket : Nat} (found : host.files.entry .lock = some inode)
    (fileType : (host.files.inode socket).fileType = .socket) : inode ≠ socket := by
  rintro rfl
  have valid := swept.lock inode found
  simp [lockIsValid, fileType] at valid

omit [DecidableEq Process] in
/-- Nothing is left unrestricted by others while a daemon has its own socket restricted, or none. -/
theorem Host.Swept.tidied (swept : host.Swept account) (settled : host.Settled account)
    (running : (host.daemon process).running = true) (touches : (host.daemon process).call.touches = true)
    (restricted : (host.daemon process).call.unrestricted = false) {inode : Nat}
    (found : host.files.entry .socket = some inode) : tidy account (host.files.inode inode) = true := by
  obtain tidied | ⟨untidy, other, unrestricted⟩ := swept.clean inode found
  · exact tidied
  · obtain rfl := swept.alone settled running touches untidy unrestricted
    rw [restricted] at unrestricted
    cases unrestricted

/-- A step of that daemon that leaves the files as they are. -/
theorem Host.Swept.proceeded (swept : host.Swept account) (settled : host.Settled account)
    (running : (host.daemon process).running = true) (touches : (host.daemon process).call.touches = true)
    (restricted : (host.daemon process).call.unrestricted = false) {later : Daemon}
    (handle : later.listener = (host.daemon process).listener) (still : later.call.unrestricted = false) :
    (host.put process (host.files, later)).Swept account := by
  refine swept.touched settled running touches rfl swept.lock (fun inode found => .inl ?_) (fun _ => ?_) ?_
  · exact swept.tidied settled running touches restricted found
  · intro unrestricted
    rw [show later.call.unrestricted = false from still] at unrestricted
    cases unrestricted
  · exact fun inode holder found listening => .inl ⟨found, listening, handle⟩

/-- A step of that daemon that frees the name. -/
theorem Host.Swept.freed (swept : host.Swept account) (settled : host.Settled account)
    (running : (host.daemon process).running = true) (touches : (host.daemon process).call.touches = true)
    {socket : Nat} (named : host.files.entry .socket = some socket)
    (fileType : (host.files.inode socket).fileType = .socket) {after : EndpointFiles Process}
    (removed : host.files.removeFile .socket = .ok after) {later : Daemon} (still : later.call.unrestricted = false) :
    (host.put process (after, later)).Swept account := by
  obtain ⟨inode, found, entries, parent, _, _, _, _, others⟩ := Files.removeFile_ok removed
  obtain rfl : socket = inode := Option.some.inj (named.symm.trans found)
  refine swept.touched settled running touches parent (fun lock located => ?_) (fun inode found => ?_) (fun _ => ?_) ?_
  · simp only [entries, Function.update_of_ne (show EndpointName.lock ≠ .socket by decide)] at located
    rw [others lock (swept.apart located fileType)]
    exact swept.lock lock located
  · simp [entries] at found
  · intro unrestricted
    rw [show later.call.unrestricted = false from still] at unrestricted
    cases unrestricted
  · intro inode holder found
    simp [entries] at found

theorem Host.Swept.advance (swept : host.Swept account) (settled : host.Settled account)
    (running : (host.daemon process).running = true) (touches : (host.daemon process).call.touches = true) :
    (host.put process (advance account host.files process (host.daemon process))).Swept account := by
  have placed := settled.placed process
  have named := (settled.exclusive process).named
  cases called : (host.daemon process).call with
  | removeStale =>
    obtain ⟨inode, found, valid⟩ := placed.validated running (.inr called)
    simp only [LocalIpc.advance, called]
    split
    · rename_i after removed
      exact swept.freed settled running touches found (socketIsValid_fileType valid) removed rfl
    · exact swept.proceeded settled running touches (by simp [called, Call.unrestricted]) rfl
        (by simp [called, Call.unrestricted])
  | removeSocket =>
    obtain ⟨inode, owns⟩ := placed.owns running (by simp [called, Call.owns])
    simp only [LocalIpc.advance, called]
    split
    · rename_i after removed
      exact swept.freed settled running touches owns.entry owns.fileType removed rfl
    · exact swept.proceeded settled running touches (by simp [called, Call.unrestricted]) rfl rfl
  | bindSocket =>
    simp only [LocalIpc.advance, called]
    split
    · rename_i listener after made
      obtain ⟨free, rfl, rfl⟩ := Files.bindSocket_ok made
      refine swept.touched settled running touches rfl (fun inode found => ?_) (fun inode found => ?_)
        (by simp [proceed, running]) ?_
      · have before : host.files.entry .lock = some inode := found
        have older : inode ≠ host.files.fresh := Nat.ne_of_lt (named .lock inode before)
        simpa only [proceed, Files.create, Function.update_of_ne older] using swept.lock inode before
      · obtain rfl : host.files.fresh = inode := by simpa [proceed] using found
        cases clean : tidyMode account with
        | true => exact .inl (by simpa [proceed, Files.create, tidyMode] using clean)
        | false => exact .inr ⟨rfl, rfl⟩
      · intro inode holder found listening
        obtain rfl : host.files.fresh = inode := by simpa [proceed] using found
        simp [proceed, Files.create] at listening
    · exact swept.proceeded settled running touches (by simp [called, Call.unrestricted]) rfl
        (by simp [called, Call.unrestricted])
  | listen =>
    obtain ⟨own, owns⟩ := placed.owns running (by simp [called, Call.owns])
    have opened := owns.opened (by simp [called])
    simp only [LocalIpc.advance, called, opened]
    refine swept.touched settled running touches rfl swept.lock (fun inode found => ?_) (by simp [proceed, running]) ?_
    · obtain tidied | ⟨untidy, _⟩ := swept.clean inode found
      · exact .inl tidied
      · exact .inr ⟨untidy, rfl⟩
    · intro inode holder found listening
      obtain rfl : own = inode := Option.some.inj (owns.entry.symm.trans found)
      simp only [proceed, Files.listen, Function.update_self, Option.some.injEq] at listening
      exact .inr ⟨listening.symm, opened⟩
  | setPermissions =>
    obtain ⟨own, owns⟩ := placed.owns running (by simp [called, Call.owns])
    simp only [LocalIpc.advance, called]
    split
    · rename_i after changed
      obtain ⟨later, parent⟩ := owns.setPermissions called changed
      obtain ⟨inode, followed, rfl⟩ := Files.setPermissions_ok changed
      obtain rfl : own = inode := by
        rw [owns.entry] at followed
        simpa [Files.follow, owns.fileType] using followed
      refine swept.touched settled running touches rfl (fun inode found => ?_) (fun inode found => .inl ?_)
        (by simp [proceed, running]) ?_
      · have before : host.files.entry .lock = some inode := found
        have differ := swept.apart before owns.fileType
        simpa only [proceed, Function.update_of_ne differ] using swept.lock inode before
      · obtain rfl : own = inode := Option.some.inj (owns.entry.symm.trans found)
        obtain ⟨valid, writable⟩ := later.restricted (by simp)
        simp only [tidy, Bool.and_eq_true]
        exact ⟨valid, writable⟩
      · exact fun inode holder found listening => .inl ⟨found, listening, rfl⟩
    · refine swept.touched settled running touches rfl swept.lock (fun inode found => ?_) (fun _ _ => ⟨rfl, ?_⟩) ?_
      · obtain tidied | ⟨untidy, _⟩ := swept.clean inode found
        · exact .inl tidied
        · exact .inr ⟨untidy, by simp [fail, called, Call.unrestricted]⟩
      · simp [called, Call.unrestricted]
      · exact fun inode holder found listening => .inl ⟨found, listening, rfl⟩
  | confirmParent | confirmSocket | compareSocket =>
    have restricted : (host.daemon process).call.unrestricted = false := by simp [called, Call.unrestricted]
    simp only [LocalIpc.advance, called]
    repeat' split
    all_goals
      exact swept.proceeded settled running touches restricted rfl (by simp [Call.unrestricted, called])
  | openStore | serve | drain =>
    have restricted : (host.daemon process).call.unrestricted = false := by simp [called, Call.unrestricted]
    simp only [LocalIpc.advance, called]
    exact swept.proceeded settled running touches restricted rfl rfl
  | _ => simp [called, Call.touches, Call.owns] at touches

/-- Away from the socket a daemon keeps its own handle, and leaves nothing unrestricted. -/
theorem advance_handle (account : Account) (files : EndpointFiles Process) (process : Process) {daemon : Daemon}
    (untouched : daemon.call.touches = false) :
    (LocalIpc.advance account files process daemon).2.listener = daemon.listener ∧
      (LocalIpc.advance account files process daemon).2.call.unrestricted = false := by
  cases called : daemon.call with
  | validateDirectory | openLock | checkLock | takeLock | inspectSocket | validateParent | validateSocket | probeSocket
  | closeLock | exit =>
    simp only [LocalIpc.advance, called]
    repeat' split
    all_goals exact ⟨rfl, by simp [proceed, fail, Call.unrestricted, called]⟩
  | _ => simp [called, Call.touches, Call.owns] at untouched

/-- The lock file stays valid: a daemon that makes it makes it private. -/
theorem advance_lockIsValid {files : EndpointFiles Process} {daemon : Daemon} (named : files.Named)
    (untouched : daemon.call.touches = false)
    (valid : ∀ inode, files.entry .lock = some inode → lockIsValid account (files.inode inode) = true) (inode : Nat)
    (found : (LocalIpc.advance account files process daemon).1.entry .lock = some inode) :
    lockIsValid account ((LocalIpc.advance account files process daemon).1.inode inode) = true := by
  cases called : daemon.call with
  | openLock =>
    simp only [LocalIpc.advance, called] at found ⊢
    split at found
    · rename_i lock after opened
      obtain ⟨_, rfl⟩ | ⟨_, _, rfl⟩ := Files.openNoFollow_ok opened
      · simpa only [proceed, opened] using valid inode found
      · obtain rfl : files.fresh = inode := by simpa [proceed] using found
        simpa only [proceed, opened, Files.create, Function.update_self] using lockIsValid_created account
    · rename_i error refused
      simpa only [fail, refused] using valid inode found
  | takeLock =>
    simp only [LocalIpc.advance, called] at found ⊢
    cases opened : daemon.lock with
    | none => simpa only [opened, fail] using valid inode (by simpa only [opened, fail] using found)
    | some lock =>
      simp only [opened] at found ⊢
      split at found
      · rename_i after taken
        obtain ⟨_, rfl⟩ := Files.flock_ok taken
        simpa only [proceed, taken] using valid inode found
      · rename_i error refused
        simpa only [fail, refused] using valid inode found
  | closeLock =>
    simp only [LocalIpc.advance, called] at found ⊢
    cases opened : daemon.lock with
    | none => simpa only [opened, fail] using valid inode (by simpa only [opened, fail] using found)
    | some lock =>
      simp only [opened, fail, Files.unlock] at found ⊢
      split at found
      · rename_i taken
        simpa only [taken, if_true] using valid inode found
      · rename_i free
        simpa only [if_neg free] using valid inode found
  | validateDirectory | checkLock | inspectSocket | validateParent | validateSocket | probeSocket | exit =>
    have same : (LocalIpc.advance account files process daemon).1 = files := by
      simp only [LocalIpc.advance, called]
      repeat' split
      all_goals rfl
    rw [same] at found ⊢
    exact valid inode found
  | _ => simp [called, Call.touches, Call.owns] at untouched

theorem next_swept (swept : host.Swept account) (settled : host.Settled account) {action : Action Process}
    (undisturbed : Undisturbed host action) : (next account host action).Swept account := by
  have here := KeepsSocket.refl host.files
  cases action with
  | start process =>
    simp only [next]
    split
    · rename_i unstarted
      refine swept.kept here swept.lock ?_ (by simp [Daemon.fresh]) ?_ ?_
      · simp [unstarted, idle, Call.unrestricted]
      · exact fun _ _ _ => rfl
      · simp [unstarted, idle]
    · exact swept
  | step process =>
    simp only [next]
    split
    · rename_i running
      have named := (settled.exclusive process).named
      -- a call that does not touch the socket leaves it and its permissions as they were
      cases touches : (host.daemon process).call.touches with
      | true => exact swept.advance settled running touches
      | false =>
        obtain ⟨handle, restricted⟩ := advance_handle account host.files process touches
        have before : (host.daemon process).call.unrestricted = false := by
          by_contra unrestricted
          simp [unrestricted_touches (Bool.not_eq_false _ ▸ unrestricted)] at touches
        refine swept.kept (advance_keeps named touches) (advance_lockIsValid named touches swept.lock) ?_ ?_ ?_ ?_
        · simp [before]
        · simp [restricted]
        · rintro untidy ⟨other, ended, unrestricted⟩ still
          obtain ⟨⟨inode, found, left⟩, _⟩ := swept.leftover untidy other ended unrestricted
          refine (advance_untouched (settled.placed process) running touches found ?_).1 still
          rintro ⟨valid, refused⟩
          rw [Files.connect_refused found (socketIsValid_fileType valid)] at refused
          rw [tidy, valid, refused.1] at left
          cases left
        · exact fun inode _ opened => handle.trans opened
    · exact swept
  | shutdown process =>
    simp only [next]
    split
    · rename_i serving
      obtain ⟨running, called⟩ := serving
      have touches : (host.daemon process).call.touches = true := by simp [called, Call.touches, Call.owns]
      obtain ⟨own, owns⟩ := (settled.placed process).owns running (by simp [called, Call.owns])
      have opened := owns.opened (by simp [called])
      have left : LeavesSocket host.files process (host.files.hangUp own process) := .hangUp own
      simp only [closedListener, opened]
      refine swept.touched settled running touches left.parent (fun inode found => ?_) (fun inode found => .inl ?_)
        (by simp [running]) ?_
      · simp only [Files.hangUp] at found ⊢
        split at found
        all_goals simpa only [*, if_true, if_false] using swept.lock inode found
      · have before : host.files.entry .socket = some inode := left.entry ▸ found
        rw [show (host.files.hangUp own process).inode inode = host.files.inode inode from left.inode inode before]
        exact swept.tidied settled running touches (by simp [called, Call.unrestricted]) before
      · intro inode holder found listening
        have before : host.files.entry .socket = some inode := left.entry ▸ found
        obtain rfl : own = inode := Option.some.inj (owns.entry.symm.trans before)
        have answering := owns.listening (by simp [called]) opened
        simp [Files.hangUp, answering] at listening
    · exact swept
  | abandon process =>
    simp only [next]
    split
    · rename_i serving
      obtain ⟨running, called⟩ := serving
      refine swept.proceeded settled running ?_ ?_ rfl rfl
      · obtain called | called := called <;> simp [called, Call.touches, Call.owns]
      · obtain called | called := called <;> simp [called, Call.unrestricted]
    · exact swept
  | stop process =>
    cases running : (host.daemon process).running with
    | false => exact swept.kept here swept.lock id (fun _ => fun exposed => ⟨running, exposed⟩) (by simp) (fun _ _ => id)
    | true =>
      cases touches : (host.daemon process).call.touches with
      | true =>
        refine swept.touched settled running touches rfl swept.lock (fun inode found => ?_) (fun _ exposed => ⟨rfl, exposed⟩) ?_
        · obtain tidied | ⟨untidy, other, unrestricted⟩ := swept.clean inode found
          · exact .inl tidied
          -- a socket that is not restricted yet is the one the stopped daemon has just bound
          · obtain rfl := swept.alone settled running touches untidy unrestricted
            exact .inr ⟨untidy, unrestricted⟩
        · exact fun inode holder found listening => .inl ⟨found, listening, rfl⟩
      | false =>
        have before : (host.daemon process).call.unrestricted = false := by
          by_contra unrestricted
          simp [unrestricted_touches (Bool.not_eq_false _ ▸ unrestricted)] at touches
        exact swept.kept here swept.lock id (by simp [before]) (by simp) (fun _ _ => id)
  | closeLock process =>
    simp only [next]
    split
    · exact swept
    · rename_i ended
      have ended := Bool.eq_false_iff.mpr ended
      simp only [closedLock]
      split
      · exact swept.kept here swept.lock id (fun _ => fun exposed => ⟨ended, exposed⟩) (by simp [ended]) (fun _ _ => id)
      · rename_i lock opened
        refine swept.kept (.unlock lock) (fun inode found => ?_) id (fun _ => fun exposed => ⟨ended, exposed⟩)
          (by simp [ended]) (fun _ _ => id)
        simp only [Files.unlock] at found ⊢
        split at found
        all_goals simpa only [*, if_true, if_false] using swept.lock inode found
  | closeListener process =>
    simp only [next]
    split
    · exact swept
    · rename_i ended
      have ended := Bool.eq_false_iff.mpr ended
      simp only [closedListener]
      split
      · exact swept.kept here swept.lock id (fun _ => fun exposed => ⟨ended, exposed⟩) (by simp [ended]) (fun _ _ => id)
      · rename_i own opened
        refine swept.left (.hangUp own) (fun inode found => ?_) id (fun _ => fun exposed => ⟨ended, exposed⟩)
          (by simp [ended]) (fun inode holder found listening => ?_)
        · simp only [Files.hangUp] at found ⊢
          split at found
          all_goals simpa only [*, if_true, if_false] using swept.lock inode found
        · simp only [Files.hangUp] at listening
          split at listening
          · rename_i answering
            by_cases same : inode = own
            · simp [same] at listening
            · simp only [Function.update_of_ne same] at listening
              refine ⟨listening, ?_⟩
              rintro rfl handle
              exact absurd (Option.some.inj (handle.symm.trans opened)) same
          · rename_i silent
            refine ⟨listening, ?_⟩
            rintro rfl handle
            obtain rfl : own = inode := Option.some.inj (opened.symm.trans handle)
            exact absurd listening silent
  | disturb _ => exact undisturbed.elim

end Steps

section Restarts

variable {host : Host Process}

/-- An endpoint that is ready for its first daemon. -/
structure Host.Ready (account : Account) (host : Host Process) : Prop where
  unstarted : host.Unstarted
  parent : directoryIsValid account host.files = true
  lock : ∀ inode, host.files.entry .lock = some inode → lockIsValid account (host.files.inode inode) = true
  socket : ∀ inode, host.files.entry .socket = some inode →
    tidy account (host.files.inode inode) = true ∧ host.files.listener inode = none

omit [DecidableEq Process] in
theorem Host.Ready.swept (ready : host.Ready account) : host.Swept account where
  parent := ready.parent
  lock := ready.lock
  clean := fun inode found => .inl (ready.socket inode found).1
  leftover := by
    intro _ process _ unrestricted
    simp [ready.unstarted.daemons process, idle, Call.unrestricted] at unrestricted
  answered := by
    intro inode process found listening
    rw [(ready.socket inode found).2] at listening
    cases listening

theorem swept_of_run (ready : host.Ready account) {actions : List (Action Process)}
    (undisturbed : Machine.Allowed (next account) Undisturbed host actions) :
    (Machine.run (next account) host actions).Swept account := by
  have step : ∀ (before : Host Process) (action : Action Process), Undisturbed before action →
      before.Settled account ∧ before.Swept account →
      (next account before action).Settled account ∧ (next account before action).Swept account :=
    fun _ _ alone both => ⟨next_settled both.1 alone, next_swept both.2 both.1 alone⟩
  exact (Machine.allowed_run_preserves step ⟨ready.unstarted.settled, ready.swept⟩ undisturbed).2

theorem next_step (process : Process) :
    next account host (.step process) = host.put process (stepOnce account process (host.files, host.daemon process)) := by
  simp only [next, stepOnce]
  split
  · rfl
  · simp [Host.put]

theorem run_steps (process : Process) (calls : Nat) :
    Machine.run (next account) host (List.replicate calls (.step process)) =
      host.put process ((stepOnce account process)^[calls] (host.files, host.daemon process)) := by
  induction calls generalizing host with
  | zero => simp [Host.put]
  | succ calls ih =>
    rw [List.replicate_succ, Machine.run_cons, next_step, ih, Function.iterate_succ_apply]
    simp [Host.put]

/-- A daemon that is started and not interrupted comes to serve exactly when `bind` succeeds. -/
theorem start_serves (process : Process) (unstarted : host.daemon process = idle) :
    ((Machine.run (next account) host (.start process :: List.replicate 15 (.step process))).daemon process).usesStore =
        true ↔
      ∃ result, bind account host.files process = .ok result := by
  have started : next account host (.start process) = host.put process (host.files, .fresh) := by
    simp [next, unstarted]
  have ends : Ends account process 15 (host.files, .fresh) (bind account host.files process) := ends_bind 0
  rw [Machine.run_cons, started, run_steps]
  simp only [Host.put, Function.update_self]
  cases outcome : bind account host.files process with
  | ok result =>
    rw [outcome] at ends
    rw [show (stepOnce account process)^[15] (host.files, .fresh) = (result.2, result.1.serving) from ends]
    exact ⟨fun _ => ⟨result, rfl⟩, fun _ => rfl⟩
  | error error =>
    rw [outcome] at ends
    have ended : ((stepOnce account process)^[15] (host.files, Daemon.fresh)).2.running = false := ends
    constructor
    · intro uses
      rw [Daemon.usesStore, ended, Bool.false_and] at uses
      cases uses
    · rintro ⟨result, impossible⟩
      cases impossible

end Restarts

section Witness

theorem emptyHost_ready : (emptyHost : Host (Fin 2)).Ready ⟨1000, 0o022⟩ where
  unstarted := emptyHost_unstarted
  parent := by decide
  lock := by simp [emptyHost, emptyFiles]
  socket := by simp [emptyHost, emptyFiles]

/-- A daemon that is killed as soon as its socket is made. -/
def killedAtListen : List (Action (Fin 2)) :=
  .start 0 :: List.replicate 6 (.step 0) ++ [.stop 0, .closeListener 0, .closeLock 0]

/-- The killed daemon has left its socket under the mode of the umask, and the next one refuses to free it. -/
example : ((Machine.run (next ⟨1000, 0o022⟩) emptyHost (killedAtListen ++ .start 1 ::
    List.replicate 15 (.step 1))).daemon 1).usesStore = false := by
  decide +kernel

end Witness

end Bastet.LocalIpc
