import Bastet.Daemon.Database

/-! The commands on the two catalog documents: their replacement, the first project, and
what a provider reports about a run. -/

set_option autoImplicit false

namespace Bastet.Core

open Lookup

namespace IdentityCatalog

def run? (self : IdentityCatalog) (runId : RunId) : Option Run :=
  self.runs.find? fun run => run.metadata.id = runId

def session? (self : IdentityCatalog) (sessionId : SessionId) : Option Session :=
  self.sessions.find? fun session => session.metadata.id = sessionId

def updateRun (self : IdentityCatalog) (runId : RunId) (change : Run → Run) : IdentityCatalog :=
  { self with runs := modifyFirst (·.metadata.id) runId change self.runs }

def updateSession (self : IdentityCatalog) (sessionId : SessionId) (change : Session → Session) : IdentityCatalog :=
  { self with sessions := modifyFirst (·.metadata.id) sessionId change self.sessions }

end IdentityCatalog

/-- The next revision of an entity. -/
def EntityMetadata.touch {Id : Type} (updatedAt : String) (self : EntityMetadata Id) : EntityMetadata Id :=
  { self with revision := self.revision + 1, updatedAt }

/-- A run enters a state; its other data stay. -/
def Run.enter (state : NormalizedRunState) (updatedAt : String) (run : Run) : Run :=
  { run with state, metadata := run.metadata.touch updatedAt }

def Session.name (providerSessionId updatedAt : String) (session : Session) : Session :=
  { session with providerSessionId := some providerSessionId, metadata := session.metadata.touch updatedAt }

/-- The states of a run whose provider may be at work. -/
def NormalizedRunState.isActive : NormalizedRunState → Bool
  | .starting | .running | .cancelling => true
  | _ => false

/-- The states a provider's run can be cancelled in. -/
def NormalizedRunState.isCancellable : NormalizedRunState → Bool
  | .starting | .running | .recovering => true
  | _ => false

end Bastet.Core

namespace Bastet.Daemon

open Fallible Bastet.Core

structure CatalogReceipt where
  revision : Nat
  eventSequence : Nat
  deriving DecidableEq, Repr

structure ReplaceCatalogCommand where
  expectedRevision : Nat
  catalog : IdentityCatalog
  deriving DecidableEq, Repr

structure ReplaceM3CatalogCommand where
  expectedRevision : Nat
  catalog : M3Catalog
  deriving DecidableEq, Repr

section Replacement

variable [Sha256]

def validateM3Catalog (catalog : M3Catalog) (identity : IdentityCatalog) : StoreResult Unit := do
  lift (fun error => .invalidM3 (.office error)) (catalog.office.validate identity)
  lift (fun error => .invalidM3 (.meeting error)) (catalog.meetings.validate identity catalog.office)
  lift (fun error => .invalidM3 (.deliverable error)) catalog.deliverables.validate

/-- The combined state of a catalog and executions, with the error a command makes of its own. -/
def validateM3State (convert : Message → StoreError) (catalog : M3Catalog) (executions : List GraphExecution)
    (identity : IdentityCatalog) : StoreResult Unit :=
  lift (fun error => convert (.m3 error)) (M3State.validate ⟨catalog, executions⟩ identity)

omit [Sha256] in
/-- A stored run and its session are the same in the new catalog. -/
def keepsRun (previous next : IdentityCatalog) (run : Run) : StoreResult Unit := do
  let session ← required (previous.session? run.sessionId) .runNotFound
  reject (decide (next.run? run.metadata.id ≠ some run) ||
    decide (next.session? session.metadata.id ≠ some session))
    (.invalidRunState "daemon-owned run or session cannot be replaced")

omit [Sha256] in
/-- A run that is new in the catalog has not begun. -/
def introducesIdle (previous : IdentityCatalog) (run : Run) : StoreResult Unit :=
  reject (!(previous.runs.any fun other => other.metadata.id = run.metadata.id) &&
    (decide (run.state ≠ .starting) || run.startedAt.isSome))
    (.invalidRunState "catalog cannot introduce an active provider run")

def replaceCatalog (db : Database) (command : ReplaceCatalogCommand) : StoreResult (Database × CatalogReceipt) := do
  lift .invalidCatalog command.catalog.validate
  expectRevision command.expectedRevision db.identity.revision
  forEach (keepsRun db.identity.content command.catalog) db.identity.content.runs
  forEach (introducesIdle db.identity.content) command.catalog.runs
  let executions ← loadGraphExecutions db
  validateM3State .invalidM3 db.m3.content executions command.catalog
  let revision := bump db.identity.revision
  let db ← db.writeIdentity revision command.catalog
  let db := db.insertEvent "catalog.replaced"
  return (db, ⟨revision, db.events.length⟩)

/-- The catalog is checked against the identities, not against the stored executions. -/
def replaceM3Catalog (db : Database) (command : ReplaceM3CatalogCommand) :
    StoreResult (Database × CatalogReceipt) := do
  validateM3Catalog command.catalog db.identity.content
  expectRevision command.expectedRevision db.m3.revision
  let revision ← nextRevision db.m3.revision
  let db ← db.writeM3 revision command.catalog
  let db := db.insertEvent "m3.catalog_replaced"
  return (db, ⟨revision, db.events.length⟩)

end Replacement

section FirstProject

structure PrepareMvpCommand where
  expectedCatalogRevision : Nat
  expectedM3Revision : Nat
  projectName : String
  workspaceRoot : String
  codexModel : String
  agyModel : String
  deriving DecidableEq, Repr

structure PrepareMvpReceipt where
  projectId : ProjectId
  meetingId : MeetingId
  catalogRevision : Nat
  m3Revision : Nat
  eventSequence : Nat
  deriving DecidableEq, Repr

/-- The built-in profile as desktop clients of the first release stored it. -/
def legacyDesktopProfile : PetProfile :=
  { builtinPetProfile with
    metadata := { builtinPetProfile.metadata with createdAt := "builtin-v1", updatedAt := "builtin-v1" } }

def m3IsUnconfigured (catalog : M3Catalog) : Bool :=
  decide (catalog = .empty) ||
    ((decide (catalog.office.petProfiles = [builtinPetProfile]) ||
        decide (catalog.office.petProfiles = [legacyDesktopProfile])) &&
      catalog.office.petAssignments.isEmpty && catalog.office.rooms.isEmpty &&
      decide (catalog.meetings = ⟨[], []⟩) && decide (catalog.deliverables = ⟨[], [], []⟩))

/-- A draft keeps the profiles that are stored already. -/
def keepProfiles (draft existing : M3Catalog) : M3Catalog :=
  if existing.office.petProfiles.isEmpty then draft
  else { draft with office := { draft.office with petProfiles := existing.office.petProfiles } }

def prepareMvp [Sha256] (db : Database) (ids : MvpDraftIds) (directory : Bool) (command : PrepareMvpCommand) :
    StoreResult (Database × PrepareMvpReceipt) := do
  let draft ← lift (fun error => .invalidMvp (.mvp error))
    (MvpDraft.prepare ids directory command.projectName command.workspaceRoot command.codexModel command.agyModel)
  reject (decide (db.identity.content ≠ .empty) || !m3IsUnconfigured db.m3.content)
    (.invalidMvp (.text "MVP initializer refuses to replace existing project data"))
  let m3 := keepProfiles draft.m3 db.m3.content
  expectRevision command.expectedCatalogRevision db.identity.revision
  expectRevision command.expectedM3Revision db.m3.revision
  let nextCatalog ← nextRevision db.identity.revision
  let nextM3 ← nextRevision db.m3.revision
  let db ← db.writeIdentity nextCatalog draft.identity
  let db ← db.writeM3 nextM3 m3
  let db := db.insertEvent "mvp.prepared"
  return (db, ⟨draft.projectId, draft.meetingId, nextCatalog, nextM3, db.events.length⟩)

end FirstProject

section ProviderReports

structure CancelRunReceipt where
  runId : RunId
  catalogRevision : Nat
  eventSequence : Nat
  deriving DecidableEq, Repr

def preflightProviderCancel (db : Database) (runId : RunId) (expectedCatalogRevision : Nat) : StoreResult Unit := do
  expectRevision expectedCatalogRevision db.identity.revision
  let run ← required (db.identity.content.run? runId) .runNotFound
  reject (!run.state.isCancellable) (.invalidRunState (runStateName run.state))

/-- The run is the attempt of its node with the greatest number. -/
def isCurrentAttempt (db : Database) (runId : RunId) : Bool :=
  (db.nodeRuns.find? runId).any fun row => row.attempt = db.maxAttempt row.executionId row.nodeId

/-- The first report of a starting run. -/
def markRunning (catalog : IdentityCatalog) (updatedAt : String) (run : Run) : StoreResult IdentityCatalog :=
  if run.state = .starting then do
    let _ ← nextRevision run.metadata.revision
    return catalog.updateRun run.metadata.id (Run.enter .running updatedAt)
  else return catalog

/-- The session takes the provider's name for it, when that is a new one. -/
def renamesSession (session : Session) (providerSessionId : Option String) : Bool :=
  providerSessionId.isSome && decide (session.providerSessionId ≠ providerSessionId)

def nameSession (catalog : IdentityCatalog) (updatedAt : String) (session : Session)
    (providerSessionId : Option String) : StoreResult IdentityCatalog :=
  match providerSessionId with
  | some name =>
    if session.providerSessionId ≠ some name then do
      let _ ← nextRevision session.metadata.revision
      return catalog.updateSession session.metadata.id (Session.name name updatedAt)
    else return catalog
  | none => return catalog

def recordProviderRunning (db : Database) (now : Nat) (runId : RunId) (providerSessionId : Option String) :
    StoreResult (Database × Nat) := do
  reject (providerSessionId.any isBlank) (.invalidRunState "empty provider session id")
  reject (!isCurrentAttempt db runId) (.invalidRunState "run is not the current graph node attempt")
  let run ← required (db.identity.content.run? runId) .runNotFound
  reject (!run.state.isActive) (.invalidRunState (runStateName run.state))
  let session ← required (db.identity.content.session? run.sessionId) .runNotFound
  let catalog ← markRunning db.identity.content (timestamp now) run
  let catalog ← nameSession catalog (timestamp now) session providerSessionId
  if run.state ≠ .starting ∧ renamesSession session providerSessionId = false then
    return (db, db.identity.revision)
  else do
    lift .invalidCatalog catalog.validate
    let revision ← nextRevision db.identity.revision
    let db ← db.writeIdentity revision catalog
    return (db.insertEvent "run.provider_running", revision)

/-- The run is being cancelled, in a valid catalog of the next revision. -/
def enterCancelling (db : Database) (now : Nat) (run : Run) : StoreResult (Database × Nat) := do
  let _ ← nextRevision run.metadata.revision
  let catalog := db.identity.content.updateRun run.metadata.id (Run.enter .cancelling (timestamp now))
  lift .invalidCatalog catalog.validate
  let revision ← nextRevision db.identity.revision
  let db ← db.writeIdentity revision catalog
  return (db, revision)

def recordProviderCancelAfterPreflight (db : Database) (now : Nat) (runId : RunId) :
    StoreResult (Database × CancelRunReceipt) := do
  let run ← required (db.identity.content.run? runId) .runNotFound
  if run.state.isTerminal then
    let after := db.insertEvent "run.cancel_accepted_terminal_won"
    return (after, ⟨runId, db.identity.revision, after.events.length⟩)
  else if run.state.isCancellable || run.state = .cancelling then do
    let (after, revision) ← enterCancelling db now run
    let after := after.insertEvent "run.cancel_accepted"
    return (after, ⟨runId, revision, after.events.length⟩)
  else .error (.error (.invalidRunState (runStateName run.state)))

def recordProviderCancelAccepted (db : Database) (now : Nat) (runId : RunId) (expectedCatalogRevision : Nat) :
    StoreResult (Database × CancelRunReceipt) := do
  expectRevision expectedCatalogRevision db.identity.revision
  let run ← required (db.identity.content.run? runId) .runNotFound
  reject (!run.state.isCancellable) (.invalidRunState (runStateName run.state))
  let (after, revision) ← enterCancelling db now run
  let after := after.insertEvent "run.cancel_accepted"
  return (after, ⟨runId, revision, after.events.length⟩)

end ProviderReports

end Bastet.Daemon
