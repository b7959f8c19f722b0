import Bastet.Daemon.Recovery
import Bastet.Daemon.SchemaUpgrades

/-! `Store::open` on a file of any schema, by any number of processes at the same time:
what the file says survives, and whoever opens it finds the last schema. -/

set_option autoImplicit false

namespace Bastet.Daemon

open Fallible Bastet.Core

/-- The rows of an open store. -/
def Database.content (db : Database) : Content where
  daemon := some db.daemon
  events := db.events
  identity := db.identity
  approvals := db.approvals.rows
  graphs := db.graphs.rows
  m3 := db.m3
  nodeRuns := db.nodeRuns.rows
  outputs := db.outputs.rows
  grants := db.grants.rows
  plans := db.plans.rows
  staged := db.staged.rows
  claims := db.claims.rows

/-- A store is what its rows say. -/
theorem Database.content_injective : Function.Injective Database.content := by
  intro first second same
  cases first
  cases second
  simp only [content, Content.mk.injEq, Option.some.injEq] at same
  obtain ⟨rfl, rfl, rfl, approvals, graphs, rfl, nodeRuns, outputs, grants, plans, staged, claims⟩ := same
  rw [Table.ext approvals, Table.ext graphs, Table.ext nodeRuns, Table.ext outputs, Table.ext grants, Table.ext plans,
    Table.ext staged, Table.ext claims]

namespace DatabaseFile

/-- The store of a file of the last schema. -/
def database (file : DatabaseFile) (daemon : DaemonState) : Option Database := do
  let events ← file.eventJournal
  let identity ← file.identityCatalog
  let approvals ← file.approvalRequests
  let graphs ← file.graphExecutions
  let m3 ← file.m3Catalog
  let .identified nodeRuns ← file.graphNodeRuns | none
  let .current outputs ← file.graphNodeOutputs | none
  let grants ← file.credentialGrants
  let plans ← file.providerLaunchPlans
  let .current staged ← file.stagedProviderLaunches | none
  let claims ← file.providerDispatchClaims
  return {
    daemon, identity, m3, graphs, nodeRuns := nodeRuns.toTable, outputs, approvals := approvals.toTable, grants, plans,
    staged := staged.toTable, claims := claims.toTable, events }

variable {file : DatabaseFile}

theorem database_some (legible : Legible schemaVersion file) (daemon : DaemonState) :
    ∃ db, file.database daemon = some db ∧ db.content = { file.content with daemon := some daemon } := by
  obtain ⟨-, journal, -⟩ := legible.state (by decide)
  obtain ⟨events, recorded⟩ := Option.isSome_iff_exists.mp journal
  obtain ⟨identity, identities⟩ := Option.isSome_iff_exists.mp legible.identity
  obtain ⟨approvals, requests⟩ := Option.isSome_iff_exists.mp legible.approvals
  obtain ⟨graphs, executions⟩ := Option.isSome_iff_exists.mp legible.graphs
  obtain ⟨m3, catalog⟩ := Option.isSome_iff_exists.mp legible.m3
  obtain ⟨nodeRuns, runs⟩ := runs_identified legible.runs
  obtain ⟨outputs, written⟩ := outputs_current legible.outputs
  obtain ⟨grants, issued⟩ := Option.isSome_iff_exists.mp legible.grants
  obtain ⟨plans, planned⟩ := Option.isSome_iff_exists.mp legible.plans
  obtain ⟨staged, waiting⟩ := staged_current legible.staged
  obtain ⟨claims, claimed⟩ := Option.isSome_iff_exists.mp legible.claims
  refine ⟨_, by
    simp only [database, recorded, identities, requests, executions, catalog, runs, written, issued, planned, waiting, claimed]
    rfl, ?_⟩
  simp only [Database.content, content, recorded, identities, requests, executions, catalog, runs, written, issued, planned,
    waiting, claimed, Option.map_some, Option.getD_some]
  rfl

section Opening

variable [Sha256] [SerdeJson]

/-- `Store::open` once the migrations are applied: the row of `daemon_state` is made, or the store is recovered. -/
def openMigrated (file : DatabaseFile) (now : Nat) : StoreResult Database := do
  let row ← required file.daemonState .database
  match row with
  | none => required (file.database ⟨0, .starting⟩) .database
  | some daemon =>
    let db ← required (file.database daemon) .database
    reopen db now

/-- The store that a file of the last schema opens as is determined by what it says. -/
theorem openMigrated_eq (legible : Legible schemaVersion file) :
    ∃ db : Database,
      db.content = { file.content with daemon := some (file.content.daemon.getD ⟨0, .starting⟩) } ∧
      ∀ now, file.openMigrated now = if file.content.daemon.isSome then reopen db now else .ok db := by
  obtain ⟨stated, -, -⟩ := legible.state (by decide)
  obtain ⟨row, found⟩ := Option.isSome_iff_exists.mp stated
  have daemon : file.content.daemon = row := by
    rw [content, found]
    rfl
  cases row with
  -- without a row the store is new, and there is nothing to recover
  | none =>
    obtain ⟨db, built, content⟩ := database_some legible ⟨0, .starting⟩
    refine ⟨db, ?_, ?_⟩
    · rw [content, daemon]
      rfl
    · intro now
      rw [openMigrated, found, daemon, required, okOr, ok_bind]
      dsimp only
      rw [built]
      rfl
  | some state =>
    obtain ⟨db, built, content⟩ := database_some legible state
    refine ⟨db, ?_, ?_⟩
    · rw [content, daemon]
      rfl
    · intro now
      rw [openMigrated, found, daemon, required, okOr, ok_bind]
      dsimp only
      rw [built]
      rfl

end Opening

section Openers

variable {Opener : Type} [DecidableEq Opener]

/-- The openers of one file. What they do with it once it is open may be anything. -/
abbrev Openers (Opener : Type) :=
  Migrations.Store DatabaseFile (Fault StoreError) (DatabaseFile → DatabaseFile) Opener

abbrev OpenerAction (Opener : Type) :=
  Migrations.Action (DatabaseFile → DatabaseFile) Opener

def Openers.next : Openers Opener → OpenerAction Opener → Openers Opener :=
  Migrations.Store.next migrations schemaVersion id

def Openers.run (start : Openers Opener) (actions : List (OpenerAction Opener)) : Openers Opener :=
  Machine.run Openers.next start actions

theorem versionsOf_eq : ∀ count, count ≤ schemaVersion → Migrations.versionsOf migrations count = List.range' 1 count := by
  have all : ∀ count, count < schemaVersion + 1 → Migrations.versionsOf migrations count = List.range' 1 count := by
    decide
  exact fun count within => all count (Nat.lt_succ_of_le within)

variable {version : Nat} {ledger : Option (List Nat)}

theorem openers_sound (file : DatabaseFile) (within : version ≤ schemaVersion) (held : ledger.getD [] = List.range' 1 version)
    (actions : List (OpenerAction Opener)) :
    ∃ count, Migrations.Sound migrations id version file (Openers.run (.closed ledger file) actions) count := by
  have closed : Migrations.Sound migrations id version file (.closed ledger file : Openers Opener) version :=
    .closed (held.trans (versionsOf_eq version within).symm) within
  exact closed.run migrations_increasing actions

/-- A file of schema 7 with the run of a node and its output. -/
def schema7File : DatabaseFile where
  daemonState := some (some ⟨3, .ready⟩)
  eventJournal := some []
  checkpoints := true
  identityCatalog := some ⟨0, .empty⟩
  approvalRequests := some .empty
  graphExecutions := some .empty
  m3Catalog := some ⟨0, .empty⟩
  graphNodeRuns := some (.first ⟨⟨[⟨⟨1⟩, ⟨2⟩, ⟨3⟩, "5"⟩], by decide⟩, by decide⟩)
  graphNodeOutputs := some (.first ⟨⟨[⟨⟨1⟩, ⟨2⟩, ⟨3⟩, "hash", "text", "6"⟩], by decide⟩, by decide⟩)
  credentialGrants := none
  providerLaunchPlans := none
  stagedProviderLaunches := none
  providerDispatchClaims := none

theorem schema7File_legible : Legible 7 schema7File where
  state _ := ⟨rfl, rfl, rfl⟩
  identity := rfl
  approvals := rfl
  graphs := rfl
  m3 := rfl
  runs := rfl
  outputs := rfl
  grants := rfl
  plans := rfl
  staged := rfl
  claims := rfl
  linked row member := by
    obtain rfl := List.mem_singleton.mp member
    exact ⟨by decide, by decide, _, List.mem_singleton_self _, rfl⟩
  checked _ member := by cases member

/-- Two openers read the ledger; one is overtaken, the other one finishes. -/
def race : List (OpenerAction Bool) :=
  [.step true false, .step false false, .step true false, .step false false, .step true false, .step false false] ++
    List.replicate 5 (.step true false)

/-- However openers race, fail and are killed: the ledger holds the first versions, each once; the file is the one they
found, brought to the last of these versions with what it said kept, and then changed by openers that had opened it, of which
there is none before the last version. -/
theorem openers_serialise (file : DatabaseFile) (within : version ≤ schemaVersion) (legible : Legible version file)
    (held : ledger.getD [] = List.range' 1 version) (actions : List (OpenerAction Opener)) :
    ∃ reached, reached = Openers.run (.closed ledger file) actions ∧
    ∃ count, version ≤ count ∧ count ≤ schemaVersion ∧ reached.versions.getD [] = List.range' 1 count ∧
      (∃ migrated, Legible count migrated ∧ migrated.content = file.content ∧
        reached.state = reached.uses.foldl (fun state use => use state) migrated) ∧
      (reached.uses ≠ [] → count = schemaVersion) ∧
      ∀ opener, reached.opening opener = .opened → count = schemaVersion := by
  obtain ⟨count, sound⟩ := openers_sound file within held actions
  refine ⟨_, rfl, count, sound.since, sound.within, ?_, ?_, sound.used, sound.opened⟩
  · rw [sound.ledger, versionsOf_eq count sound.within]
  · obtain ⟨missing, rfl⟩ := Nat.exists_eq_add_of_le sound.since
    obtain ⟨after, ran, later, kept⟩ := upgrades sound.within legible
    obtain ⟨migrated, reached, state⟩ := sound.content
    rw [ran] at reached
    obtain rfl := Except.ok.inj reached
    exact ⟨after, later, kept, state⟩

theorem openers_serialise_race : ∃ migrated, Legible schemaVersion migrated ∧ migrated.content = schema7File.content ∧
    (Openers.run (.closed (some (List.range' 1 7)) schema7File) race).state = migrated := by
  have within : 7 ≤ schemaVersion := by decide
  have held : (some (List.range' 1 7)).getD [] = List.range' 1 7 := rfl
  obtain ⟨_, rfl, count, _, _, _, ⟨migrated, legible, same, state⟩, _, opened⟩ :=
    openers_serialise schema7File within schema7File_legible held race
  obtain rfl := opened true rfl
  exact ⟨migrated, legible, same, state⟩

/-- An opener that is not disturbed opens the file, whatever the openers before it have left. -/
theorem opener_opens (file : DatabaseFile) (within : version ≤ schemaVersion) (legible : Legible version file)
    (held : ledger.getD [] = List.range' 1 version) (actions : List (OpenerAction Opener)) (opener : Opener)
    (fresh : (Openers.run (.closed ledger file) actions).opening opener = .started) :
    ∃ reached, reached = Openers.run (.closed ledger file) (actions ++ List.replicate 15 (.step opener false)) ∧
      reached.opening opener = .opened ∧ reached.versions.getD [] = List.range' 1 schemaVersion ∧
      ∃ migrated, Legible schemaVersion migrated ∧ migrated.content = file.content ∧
        reached.state = reached.uses.foldl (fun state use => use state) migrated := by
  obtain ⟨missing, whole⟩ := Nat.exists_eq_add_of_le within
  obtain ⟨final, ran, legible, same⟩ := upgrades (Nat.le_of_eq whole.symm) legible
  rw [← whole] at ran legible
  obtain ⟨count, sound⟩ := openers_sound file within held actions
  obtain ⟨later, reached, opened, versions, state⟩ := sound.opens migrations_increasing ran fresh
  refine ⟨later, ?_, opened, ?_, final, legible, same, state⟩
  · rw [Openers.run, Machine.run_append]
    exact reached.symm
  · rw [versions]
    rfl

/-- Whatever the openers before it have left: one that is not disturbed opens the file, and finds it in the last schema. If
nobody has used it since, it opens as the store that says what the file said at the beginning. -/
theorem next_opener_opens [Sha256] [SerdeJson] (file : DatabaseFile) (within : version ≤ schemaVersion)
    (legible : Legible version file) (held : ledger.getD [] = List.range' 1 version) (actions : List (OpenerAction Opener))
    (opener : Opener) (fresh : (Openers.run (.closed ledger file) actions).opening opener = .started) :
    ∃ reached, reached = Openers.run (.closed ledger file) (actions ++ List.replicate 15 (.step opener false)) ∧
      reached.opening opener = .opened ∧ reached.versions.getD [] = List.range' 1 schemaVersion ∧
      ∃ migrated, Legible schemaVersion migrated ∧
        reached.state = reached.uses.foldl (fun state use => use state) migrated ∧
        ∃ db : Database,
          db.content = { file.content with daemon := some (file.content.daemon.getD ⟨0, .starting⟩) } ∧
          ∀ now, migrated.openMigrated now = if file.content.daemon.isSome then reopen db now else .ok db := by
  obtain ⟨reached, ran, opened, versions, migrated, last, same, state⟩ :=
    opener_opens file within legible held actions opener fresh
  obtain ⟨db, content, opens⟩ := openMigrated_eq last
  rw [same] at content opens
  exact ⟨reached, ran, opened, versions, migrated, last, state, db, content, opens⟩

omit [DecidableEq Opener] in
theorem next_opener_opens_killed : ∃ migrated : DatabaseFile, Legible schemaVersion migrated ∧
    ∃ db : Database, db.content = schema7File.content ∧
      ∀ now, @openMigrated (.table []) SerdeJson.compact migrated now = @reopen (.table []) SerdeJson.compact db now := by
  have within : 7 ≤ schemaVersion := by decide
  obtain ⟨_, _, _, _, migrated, legible, _, db, content, opens⟩ :=
    @next_opener_opens Bool _ 7 (some (List.range' 1 7)) (.table []) SerdeJson.compact schema7File within schema7File_legible rfl
      [.step true false, .step true false, .step true false, .kill true] false rfl
  exact ⟨migrated, legible, db, content, opens⟩

/-- A new file opens as a fresh store, however many openers have failed on it. -/
theorem new_file_opens [Sha256] [SerdeJson] (actions : List (OpenerAction Opener)) (opener : Opener)
    (fresh : (Openers.run (.closed none .new) actions).opening opener = .started)
    (unused : (Openers.run (.closed none .new) (actions ++ List.replicate 15 (.step opener false))).uses = []) (now : Nat) :
    (Openers.run (.closed none .new) (actions ++ List.replicate 15 (.step opener false))).state.openMigrated now =
      .ok .fresh := by
  obtain ⟨reached, ran, _, _, migrated, last, same, state⟩ :=
    opener_opens .new (Nat.zero_le _) new_legible rfl actions opener fresh
  obtain ⟨db, content, opens⟩ := openMigrated_eq last
  have initial : db = .fresh := by
    apply Database.content_injective
    rw [content, same]
    rfl
  rw [← ran] at unused ⊢
  rw [state, unused, List.foldl_nil, opens, same, initial]
  rfl

/-- A file of a later schema is left as it is, and nobody opens it. -/
theorem newer_file_untouched (file : DatabaseFile) (newer : schemaVersion < Migrations.greatest (ledger.getD []))
    (actions : List (OpenerAction Opener)) :
    (Openers.run (.closed ledger file) actions).state = file ∧
      (Openers.run (.closed ledger file) actions).versions.getD [] = ledger.getD [] ∧
      ∀ opener, (Openers.run (.closed ledger file) actions).opening opener ≠ .opened := by
  have refused : Migrations.Refused (ledger.getD []) file (Openers.run (.closed ledger file) actions) :=
    Migrations.Refused.run newer (.closed ledger) actions
  exact ⟨refused.state, refused.ledger, refused.unopened⟩

end Openers

end DatabaseFile

end Bastet.Daemon
