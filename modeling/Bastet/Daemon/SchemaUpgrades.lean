import Bastet.Daemon.SchemaMigrations

/-! What a file says is the same in every schema: each migration succeeds on the files of
the schema before it, and keeps their content. -/

set_option autoImplicit false

namespace Bastet.Daemon

open Fallible Bastet.Core

/-- The rows of a file as the last schema presents them. -/
structure Content where
  daemon : Option DaemonState
  events : List String
  identity : Versioned IdentityCatalog
  approvals : List ApprovalRow
  graphs : List GraphRow
  m3 : Versioned M3Catalog
  nodeRuns : List NodeRunRow
  outputs : List OutputRow
  grants : List GrantRow
  plans : List PlanRow
  staged : List StagedRow
  claims : List ClaimRow

def NodeRunsTable.content : NodeRunsTable → List NodeRunRow
  | .first runs => runs.rows.map fun row => row.attempted.identified
  | .attempts runs => runs.rows.map AttemptRow.identified
  | .identified runs => runs.rows

def OutputsTable.content : OutputsTable → List OutputRow
  | .first outputs => outputs.rows
  | .current outputs => outputs.rows

def StagedTable.content : StagedTable → List StagedRow
  | .first staged => staged.rows
  | .current staged => staged.rows

namespace DatabaseFile

/-- A table that does not exist yet says what its migration puts into it. -/
def content (file : DatabaseFile) : Content where
  daemon := file.daemonState.getD none
  events := file.eventJournal.getD []
  identity := file.identityCatalog.getD ⟨0, .empty⟩
  approvals := (file.approvalRequests.map fun table => table.rows).getD []
  graphs := (file.graphExecutions.map fun table => table.rows).getD []
  m3 := file.m3Catalog.getD ⟨0, .empty⟩
  nodeRuns := (file.graphNodeRuns.map NodeRunsTable.content).getD []
  outputs := (file.graphNodeOutputs.map OutputsTable.content).getD []
  grants := (file.credentialGrants.map fun table => table.rows).getD []
  plans := (file.providerLaunchPlans.map fun table => table.rows).getD []
  staged := (file.stagedProviderLaunches.map StagedTable.content).getD []
  claims := (file.providerDispatchClaims.map fun table => table.rows).getD []

/-- The layout of a version; version 7 makes the table if version 6 has not. -/
def runsLaidOut (version : Nat) : Option NodeRunsTable → Bool
  | none => decide (version < 7)
  | some (.first _) => decide (version = 6) || decide (version = 7)
  | some (.attempts _) => decide (version = 8)
  | some (.identified _) => decide (8 < version)

def outputsLaidOut (version : Nat) : Option OutputsTable → Bool
  | none => decide (version < 7)
  | some (.first _) => decide (version = 7)
  | some (.current _) => decide (7 < version)

def stagedLaidOut (version : Nat) : Option StagedTable → Bool
  | none => decide (version < 12)
  | some (.first _) => decide (version = 12)
  | some (.current _) => decide (12 < version)

/-- The tables of a schema version exist in its layout, and their rows meet its constraints. Tables that were made before
there was a ledger are kept by version 1. -/
structure Legible (version : Nat) (file : DatabaseFile) : Prop where
  state : 0 < version → file.daemonState.isSome = true ∧ file.eventJournal.isSome = true ∧ file.checkpoints = true
  identity : file.identityCatalog.isSome = decide (1 < version)
  approvals : file.approvalRequests.isSome = decide (2 < version)
  graphs : file.graphExecutions.isSome = decide (3 < version)
  m3 : file.m3Catalog.isSome = decide (4 < version)
  runs : runsLaidOut version file.graphNodeRuns = true
  outputs : outputsLaidOut version file.graphNodeOutputs = true
  grants : file.credentialGrants.isSome = decide (9 < version)
  plans : file.providerLaunchPlans.isSome = decide (10 < version)
  staged : stagedLaidOut version file.stagedProviderLaunches = true
  claims : file.providerDispatchClaims.isSome = decide (12 < version)
  /-- The `CHECK` and the foreign key of the outputs. -/
  linked : ∀ row ∈ file.content.outputs, 1 ≤ byteLength row.markdown ∧ byteLength row.markdown ≤ 262144 ∧
    ∃ run ∈ file.content.nodeRuns, run.runId = row.runId
  checked : ∀ row ∈ file.content.staged, row.valid = true

theorem new_legible : Legible 0 .new where
  state early := absurd early (Nat.lt_irrefl 0)
  identity := rfl
  approvals := rfl
  graphs := rfl
  m3 := rfl
  runs := rfl
  outputs := rfl
  grants := rfl
  plans := rfl
  staged := rfl
  claims := rfl
  linked _ member := by cases member
  checked _ member := by cases member

section Layouts

variable {runs : Option NodeRunsTable} {outputs : Option OutputsTable} {staged : Option StagedTable}

theorem runs_absent (laid : runsLaidOut 5 runs = true) : runs = none := by
  rcases runs with _ | table
  · rfl
  · cases table <;> cases laid

theorem runs_first (laid : runsLaidOut 7 runs = true) : ∃ rows, runs = some (.first rows) := by
  rcases runs with _ | table
  · cases laid
  · cases table with
    | first rows => exact ⟨rows, rfl⟩
    | _ => cases laid

theorem runs_attempts (laid : runsLaidOut 8 runs = true) : ∃ rows, runs = some (.attempts rows) := by
  rcases runs with _ | table
  · cases laid
  · cases table with
    | attempts rows => exact ⟨rows, rfl⟩
    | _ => cases laid

theorem runs_identified (laid : runsLaidOut 13 runs = true) : ∃ rows, runs = some (.identified rows) := by
  rcases runs with _ | table
  · cases laid
  · cases table with
    | identified rows => exact ⟨rows, rfl⟩
    | _ => cases laid

theorem outputs_absent (laid : outputsLaidOut 6 outputs = true) : outputs = none := by
  rcases outputs with _ | table
  · rfl
  · cases table <;> cases laid

theorem outputs_first (laid : outputsLaidOut 7 outputs = true) : ∃ rows, outputs = some (.first rows) := by
  rcases outputs with _ | table
  · cases laid
  · cases table with
    | first rows => exact ⟨rows, rfl⟩
    | _ => cases laid

theorem outputs_current (laid : outputsLaidOut 13 outputs = true) : ∃ rows, outputs = some (.current rows) := by
  rcases outputs with _ | table
  · cases laid
  · cases table with
    | current rows => exact ⟨rows, rfl⟩
    | _ => cases laid

theorem staged_absent (laid : stagedLaidOut 11 staged = true) : staged = none := by
  rcases staged with _ | table
  · rfl
  · cases table <;> cases laid

theorem staged_first (laid : stagedLaidOut 12 staged = true) : ∃ rows, staged = some (.first rows) := by
  rcases staged with _ | table
  · cases laid
  · cases table with
    | first rows => exact ⟨rows, rfl⟩
    | _ => cases laid

theorem staged_current (laid : stagedLaidOut 13 staged = true) : ∃ rows, staged = some (.current rows) := by
  rcases staged with _ | table
  · cases laid
  · cases table with
    | current rows => exact ⟨rows, rfl⟩
    | _ => cases laid

end Layouts

/-- A script leads from a version to the next one and keeps what a file says. -/
def Upgrades (version : Nat) (script : DatabaseFile → StoreResult DatabaseFile) : Prop :=
  ∀ file, Legible version file → ∃ after, script file = .ok after ∧ Legible (version + 1) after ∧ after.content = file.content

theorem createTable_ok {α : Type} {table : Option α} : createTable table = .ok () ↔ table = none := by
  rw [createTable, reject_ok, Option.isSome_eq_false_iff, Option.isNone_iff_eq_none]

theorem absent {α : Type} {table : Option α} (same : table.isSome = false) : table = none := by
  rw [← Option.isNone_iff_eq_none, ← Option.isSome_eq_false_iff]
  exact same

/-- A table that did not exist is made. -/
theorem created {α : Type} {table : Option α} {file after : DatabaseFile} {version : Nat} (missing : table = none)
    (legible : Legible version after) (same : after.content = file.content) :
    ∃ result, (do createTable table; return after : StoreResult DatabaseFile) = .ok result ∧ Legible version result ∧
      result.content = file.content := by
  refine ⟨after, ?_, legible, same⟩
  rw [createTable_ok.mpr missing, ok_bind]
  rfl

theorem schema1_upgrades : Upgrades 0 schema1 := by
  intro file legible
  refine ⟨_, rfl, { legible with state := fun _ => ⟨rfl, rfl, rfl⟩ }, rfl⟩

theorem schema2_upgrades : Upgrades 1 schema2 := by
  intro file legible
  have missing := absent legible.identity
  apply created missing
  · exact { legible with state := fun _ => legible.state (by decide), identity := rfl }
  · rw [content, content, missing]
    rfl

theorem schema3_upgrades : Upgrades 2 schema3 := by
  intro file legible
  have missing := absent legible.approvals
  apply created missing
  · exact { legible with state := fun _ => legible.state (by decide), approvals := rfl }
  · rw [content, content, missing]
    rfl

theorem schema4_upgrades : Upgrades 3 schema4 := by
  intro file legible
  have missing := absent legible.graphs
  apply created missing
  · exact { legible with state := fun _ => legible.state (by decide), graphs := rfl }
  · rw [content, content, missing]
    rfl

theorem schema5_upgrades : Upgrades 4 schema5 := by
  intro file legible
  have missing := absent legible.m3
  apply created missing
  · exact { legible with state := fun _ => legible.state (by decide), m3 := rfl }
  · rw [content, content, missing]
    rfl

theorem schema6_upgrades : Upgrades 5 schema6 := by
  intro file legible
  have missing := runs_absent legible.runs
  have same : ({ file with graphNodeRuns := some (.first .empty) } : DatabaseFile).content = file.content := by
    rw [content, content, missing]
    rfl
  refine created missing { legible with state := fun _ => legible.state (by decide), runs := rfl, linked := ?_ } same
  rw [same]
  exact legible.linked

/-- Version 7 finds the runs of version 6, or makes their table. -/
theorem schema7_upgrades : Upgrades 6 schema7 := by
  intro file legible
  have noOutputs := outputs_absent legible.outputs
  obtain ⟨runs, found, kept⟩ : ∃ runs, file.graphNodeRuns.getD (.first .empty) = .first runs ∧
      (file.graphNodeRuns.map NodeRunsTable.content).getD [] = (NodeRunsTable.first runs).content := by
    have laid := legible.runs
    cases made : file.graphNodeRuns with
    | none => exact ⟨.empty, rfl, rfl⟩
    | some table =>
      rw [made] at laid
      cases table with
      | first runs => exact ⟨runs, rfl, rfl⟩
      | attempts runs => cases laid
      | identified runs => cases laid
  have same : ({ file with
      graphNodeRuns := some (.first runs), graphNodeOutputs := some (.first .empty) } : DatabaseFile).content =
        file.content := by
    rw [content, content, noOutputs, kept]
    rfl
  refine ⟨{ file with graphNodeRuns := some (.first runs), graphNodeOutputs := some (.first .empty) }, ?_,
    { legible with
      state := fun _ => legible.state (by decide), runs := rfl, outputs := rfl, linked := ?_ }, same⟩
  · rw [schema7, found, noOutputs]
    rfl
  · rw [same]
    exact legible.linked

/-- The runs of the first schemas fit the new table: a node had one run, which becomes its first attempt. -/
theorem attempts_copied (runs : DoublyKeyed FirstRunRow.runId FirstRunRow.place) :
    ∃ after, foldEach insertAttempt (runs.rows.map FirstRunRow.attempted) .empty = .ok after ∧
      after.rows = runs.rows.map FirstRunRow.attempted := by
  have fits : DoublyKeyed.Fits AttemptRow.runId AttemptRow.place (runs.rows.map FirstRunRow.attempted) := by
    apply runs.fits.map
    · intro first inside second member same
      exact List.inj_on_of_nodup_map runs.distinct inside member same
    · intro first inside second member same
      -- two copies have one key only when the nodes are the same, since each is a first attempt
      have place : first.place = second.place := by
        simp only [AttemptRow.place, FirstRunRow.attempted, Prod.mk.injEq] at same
        rw [FirstRunRow.place, FirstRunRow.place, same.1, same.2.1]
      exact List.inj_on_of_nodup_map runs.unique inside member place
  let fitting (rows : List AttemptRow) : Prop :=
    DoublyKeyed.Fits AttemptRow.runId AttemptRow.place rows ∧ ∀ row ∈ rows, 1 ≤ row.attempt
  have accepts : ∀ (state : AttemptRuns) (row : AttemptRow), fitting (state.rows ++ [row]) →
      ∃ after, insertAttempt state row = .ok after ∧ after.rows = state.rows ++ [row] := by
    rintro state row ⟨fits, numbered⟩
    have positive := numbered row (List.mem_append_right _ (List.mem_singleton_self row))
    refine ⟨⟨⟨state.rows ++ [row], fits.1⟩, fits.2⟩, ?_, rfl⟩
    rw [insertAttempt, bind_ok]
    exact ⟨(), reject_ok.mpr (decide_eq_false (by omega)), required_ok.mpr (DoublyKeyed.insert_iff.mpr rfl)⟩
  have shorter : ∀ rows more, fitting (rows ++ more) → fitting rows :=
    fun _ _ whole => ⟨whole.1.shorter, fun row member => whole.2 row (List.mem_append_left _ member)⟩
  refine foldEach_insert insertAttempt (fun table => table.rows) fitting accepts shorter _ ⟨fits, fun row member => ?_⟩
  obtain ⟨old, _, rfl⟩ := List.mem_map.mp member
  exact Nat.le_refl 1

/-- The outputs of version 7 fit the new table, each for a run that was copied before. -/
theorem outputs_copied {runs : AttemptRuns} (outputs : DoublyKeyed OutputRow.place OutputRow.runId)
    (linked : ∀ row ∈ outputs.rows, 1 ≤ byteLength row.markdown ∧ byteLength row.markdown ≤ 262144 ∧
      ∃ run ∈ runs.rows, run.runId = row.runId) :
    ∃ after, foldEach (insertCurrentOutput runs) outputs.rows .empty = .ok after ∧ after.rows = outputs.rows := by
  let fitting (rows : List OutputRow) : Prop := (rows.map OutputRow.runId).Nodup ∧
    ∀ row ∈ rows, 1 ≤ byteLength row.markdown ∧ byteLength row.markdown ≤ 262144 ∧ ∃ run ∈ runs.rows, run.runId = row.runId
  have accepts : ∀ (state : Table OutputRow.runId) (row : OutputRow), fitting (state.rows ++ [row]) →
      ∃ after, insertCurrentOutput runs state row = .ok after ∧ after.rows = state.rows ++ [row] := by
    rintro state row ⟨distinct, suit⟩
    obtain ⟨long, short, run, recorded, same⟩ := suit row (List.mem_append_right _ (List.mem_singleton_self row))
    have known : (runs.toTable.find? row.runId).isNone = false := by
      rw [← same, Table.find?_mem recorded]
      rfl
    have fresh : state.find? row.runId = none := by
      rw [Table.find?_none]
      rw [List.map_append, List.map_singleton, List.nodup_append] at distinct
      exact fun taken => distinct.2.2 _ taken _ (List.mem_singleton_self _) rfl
    obtain ⟨after, inserted⟩ := Table.insert_of_fresh fresh
    refine ⟨after, ?_, Table.rows_insert inserted⟩
    rw [insertCurrentOutput, bind_ok]
    refine ⟨(), reject_ok.mpr ?_, bind_ok.mpr ⟨(), reject_ok.mpr known, required_ok.mpr inserted⟩⟩
    rw [Bool.or_eq_false_iff]
    exact ⟨decide_eq_false (by omega), decide_eq_false (by omega)⟩
  have shorter : ∀ rows more, fitting (rows ++ more) → fitting rows := by
    rintro rows more ⟨distinct, suit⟩
    rw [List.map_append] at distinct
    exact ⟨distinct.of_append_left, fun row member => suit row (List.mem_append_left _ member)⟩
  exact foldEach_insert (insertCurrentOutput runs) (fun table => table.rows) fitting accepts shorter _
    ⟨outputs.unique, linked⟩

theorem schema8_upgrades : Upgrades 7 schema8 := by
  intro file legible
  obtain ⟨runsV7, found⟩ := runs_first legible.runs
  obtain ⟨outputsV7, written⟩ := outputs_first legible.outputs
  obtain ⟨runs, runsCopied, runRows⟩ := attempts_copied runsV7
  have linked : ∀ row ∈ outputsV7.rows, 1 ≤ byteLength row.markdown ∧ byteLength row.markdown ≤ 262144 ∧
      ∃ run ∈ runs.rows, run.runId = row.runId := by
    intro row member
    have links := legible.linked
    rw [content, found, written] at links
    obtain ⟨long, short, run, recorded, same⟩ := links row member
    obtain ⟨old, inside, rfl⟩ := List.mem_map.mp recorded
    refine ⟨long, short, old.attempted, ?_, same⟩
    rw [runRows]
    exact List.mem_map_of_mem inside
  obtain ⟨outputs, outputsCopied, outputRows⟩ := outputs_copied outputsV7 linked
  have same : ({ file with
      graphNodeRuns := some (.attempts runs), graphNodeOutputs := some (.current outputs) } : DatabaseFile).content =
        file.content := by
    simp only [content, found, written, Option.map_some, Option.getD_some, NodeRunsTable.content, OutputsTable.content,
      runRows, outputRows, List.map_map, Function.comp_def]
  refine ⟨{ file with graphNodeRuns := some (.attempts runs), graphNodeOutputs := some (.current outputs) }, ?_,
    { legible with
      state := fun _ => legible.state (by decide), runs := rfl, outputs := rfl, linked := ?_ }, same⟩
  · rw [schema8, found, written]
    dsimp only
    rw [runsCopied, ok_bind, outputsCopied]
    rfl
  · rw [same]
    exact legible.linked

theorem schema9_upgrades : Upgrades 8 schema9 := by
  intro file legible
  obtain ⟨runs, found⟩ := runs_attempts legible.runs
  have same : ({ file with graphNodeRuns := some (.identified (runs.convert AttemptRow.identified (fun _ => rfl) fun _ => rfl)) }
      : DatabaseFile).content = file.content := by
    rw [content, content, found]
    rfl
  refine ⟨{ file with graphNodeRuns := some (.identified (runs.convert AttemptRow.identified (fun _ => rfl) fun _ => rfl)) },
    ?_, { legible with state := fun _ => legible.state (by decide), runs := rfl, linked := ?_ }, same⟩
  · rw [schema9, found]
    rfl
  · rw [same]
    exact legible.linked

theorem schema10_upgrades : Upgrades 9 schema10 := by
  intro file legible
  have missing := absent legible.grants
  apply created missing
  · exact { legible with state := fun _ => legible.state (by decide), grants := rfl }
  · rw [content, content, missing]
    rfl

theorem schema11_upgrades : Upgrades 10 schema11 := by
  intro file legible
  have missing := absent legible.plans
  apply created missing
  · exact { legible with state := fun _ => legible.state (by decide), plans := rfl }
  · rw [content, content, missing]
    rfl

theorem schema12_upgrades : Upgrades 11 schema12 := by
  intro file legible
  have missing := staged_absent legible.staged
  have same : ({ file with stagedProviderLaunches := some (.first .empty) } : DatabaseFile).content = file.content := by
    rw [content, content, missing]
    rfl
  refine created missing { legible with state := fun _ => legible.state (by decide), staged := rfl, checked := ?_ } same
  rw [same]
  exact legible.checked

/-- The staged launches of version 12 fit the new table, which allows more states. -/
theorem staged_copied (staged : DoublyKeyed StagedRow.runId StagedRow.requestId)
    (checked : ∀ row ∈ staged.rows, row.valid = true) :
    ∃ after, foldEach insertCurrentStaged staged.rows .empty = .ok after ∧ after.rows = staged.rows := by
  let fitting (rows : List StagedRow) : Prop :=
    DoublyKeyed.Fits StagedRow.runId StagedRow.requestId rows ∧ ∀ row ∈ rows, row.valid = true
  have accepts : ∀ (state : DoublyKeyed StagedRow.runId StagedRow.requestId) (row : StagedRow),
      fitting (state.rows ++ [row]) →
      ∃ after, insertCurrentStaged state row = .ok after ∧ after.rows = state.rows ++ [row] := by
    rintro state row ⟨fits, valid⟩
    have suits := valid row (List.mem_append_right _ (List.mem_singleton_self row))
    refine ⟨⟨⟨state.rows ++ [row], fits.1⟩, fits.2⟩, ?_, rfl⟩
    rw [insertCurrentStaged, suits, bind_ok]
    exact ⟨(), rfl, required_ok.mpr (DoublyKeyed.insert_iff.mpr rfl)⟩
  have shorter : ∀ rows more, fitting (rows ++ more) → fitting rows :=
    fun _ _ whole => ⟨whole.1.shorter, fun row member => whole.2 row (List.mem_append_left _ member)⟩
  exact foldEach_insert insertCurrentStaged (fun table => table.rows) fitting accepts shorter _ ⟨staged.fits, checked⟩

theorem schema13_upgrades : Upgrades 12 schema13 := by
  intro file legible
  obtain ⟨stagedV12, found⟩ := staged_first legible.staged
  -- no migration before this one makes the table of claims
  have missing := absent legible.claims
  have checked := legible.checked
  rw [content, found] at checked
  obtain ⟨staged, copied, rows⟩ := staged_copied stagedV12 checked
  have same : ({ file with
      stagedProviderLaunches := some (.current staged), providerDispatchClaims := some .empty } : DatabaseFile).content =
        file.content := by
    simp only [content, found, missing, Option.map_some, Option.map_none, Option.getD_some, Option.getD_none,
      StagedTable.content, rows, DoublyKeyed.rows_empty]
  refine ⟨{ file with stagedProviderLaunches := some (.current staged), providerDispatchClaims := some .empty }, ?_,
    { legible with
      state := fun _ => legible.state (by decide), staged := rfl, claims := rfl, checked := ?_ }, same⟩
  · rw [schema13, found]
    dsimp only
    rw [copied, ok_bind, createTable_ok.mpr missing]
    rfl
  · rw [same]
    exact legible.checked

/-- Each migration leads from the version before its own. -/
theorem migrations_upgrade {version : Nat} {migration : Migrations.Migration DatabaseFile (Fault StoreError)}
    (found : migrations[version]? = some migration) : Upgrades version migration.script := by
  rcases version with _ | _ | _ | _ | _ | _ | _ | _ | _ | _ | _ | _ | _ | version
  · cases found
    exact schema1_upgrades
  · cases found
    exact schema2_upgrades
  · cases found
    exact schema3_upgrades
  · cases found
    exact schema4_upgrades
  · cases found
    exact schema5_upgrades
  · cases found
    exact schema6_upgrades
  · cases found
    exact schema7_upgrades
  · cases found
    exact schema8_upgrades
  · cases found
    exact schema9_upgrades
  · cases found
    exact schema10_upgrades
  · cases found
    exact schema11_upgrades
  · cases found
    exact schema12_upgrades
  · cases found
    exact schema13_upgrades
  · cases found

/-- A file of any version can be brought to any later one, and says the same there. -/
theorem upgrades {version missing : Nat} (within : version + missing ≤ schemaVersion) {file : DatabaseFile}
    (legible : Legible version file) :
    ∃ after, Migrations.migrate ((migrations.take (version + missing)).drop version) file = .ok after ∧
      Legible (version + missing) after ∧ after.content = file.content := by
  induction missing generalizing version file with
  | zero =>
    refine ⟨file, ?_, legible, rfl⟩
    rw [Nat.add_zero, List.drop_of_length_le]
    · rfl
    · rw [List.length_take]
      exact Nat.min_le_left _ _
  | succ missing ih =>
    have bound : version < migrations.length := Nat.lt_of_lt_of_le (by omega) within
    have found : migrations[version]? = some migrations[version] := List.getElem?_eq_getElem bound
    obtain ⟨middle, ran, follows, kept⟩ := migrations_upgrade found file legible
    obtain ⟨after, rest, legible, same⟩ := ih (by omega) follows
    rw [Nat.add_right_comm] at rest legible
    refine ⟨after, ?_, legible, same.trans kept⟩
    have first : (migrations.take (version + (missing + 1))).drop version =
        migrations[version] :: (migrations.take (version + missing + 1)).drop (version + 1) := by
      rw [List.drop_eq_getElem_cons (by rw [List.length_take]; omega), List.getElem_take]
      rfl
    rw [first, Migrations.migrate, foldEach, ran, ok_bind]
    exact rest

end DatabaseFile

end Bastet.Daemon
